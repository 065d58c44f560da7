-- The markers that a compiler leaves in generated sources, and the rules
-- that turn them into serialisation attributes or remove them.
import ProtoRefresh.Rewrite.Rule

namespace ProtoRefresh.Rewrite

/-! ## The markers -/

/-- The word that each marker holds. -/
def insertionPoint : String := "@@protoc_insertion_point"

/-- Marks a field that is not part of the message. -/
def specialFieldMarker : String := "// @@protoc_insertion_point(special_field:"

/-- Marks the declaration of a message. -/
def messageMarker : String := "// @@protoc_insertion_point(message:"

/-- Leaves a field out when the message is serialised. -/
def serdeSkip : String := "#[cfg_attr(serde, serde(skip))]"

/-- Makes a message serialisable. -/
def serdeDerive : String := "#[cfg_attr(serde, derive(::serde::Serialize, ::serde::Deserialize))]"

/-! ## The rules -/

/-- Markers with their replacements, in the order in which they are tried. -/
def serdeMarkers : List (String × Option String) :=
  [(specialFieldMarker, some serdeSkip), (messageMarker, some serdeDerive), (insertionPoint, none)]

/-- The rules for the markers. -/
def serdeRules : List Rule := serdeMarkers.map fun (marker, replacement) => Rule.literal marker replacement

end ProtoRefresh.Rewrite
