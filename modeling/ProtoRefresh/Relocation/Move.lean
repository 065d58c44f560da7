-- Moves say which generated files go to which directory; a placement
-- tells where one of them went. A move renames only a single file that it
-- names outright.
import ProtoRefresh.Glob.Name
import ProtoRefresh.Path.Basic

namespace ProtoRefresh.Relocation

/-! ## Moves -/

/-- Whether sources allow for a new name: there has to be one, and no pattern. -/
def isSingleName : List String → Bool
  | [source] => !Glob.isPattern source
  | _ => false

structure Move where
  /-- Names or patterns of files in the generation directory. -/
  sources : List String
  /-- The directory that the files go to, seen from the root. -/
  dest : String
  rename : Option String := none
  sources_ne_nil : sources ≠ [] := by decide
  rename_single : rename.isSome = true → isSingleName sources = true := by decide
  deriving DecidableEq, Repr

/-- The moves of the protobuf crate: some files have their own place, all others are well known
types. -/
def crateMoves : List Move :=
  [{ sources := ["descriptor.rs", "plugin.rs", "rustproto.rs", "doctest_pb.rs"], dest := "src" },
   { sources := ["well_known_types_mod.rs"], dest := "src/well_known_types", rename := "mod.rs" },
   { sources := ["*.rs"], dest := "src/well_known_types" }]

/-! ## Placements -/

structure Placement where
  /-- The name of the file in the generation directory. -/
  source : String
  destination : Path
  /-- Whether the destination did not hold the same content before. -/
  changed : Bool
  deriving DecidableEq, Repr

end ProtoRefresh.Relocation
