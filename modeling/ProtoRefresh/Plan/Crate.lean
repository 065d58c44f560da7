-- The plan for the protobuf crate itself: its descriptors, the plugin
-- protocol and the well known types.
import ProtoRefresh.Plan.Basic
import ProtoRefresh.Rewrite.Marker

namespace ProtoRefresh.Plan

/-- The program that prints the path of the bundled compiler. -/
def finderProgram : String := "protoc-bin-which"

/-- The helper with that program. -/
def bundledCompiler : Helper :=
  { manifest := "../protoc-bin-vendored/Cargo.toml", bin := finderProgram }

/-- The markers and their replacements as substitutions. -/
def markerSubstitutions : List Rewrite.Substitution :=
  Rewrite.serdeMarkers.map fun (marker, replacement) =>
    ⟨Text.ofChars (Pattern.escape marker.toList), replacement.map Text.points⟩

/-- The plan for the crate in a directory. -/
def ofCrate (root : Path) : Plan where
  root := root
  helpers := [{ manifest := "../protobuf-codegen/Cargo.toml" }, bundledCompiler]
  compilerFinder := bundledCompiler
  options := [("inside_protobuf", .bool true)]
  includes := ["../proto", "../protoc-bin-vendored/include"]
  inputs :=
    ["../protoc-bin-vendored/include/google/protobuf/*.proto",
     "../protoc-bin-vendored/include/google/protobuf/compiler/*",
     "../proto/rustproto.proto",
     "../proto/doctest_pb.proto"]
  substitutions := markerSubstitutions
  moves := Relocation.crateMoves

end ProtoRefresh.Plan
