-- Where a path lies in the include path. An include directory holds a path
-- that starts with it, name by name, and the first one that does is the one
-- that the path is seen from. The text of a name that merely goes on, as
-- protos2 does behind protos, is another name.
import ProtoRefresh.Compiler.ImportPath
import ProtoRefresh.Proofs.Path.Below
import ProtoRefresh.Proofs.Path.Spelling

namespace ProtoRefresh

/-! ## Paths that start with a path -/

/-- A path starts with another one if it is that path with more names behind it, or none. -/
def Path.StartsWith (p start : Path) : Prop := ∃ names, p = start.below names

/-- The relative paths start with the current directory. -/
theorem Path.startsWith_here {p : Path} : p.StartsWith Path.here ↔ p.isAbsolute = false := by
  rw [Path.isAbsolute, bne_eq_false_iff_eq]
  constructor
  · rintro ⟨names, rfl⟩
    rfl
  · intro hslashes
    refine ⟨p.parts, ?_⟩
    rw [Path.below, Path.here, List.nil_append, ← hslashes]

/-- A name that goes on is another name. -/
theorem Path.not_startsWith_of_longer_name (slashes : Nat) (parts rest : List String)
    (name : String) (c : Char) (more : List Char) :
    ¬ (⟨slashes, parts ++ (name ++ String.ofList (c :: more)) :: rest⟩ : Path).StartsWith
      ⟨slashes, parts ++ [name]⟩ := by
  rintro ⟨names, h⟩
  have hparts : parts ++ (name ++ String.ofList (c :: more)) :: rest = parts ++ [name] ++ names :=
    congrArg Path.parts h
  rw [List.append_assoc, List.append_cancel_left_eq, List.singleton_append] at hparts
  have hname := congrArg String.toList (List.cons.inj hparts).1
  rw [String.toList_append, String.toList_ofList, List.append_right_eq_self] at hname
  cases hname

namespace Compiler

variable {setup : Setup} {tree : FileTree} {current : Location} {p start relative file : Path}
  {proto : String}

/-! ## Paths seen from a directory -/

/-- What is seen of a path is what stands behind the directory. -/
theorem relativeTo?_eq_some_iff : relativeTo? p start = some relative ↔
    relative.slashes = 0 ∧ p = start.below relative.parts := by
  obtain ⟨slashes, parts⟩ := relative
  unfold relativeTo?
  split
  · rename_i hhere
    rw [Bool.and_eq_true, decide_eq_true_eq, Bool.not_eq_true', ← Path.startsWith_here] at hhere
    obtain ⟨rfl, names, rfl⟩ := hhere
    simp [Path.below, Path.here, eq_comm]
  · unfold Path.relativeTo?
    split
    · rename_i hstart
      rw [Bool.and_eq_true, decide_eq_true_eq, List.isPrefixOf_iff_prefix] at hstart
      obtain ⟨hslashes, names, hparts⟩ := hstart
      obtain rfl : p = start.below names := by
        rw [Path.below, hparts, ← hslashes]
      simp [Path.below, eq_comm]
    · rename_i hstart
      refine iff_of_false (fun h => by cases h) ?_
      rintro ⟨-, rfl⟩
      exact hstart (by simp [Path.below])

theorem relativeTo?_eq_none_iff : relativeTo? p start = none ↔ ¬ p.StartsWith start := by
  rw [Option.eq_none_iff_forall_ne_some]
  constructor
  · rintro h ⟨names, hp⟩
    exact h ⟨0, names⟩ (relativeTo?_eq_some_iff.2 ⟨rfl, hp⟩)
  · intro h relative hrelative
    exact h ⟨relative.parts, (relativeTo?_eq_some_iff.1 hrelative).2⟩

/-! ## Paths seen from the include path -/

theorem relativePath_eq_ok (hproper : p.Proper) (h : setup.relativePath p = .ok proto) :
    ∃ before start after, setup.includes = before ++ start :: after ∧
      (∀ other ∈ before, ¬ p.StartsWith other) ∧ p.StartsWith start ∧
      start.joinText proto = p ∧ (Path.ofText proto).isAbsolute = false := by
  unfold Setup.relativePath at h
  cases hfound : setup.includes.findSome? (relativeTo? p) with
  | none =>
    rw [hfound] at h
    cases h
  | some relative =>
    rw [hfound] at h
    cases h
    obtain ⟨before, start, after, hincludes, hsome, hbefore⟩ := List.findSome?_eq_some_iff.1 hfound
    obtain ⟨hslashes, hp⟩ := relativeTo?_eq_some_iff.1 hsome
    have hrelative : relative.Proper := by
      refine ⟨by omega, fun part hpart => hproper.part part ?_⟩
      rw [hp]
      exact List.mem_append_right _ hpart
    have htext : Path.ofText relative.text = relative := Path.ofText_text hrelative
    have hnot : relative.isAbsolute = false := by simp [Path.isAbsolute, hslashes]
    refine ⟨before, start, after, hincludes, fun other ho => ?_, ⟨_, hp⟩, ?_, ?_⟩
    · exact relativeTo?_eq_none_iff.1 (hbefore other ho)
    · rw [Path.joinText, htext, Path.join_eq_below start hnot, hp]
    · rw [htext, hnot]

theorem relativePath_eq_error {failure : Failure} : setup.relativePath p = .error failure ↔
    (∀ start ∈ setup.includes, ¬ p.StartsWith start) ∧
      failure = .imports (.outside p setup.includes) := by
  have hall : setup.includes.findSome? (relativeTo? p) = none ↔
      ∀ start ∈ setup.includes, ¬ p.StartsWith start := by
    simp only [List.findSome?_eq_none_iff, relativeTo?_eq_none_iff]
  rw [← hall]
  unfold Setup.relativePath
  cases setup.includes.findSome? (relativeTo? p) with
  | none => simp [eq_comm]
  | some relative => simp

/-- An import finds the first file that stands at its proto path in an include directory. -/
theorem findImport_eq_ok_iff : setup.findImport tree current proto = .ok file ↔
    (setup.includes.map fun start => setup.locate (start.joinText proto)).find?
      (fun p => tree.pathExists current p) = some file := by
  unfold Setup.findImport
  dsimp only
  split
  · rename_i found hfound
    rw [hfound, Except.ok.injEq, Option.some.injEq]
  · rename_i hfound
    rw [hfound]
    exact iff_of_false (fun h => by cases h) (fun h => by cases h)

/-- However a path is spelled, it is seen from the first include directory that it starts with, and
is that directory with the relative path behind it; if it starts with none of them it is outside of
the include path. A directory that it does not start with never holds it, and so a directory does
not whose last name goes on in the path. -/
theorem a_path_is_seen_from_the_first_include_that_holds_it (setup : Setup) (spelled : String) :
    ((∃ before start after proto, setup.includes = before ++ start :: after ∧
        (∀ other ∈ before, ¬ (Path.ofText spelled).StartsWith other) ∧
        (Path.ofText spelled).StartsWith start ∧
        setup.relativePath (Path.ofText spelled) = .ok proto ∧
        start.joinText proto = Path.ofText spelled ∧ (Path.ofText proto).isAbsolute = false) ∨
      ((∀ start ∈ setup.includes, ¬ (Path.ofText spelled).StartsWith start) ∧
        setup.relativePath (Path.ofText spelled) =
          .error (.imports (.outside (Path.ofText spelled) setup.includes)))) ∧
    (∀ start, relativeTo? (Path.ofText spelled) start = none ↔
      ¬ (Path.ofText spelled).StartsWith start) ∧
    ∀ slashes parts name c more rest,
      relativeTo? ⟨slashes, parts ++ (name ++ String.ofList (c :: more)) :: rest⟩
        ⟨slashes, parts ++ [name]⟩ = none := by
  refine ⟨?_, fun start => relativeTo?_eq_none_iff, fun slashes parts name c more rest =>
    relativeTo?_eq_none_iff.2 (Path.not_startsWith_of_longer_name slashes parts rest name c more)⟩
  cases h : setup.relativePath (Path.ofText spelled) with
  | ok proto =>
    obtain ⟨before, start, after, hincludes, hbefore, hstart, hjoin, hrelative⟩ :=
      relativePath_eq_ok (Path.ofText_proper spelled) h
    exact Or.inl ⟨before, start, after, proto, hincludes, hbefore, hstart, rfl, hjoin, hrelative⟩
  | error failure =>
    obtain ⟨hnone, rfl⟩ := relativePath_eq_error.1 h
    exact Or.inr ⟨hnone, rfl⟩

example : ({ includes := [Path.ofText "protos", Path.ofText "//p"] } : Setup).relativePath
    (Path.ofText "protos2/a.proto") =
    .error (.imports (.outside ⟨0, ["protos2", "a.proto"]⟩ [⟨0, ["protos"]⟩, ⟨2, ["p"]⟩])) := by
  decide +kernel

end Compiler

end ProtoRefresh
