-- With what a plan is loaded, and with what it is not. What is wrong with the
-- file or its text is told to the user, except for three faults: a YAML value
-- that its reader does not know what to do with, a root that is no text, and
-- another key that is none.
import ProtoRefresh.Plan.Loading
import ProtoRefresh.Proofs.Host.Failing
import ProtoRefresh.Proofs.Host.Files
import ProtoRefresh.Proofs.Path.Below

namespace ProtoRefresh.Plan

open Document ProtoRefresh.Action

variable {host after : Host} {failure : Failure} {file : Path}

/-! ## Faults of files -/

/-- A file holds a text in one of the formats of plans, and this is how it is read. -/
def IsRead (file : Path) (host : Host) (read : Except Failure Value) : Prop :=
  ∃ text format, host.HoldsText file text ∧ Format.ofSuffix? file.suffix = some format ∧
    readDocument file format (Text.withNewlines text) = read

/-- The file of a plan has a fault that no step expects: the reader of a YAML value does not know
what to do with it, the root is no text, or another key is none. -/
inductive FileFault (file : Path) (host : Host) : Failure → Prop
  | reader {error : Yaml.YamlError} (hread : IsRead file host (.error (yamlFailure file error)))
      (hother : error ∈ [.tooLarge, .noDigits, .noTruth, .noMoment, .nestedMoment]) :
    FileFault file host (yamlFailure file error)
  | root {entries : List (Value × Value)} {value : Value}
      (hread : IsRead file host (.ok (.map entries)))
      (hroot : Value.find? entries "root" = some value) (hvalue : ∀ s, value ≠ .text s) :
    FileFault file host .wrongType
  | key {entries : List (Value × Value)} (hread : IsRead file host (.ok (.map entries)))
      (hkeys : hasTextKeys entries = false) : FileFault file host .wrongType

theorem family_yamlFailure_iff {error : Yaml.YamlError} :
    (yamlFailure file error).family = .other ↔
      error ∈ [Yaml.YamlError.tooLarge, .noDigits, .noTruth, .noMoment, .nestedMoment] := by
  cases error
  all_goals simp [yamlFailure, Failure.family]

theorem FileFault.family (h : FileFault file host failure) : failure.family = .other := by
  cases h with
  | reader hread hother => exact family_yamlFailure_iff.2 hother
  | root hread hroot hvalue => rfl
  | key hread hkeys => rfl

/-- The file of a plan gives no document: it cannot be opened or read, its ending tells no format,
or it holds no text. -/
inductive Unread (file : Path) (host : Host) : Failure → Prop
  | ended (h : isEnded file = true) : Unread file host (.endedPath .opening)
  | unreadable {error : FileError} (hopen : isEnded file = false)
      (h : host.tree.read host.current file = .error error) :
    Unread file host (.file error file.text)
  | unsupported {content : Content} (hopen : isEnded file = false)
      (hread : host.tree.read host.current file = .ok content)
      (h : Format.ofSuffix? file.suffix = none) :
    Unread file host (.document (.unsupported file.suffix))
  | undecodable {content : Content} {format : Format} {fault : Text.Utf8Fault}
      (hopen : isEnded file = false) (hread : host.tree.read host.current file = .ok content)
      (hformat : Format.ofSuffix? file.suffix = some format)
      (h : Text.decodeUtf8 content = .error fault) :
    Unread file host (.document (.undecodable fault))

/-! ## Roots -/

/-- The root that a plan names: one that is absolute stands as it is, another one is seen from the
directory of the file, and without one it is that directory. -/
inductive RootOf (file : Path) (entries : List (Value × Value)) : Path → Prop
  | absent (h : Value.find? entries "root" = none) : RootOf file entries file.parent
  | absolute {s : List Text.CodePoint} (h : Value.find? entries "root" = some (.text s))
      (habsolute : (Path.ofText (Text.shown s)).isAbsolute = true) :
    RootOf file entries (Path.ofText (Text.shown s))
  | relative {s : List Text.CodePoint} (h : Value.find? entries "root" = some (.text s))
      (hrelative : (Path.ofText (Text.shown s)).isAbsolute = false) :
    RootOf file entries (file.parent.below (Path.ofText (Text.shown s)).parts)

theorem rootOf_eq_ok_iff {entries : List (Value × Value)} {root : Path} :
    rootOf file entries = .ok root ↔ RootOf file entries root := by
  unfold rootOf
  constructor
  · intro h
    split at h
    · rename_i hfind
      cases h
      exact .absent hfind
    · rename_i s hfind
      cases h
      unfold Path.joinText
      cases habsolute : (Path.ofText (Text.shown s)).isAbsolute with
      | true =>
        unfold Path.join
        rw [if_pos habsolute]
        exact .absolute hfind habsolute
      | false =>
        rw [Path.join_eq_below _ habsolute]
        exact .relative hfind habsolute
    · cases h
  · intro h
    cases h with
    | absent h => rw [h]
    | absolute h habsolute =>
      rw [h]
      dsimp only
      rw [Path.joinText, Path.join, if_pos habsolute]
    | relative h hrelative =>
      rw [h]
      dsimp only
      rw [Path.joinText, Path.join_eq_below _ hrelative]

theorem rootOf_eq_error_iff {entries : List (Value × Value)} :
    rootOf file entries = .error failure ↔
      failure = .wrongType ∧ ∃ value, Value.find? entries "root" = some value ∧
        ∀ s, value ≠ .text s := by
  unfold rootOf
  split
  · simp_all
  · simp_all
  · rename_i value hnot hfind
    simp only [Except.error.injEq, hfind, Option.some.injEq, exists_eq_left']
    rw [and_iff_left hnot]
    exact eq_comm

/-! ## Outcomes -/

/-- The plan that a file holds: it fits the description of plans, with the root that it names. -/
inductive IsLoaded (file : Path) (host : Host) : Plan → Prop
  | fits {entries : List (Value × Value)} {root : Path} {plan : Plan}
      (hopen : isEnded file = false) (hread : IsRead file host (.ok (.map entries)))
      (hroot : RootOf file entries root) (hkeys : hasTextKeys entries = true)
      (h : readEntries root (Value.put (.text "root") (.text root.text) entries) = .ok plan) :
    IsLoaded file host { plan with root }

/-- What is told about the file of a plan: it gives no document, a text without meaning, a value
that is no mapping, or one that does not fit the description of plans. -/
inductive IsTold (file : Path) (host : Host) : Failure → Prop
  | unread {failure : Failure} (h : Unread file host failure) : IsTold file host failure
  | unparsable {fault : DocumentFault} (hopen : isEnded file = false)
      (h : IsRead file host (.error (.document fault))) : IsTold file host (.document fault)
  | notMapping {value : Value} (hopen : isEnded file = false) (hread : IsRead file host (.ok value))
      (h : value.kind ≠ .map) : IsTold file host (.document (.notMapping value.kind file))
  | invalid {entries : List (Value × Value)} {root : Path} {issues : List Issue}
      (hopen : isEnded file = false) (hread : IsRead file host (.ok (.map entries)))
      (hroot : RootOf file entries root) (hkeys : hasTextKeys entries = true)
      (h : readEntries root (Value.put (.text "root") (.text root.text) entries) = .bad issues) :
    IsTold file host (.invalid "RegenConfig" issues)

theorem IsTold.isRefusal (h : IsTold file host failure) : failure.IsRefusal := by
  cases h with
  | unread h =>
    cases h with
    | ended h => exact Or.inr rfl
    | unreadable hopen h => exact Or.inl rfl
    | unsupported hopen hread h => exact Or.inr rfl
    | undecodable hopen hread hformat h => exact Or.inr rfl
  | unparsable hopen h => exact Or.inr rfl
  | notMapping hopen hread h => exact Or.inr rfl
  | invalid hopen hread hroot hkeys h => exact Or.inr rfl

/-- With what the loading of a plan ends. -/
inductive Outcome (file : Path) (host : Host) : Except Failure Plan → Prop
  | loaded {plan : Plan} (h : IsLoaded file host plan) : Outcome file host (.ok plan)
  | told {failure : Failure} (h : IsTold file host failure) : Outcome file host (.error failure)
  | fault {failure : Failure} (hopen : isEnded file = false) (h : FileFault file host failure) :
    Outcome file host (.error failure)

theorem readDocument_eq_error {format : Format} {text : String}
    (h : readDocument file format text = .error failure) :
    (∃ fault, failure = .document fault) ∨
      ∃ error ∈ [Yaml.YamlError.tooLarge, .noDigits, .noTruth, .noMoment, .nestedMoment],
        failure = yamlFailure file error := by
  unfold readDocument at h
  cases format with
  | yaml =>
    rcases except_bind_eq_error.1 h with hread | ⟨_, _, hlast⟩
    · cases hvalue : Yaml.ofText text with
      | error error =>
        rw [hvalue] at hread
        cases hread
        cases error with
        | malformed => exact Or.inl ⟨_, rfl⟩
        | noCharacter => exact Or.inl ⟨_, rfl⟩
        | badValue message => exact Or.inl ⟨_, rfl⟩
        | _ => exact Or.inr ⟨_, by simp, rfl⟩
      | ok value =>
        rw [hvalue] at hread
        cases hread
    · cases hlast
  | json =>
    dsimp only at h
    cases hvalue : Json.ofText text with
    | error error =>
      rw [hvalue] at h
      cases h
      cases error with
      | malformed => exact Or.inl ⟨_, rfl⟩
      | tooManyDigits => exact Or.inl ⟨_, rfl⟩
    | ok value =>
      rw [hvalue] at h
      cases h

theorem kind_eq_map_iff {value : Value} :
    value.kind = .map ↔ ∃ entries, value = .map entries := by
  cases value with
  | map entries => exact iff_of_true rfl ⟨entries, rfl⟩
  | moment m =>
    refine iff_of_false (fun h => ?_) nofun
    simp only [Value.kind] at h
    split at h
    · cases h
    · cases h
  | _ => exact iff_of_false nofun nofun

/-- Every file is read, or gives no document. -/
theorem unread_or_isRead (file : Path) (host : Host) :
    (∃ failure, Unread file host failure) ∨
      isEnded file = false ∧ ∃ read, IsRead file host read := by
  cases hended : isEnded file with
  | true => exact Or.inl ⟨_, .ended hended⟩
  | false =>
    cases hread : host.tree.read host.current file with
    | error error => exact Or.inl ⟨_, .unreadable hended hread⟩
    | ok content =>
      cases hformat : Format.ofSuffix? file.suffix with
      | none => exact Or.inl ⟨_, .unsupported hended hread hformat⟩
      | some format =>
        cases hdecode : Text.decodeUtf8 content with
        | error fault => exact Or.inl ⟨_, .undecodable hended hread hformat hdecode⟩
        | ok text => exact Or.inr ⟨rfl, _, text, format, ⟨content, hread, hdecode⟩, hformat, rfl⟩

/-- The loading of every plan has an outcome. -/
theorem exists_outcome (file : Path) (host : Host) : ∃ result, Outcome file host result := by
  rcases unread_or_isRead file host with ⟨failure, hunread⟩ | ⟨hopen, read, hread⟩
  · exact ⟨_, .told (.unread hunread)⟩
  cases read with
  | error failure =>
    obtain ⟨_, _, _, _, hdocument⟩ := id hread
    rcases readDocument_eq_error hdocument with ⟨fault, rfl⟩ | ⟨error, hother, rfl⟩
    · exact ⟨_, .told (.unparsable hopen hread)⟩
    · exact ⟨_, .fault hopen (.reader hread hother)⟩
  | ok value =>
    by_cases hkind : value.kind = .map
    · obtain ⟨entries, rfl⟩ := kind_eq_map_iff.1 hkind
      cases hroot : rootOf file entries with
      | error failure =>
        obtain ⟨_, value, hfind, hvalue⟩ := rootOf_eq_error_iff.1 hroot
        exact ⟨_, .fault hopen (.root hread hfind hvalue)⟩
      | ok root =>
        cases hkeys : hasTextKeys entries with
        | false => exact ⟨_, .fault hopen (.key hread hkeys)⟩
        | true =>
          cases hfits : readEntries root (Value.put (.text "root") (.text root.text) entries) with
          | ok plan => exact ⟨_, .loaded (.fits hopen hread (rootOf_eq_ok_iff.1 hroot) hkeys hfits)⟩
          | bad issues =>
            exact ⟨_, .told (.invalid hopen hread (rootOf_eq_ok_iff.1 hroot) hkeys hfits)⟩
    · exact ⟨_, .told (.notMapping hopen hread hkind)⟩

/-! ## Loading -/

theorem ends_loadDocument_of_unread (h : Unread file host failure) :
    Ends (loadDocument file) host (.error failure) host := by
  unfold loadDocument
  cases h with
  | ended h =>
    have hread : Ends (readFile file) host (.error (.endedPath .opening)) host := by
      unfold readFile
      dsimp only
      exact ends_guard.2 (Or.inl ⟨h, rfl, rfl⟩)
    exact ends_bind.2 (Or.inl ⟨_, hread, rfl⟩)
  | unreadable hopen h =>
    exact ends_bind.2 (Or.inl ⟨_, ends_readFile_of_error hopen h, rfl⟩)
  | unsupported hopen hread h =>
    rw [ends_bind_of_gives (gives_readFile.2 ⟨hopen, hread, rfl⟩), h]
    exact ends_fail.2 ⟨rfl, rfl⟩
  | undecodable hopen hread hformat h =>
    rw [ends_bind_of_gives (gives_readFile.2 ⟨hopen, hread, rfl⟩), hformat]
    exact ends_bind.2 (Or.inl ⟨_, ends_decode_of_error h, rfl⟩)

theorem ends_loadDocument_of_isRead (hopen : isEnded file = false) {read : Except Failure Value}
    (h : IsRead file host read) : Ends (loadDocument file) host read host := by
  obtain ⟨text, format, ⟨content, hread, hdecode⟩, hformat, rfl⟩ := h
  unfold loadDocument
  rw [ends_bind_of_gives (gives_readFile.2 ⟨hopen, hread, rfl⟩), hformat]
  dsimp only
  rw [ends_bind_of_gives (gives_decode.2 ⟨hdecode, rfl⟩)]
  exact ends_ofExcept.2 ⟨rfl, rfl⟩

theorem ends_load_of_error (h : Ends (loadDocument file) host (.error failure) host) :
    Ends (load file) host (.error failure) host :=
  ends_bind.2 (Or.inl ⟨_, h, rfl⟩)

/-- The plan of a mapping whose root is known is what its entries describe. -/
theorem ends_load_of_root (hopen : isEnded file = false) {entries : List (Value × Value)}
    {root : Path} (hread : IsRead file host (.ok (.map entries)))
    (hroot : rootOf file entries = .ok root) :
    ∃ after, Ends (load file) host (planAt root entries) after := by
  unfold load
  simp only [ends_bind_of_gives (ends_ok_iff.1 (ends_loadDocument_of_isRead hopen hread))]
  simp only [ends_bind_of_gives (gives_ofExcept.2 ⟨hroot, rfl⟩)]
  simp only [ends_bind_of_changes (gives_log.2 rfl)]
  exact ⟨_, ends_ofExcept.2 ⟨rfl, rfl⟩⟩

theorem ends_load_of_wrongRoot (hopen : isEnded file = false) {entries : List (Value × Value)}
    (hread : IsRead file host (.ok (.map entries)))
    (hroot : rootOf file entries = .error failure) :
    Ends (load file) host (.error failure) host := by
  unfold load
  rw [ends_bind_of_gives (ends_ok_iff.1 (ends_loadDocument_of_isRead hopen hread))]
  exact ends_bind.2 (Or.inl ⟨_, ends_ofExcept.2 ⟨hroot.symm, rfl⟩, rfl⟩)

theorem planAt_of_hasTextKeys {root : Path} {entries : List (Value × Value)}
    (hkeys : hasTextKeys entries = true) : planAt root entries =
      match readEntries root (Value.put (.text "root") (.text root.text) entries) with
      | .ok plan => .ok { plan with root }
      | .bad issues => .error (.invalid "RegenConfig" issues) := if_pos hkeys

theorem IsTold.ends (h : IsTold file host failure) :
    ∃ after, Ends (load file) host (.error failure) after := by
  cases h with
  | unread h => exact ⟨_, ends_load_of_error (ends_loadDocument_of_unread h)⟩
  | unparsable hopen h => exact ⟨_, ends_load_of_error (ends_loadDocument_of_isRead hopen h)⟩
  | @notMapping value hopen hread h =>
    unfold load
    simp only [ends_bind_of_gives (ends_ok_iff.1 (ends_loadDocument_of_isRead hopen hread))]
    cases value with
    | map entries => exact absurd rfl h
    | _ => exact ⟨_, ends_fail.2 ⟨rfl, rfl⟩⟩
  | invalid hopen hread hroot hkeys h =>
    obtain ⟨after, hends⟩ := ends_load_of_root hopen hread (rootOf_eq_ok_iff.2 hroot)
    rw [planAt_of_hasTextKeys hkeys, h] at hends
    exact ⟨after, hends⟩

theorem FileFault.ends (hopen : isEnded file = false) (h : FileFault file host failure) :
    ∃ after, Ends (load file) host (.error failure) after := by
  cases h with
  | reader hread hother =>
    exact ⟨_, ends_load_of_error (ends_loadDocument_of_isRead hopen hread)⟩
  | root hread hroot hvalue =>
    exact ⟨_, ends_load_of_wrongRoot hopen hread (rootOf_eq_error_iff.2 ⟨rfl, _, hroot, hvalue⟩)⟩
  | @key entries hread hkeys =>
    -- a root that is no text fails in the same way before the keys are looked at
    cases hroot : rootOf file entries with
    | error failure =>
      obtain ⟨rfl, _⟩ := rootOf_eq_error_iff.1 hroot
      exact ⟨_, ends_load_of_wrongRoot hopen hread hroot⟩
    | ok root =>
      obtain ⟨after, hends⟩ := ends_load_of_root hopen hread hroot
      rw [planAt, if_neg (by simp [hkeys])] at hends
      exact ⟨after, hends⟩

/-- The loading of a plan ends with its outcome. -/
theorem Outcome.ends {result : Except Failure Plan} (h : Outcome file host result) :
    ∃ after, Ends (load file) host result after := by
  cases h with
  | loaded h =>
    cases h with
    | fits hopen hread hroot hkeys h =>
      obtain ⟨after, hends⟩ := ends_load_of_root hopen hread (rootOf_eq_ok_iff.2 hroot)
      rw [planAt_of_hasTextKeys hkeys, h] at hends
      exact ⟨after, hends⟩
  | told h => exact h.ends
  | fault hopen h => exact h.ends hopen

theorem outcome_of_ends {result : Except Failure Plan} (h : Ends (load file) host result after) :
    Outcome file host result := by
  obtain ⟨other, houtcome⟩ := exists_outcome file host
  obtain ⟨_, hends⟩ := houtcome.ends
  rwa [(h.unique hends).1]

/-- A plan is loaded, or fails with what is told to the user, or for a fault of its file. -/
theorem ends_load_error (h : Ends (load file) host (.error failure) after) :
    failure.family ≠ .other ∨ FileFault file host failure := by
  cases outcome_of_ends h with
  | told h => exact Or.inl h.isRefusal.shown
  | fault hopen h => exact Or.inr h

/-- Whatever the file is: the loading of its plan gives the plan that the file holds, with the root
that it names, or fails with what is told about the file, as the system or a check of values refuses
it, unless the file has a fault that no step expects. -/
theorem a_plan_is_loaded_or_its_fault_is_known (file : Path) (host : Host) :
    ∃ result after, Ends (load file) host result after ∧
      (∀ plan, result = .ok plan ↔ IsLoaded file host plan) ∧
      (∀ failure, result = .error failure ↔
        IsTold file host failure ∨ isEnded file = false ∧ FileFault file host failure) ∧
      ∀ failure, IsTold file host failure → failure.IsRefusal := by
  obtain ⟨result, houtcome⟩ := exists_outcome file host
  obtain ⟨after, hends⟩ := houtcome.ends
  have hunique : ∀ other, Outcome file host other → result = other := by
    intro other hother
    obtain ⟨_, hends'⟩ := hother.ends
    exact (hends.unique hends').1
  refine ⟨result, after, hends, fun plan => ⟨?_, fun h => hunique _ (.loaded h)⟩,
    fun failure => ⟨?_, ?_⟩, fun failure h => h.isRefusal⟩
  · rintro rfl
    cases houtcome with
    | loaded h => exact h
  · rintro rfl
    cases houtcome with
    | told h => exact Or.inl h
    | fault hopen h => exact Or.inr ⟨hopen, h⟩
  · rintro (h | ⟨hopen, h⟩)
    · exact hunique _ (.told h)
    · exact hunique _ (.fault hopen h)

/-- A plan with a key for its root, but no value. -/
def blankRootHost : Host where
  tree := FileTree.empty.withFile ["plan.yaml"] (encode "root:\ninputs: [a.proto]\n")
  current := []
  scratch := Path.here
  responses := []
  calls := []
  log := []

theorem a_blank_root_is_not_told :
    ∃ after, Ends (load (Path.ofText "plan.yaml")) blankRootHost (.error .wrongType) after ∧
      ¬ Failure.IsRefusal .wrongType := by
  have hrun := ends_run (load (Path.ofText "plan.yaml")) blankRootHost
  have hresult : (((load (Path.ofText "plan.yaml")).run).run blankRootHost).1 =
      .error .wrongType := eq_error_of_match (by decide +kernel)
  rw [hresult] at hrun
  refine ⟨_, hrun, ?_⟩
  rintro (h | h)
  · cases h
  · cases h

end ProtoRefresh.Plan
