-- What settings add up to. Each setting gives something to some fields of a
-- setup and leaves the others alone: it takes the place of what was given to
-- a field before, or comes behind it. So a field shows what the settings
-- gave to it, in their order, and nothing of how those for other fields
-- stood between them.
import Mathlib.Data.List.Induction
import Mathlib.Data.List.Nodup
import ProtoRefresh.Compiler.ImportPath
import ProtoRefresh.Proofs.Compiler.Command

namespace ProtoRefresh.Compiler

open Document

/-! ## What a setting gives -/

namespace Setting

def givenOutDir? : Setting → Option Path
  | .outDir p => some p
  | _ => none

def givenCompiler? : Setting → Option String
  | .compiler name => some name
  | .toolchain t => some t.compiler
  | _ => none

/-- A plugin, or that there is none. -/
def givenPlugin? : Setting → Option (Option Path)
  | .plugin p => some p
  | .toolchain t => some t.plugin
  | _ => none

def givenLang? : Setting → Option String
  | .lang name => some name
  | .toolchain t => some t.lang
  | _ => none

def givenDirectory? : Setting → Option Path
  | .directory p => some p
  | _ => none

def givenIncludes : Setting → List Path
  | .includeDir p => [p]
  | .includeDirs ps => ps
  | _ => []

def givenInputs : Setting → List Path
  | .input p => [p]
  | .inputs ps => ps
  | _ => []

def givenOptions : Setting → List (String × Value)
  | .options entries => entries
  | _ => []

theorem isRefused_eq_any (setting : Setting) :
    setting.isRefused = setting.givenOptions.any fun entry => entry.1 = "self" := by
  cases setting <;> rfl

end Setting

/-- What the last of some settings gives, of those that give something. -/
def lastGiven {α : Type} (given : Setting → Option α) (settings : List Setting) : Option α :=
  (settings.filterMap given).getLast?

theorem lastGiven_append_singleton {α : Type} (given : Setting → Option α)
    (settings : List Setting) (setting : Setting) :
    lastGiven given (settings ++ [setting]) = (given setting).or (lastGiven given settings) := by
  unfold lastGiven
  rw [List.filterMap_append, List.getLast?_append]
  cases hgiven : given setting with
  | none => rw [List.filterMap_cons_none hgiven]; rfl
  | some a => rw [List.filterMap_cons_some hgiven]; rfl

/-! ## The setup that settings add up to -/

theorem addOptions_append (options first second : List (String × Value)) :
    addOptions options (first ++ second) = addOptions (addOptions options first) second :=
  List.foldl_append

theorem ofSettings_append_singleton (settings : List Setting) (setting : Setting) :
    Setup.ofSettings (settings ++ [setting]) = (Setup.ofSettings settings).apply setting :=
  List.foldl_append

/-- What settings give to each field, with the options that they add up to. -/
def givenFields (settings : List Setting) (options : List (String × Value)) : Setup where
  outDir := lastGiven Setting.givenOutDir? settings
  includes := settings.flatMap Setting.givenIncludes
  inputs := settings.flatMap Setting.givenInputs
  options := options
  compiler := (lastGiven Setting.givenCompiler? settings).getD "protoc"
  plugin := (lastGiven Setting.givenPlugin? settings).getD none
  lang := (lastGiven Setting.givenLang? settings).getD "rust"
  directory := lastGiven Setting.givenDirectory? settings

/-- The fields of a setup hold what its settings have given to them. -/
theorem ofSettings_eq (settings : List Setting) : Setup.ofSettings settings =
    givenFields settings (addOptions [] (settings.flatMap Setting.givenOptions)) := by
  induction settings using List.reverseRecOn with
  | nil => rfl
  | append_singleton settings setting ih =>
    rw [ofSettings_append_singleton, ih]
    simp only [givenFields, lastGiven_append_singleton, List.flatMap_append,
      List.flatMap_singleton, addOptions_append]
    cases setting <;> simp [Setup.apply, Setting.givenOutDir?, Setting.givenIncludes,
      Setting.givenInputs, Setting.givenOptions, Setting.givenCompiler?, Setting.givenPlugin?,
      Setting.givenLang?, Setting.givenDirectory?, addOptions]

/-! ## Options -/

theorem keys_putText (key : String) (value : Value) (options : List (String × Value)) :
    (Plan.putText key value options).map Prod.fst =
      if key ∈ options.map Prod.fst then options.map Prod.fst
      else options.map Prod.fst ++ [key] := by
  induction options with
  | nil => rfl
  | cons option rest ih =>
    obtain ⟨k, v⟩ := option
    unfold Plan.putText
    by_cases hk : k = key
    · simp [hk]
    · have hmem : key ∈ k :: rest.map Prod.fst ↔ key ∈ rest.map Prod.fst := by
        simp [Ne.symm hk]
      rw [if_neg hk, List.map_cons, List.map_cons, ih]
      simp only [hmem]
      split <;> rfl

/-- An option that is put takes the place of the one with its key. -/
theorem mem_putText {key : String} {value : Value} {options : List (String × Value)}
    (hnodup : (options.map Prod.fst).Nodup) {option : String × Value} :
    option ∈ Plan.putText key value options ↔
      option = (key, value) ∨ option ∈ options ∧ option.1 ≠ key := by
  induction options with
  | nil => simp [Plan.putText]
  | cons first rest ih =>
    obtain ⟨k, v⟩ := first
    obtain ⟨hnot, hrest⟩ := List.nodup_cons.1 hnodup
    unfold Plan.putText
    by_cases hk : k = key
    · subst hk
      have hother : ∀ other ∈ rest, other.1 ≠ k := fun other ho heq =>
        hnot (List.mem_map.2 ⟨other, ho, heq⟩)
      rw [if_pos rfl, List.mem_cons, List.mem_cons]
      constructor
      · rintro (rfl | ho)
        · exact Or.inl rfl
        · exact Or.inr ⟨Or.inr ho, hother option ho⟩
      · rintro (rfl | ⟨rfl | ho, hne⟩)
        · exact Or.inl rfl
        · exact absurd rfl hne
        · exact Or.inr ho
    · rw [if_neg hk, List.mem_cons, ih hrest, List.mem_cons]
      constructor
      · rintro (rfl | rfl | ⟨ho, hne⟩)
        · exact Or.inr ⟨Or.inl rfl, hk⟩
        · exact Or.inl rfl
        · exact Or.inr ⟨Or.inr ho, hne⟩
      · rintro (rfl | ⟨rfl | ho, hne⟩)
        · exact Or.inr (Or.inl rfl)
        · exact Or.inl rfl
        · exact Or.inr (Or.inr ⟨ho, hne⟩)

/-- An option is the last one with its key. -/
def IsLast (entries : List (String × Value)) (option : String × Value) : Prop :=
  ∃ before after, entries = before ++ option :: after ∧ ∀ later ∈ after, later.1 ≠ option.1

theorem isLast_append_singleton {entries : List (String × Value)} {entry option : String × Value} :
    IsLast (entries ++ [entry]) option ↔
      option = entry ∨ IsLast entries option ∧ option.1 ≠ entry.1 := by
  constructor
  · rintro ⟨before, after, heq, hlater⟩
    rcases List.eq_nil_or_concat after with rfl | ⟨middle, last, rfl⟩
    · exact Or.inl (List.append_inj_right' heq rfl |> List.singleton_inj.1).symm
    · rw [List.concat_eq_append] at heq hlater
      rw [← List.cons_append, ← List.append_assoc] at heq
      obtain ⟨rfl, hlast⟩ := List.append_inj' heq rfl
      obtain rfl := List.singleton_inj.1 hlast
      exact Or.inr ⟨⟨before, middle, rfl, fun later hl => hlater later (List.mem_append_left _ hl)⟩,
        (hlater entry (by simp)).symm⟩
  · rintro (rfl | ⟨⟨before, after, rfl, hlater⟩, hne⟩)
    · exact ⟨entries, [], rfl, fun later hl => absurd hl List.not_mem_nil⟩
    · refine ⟨before, after ++ [entry], by simp, fun later hl => ?_⟩
      rcases List.mem_append.1 hl with hl | hl
      · exact hlater later hl
      · rw [List.mem_singleton.1 hl]
        exact hne.symm

/-- Some options name each key once, in the order in which the entries name them first, with the
value that the entries give it last. -/
structure Merges (entries options : List (String × Value)) : Prop where
  keys : options.map Prod.fst = (entries.map Prod.fst).eraseDups
  once : (options.map Prod.fst).Nodup
  last : ∀ option, option ∈ options ↔ IsLast entries option

theorem eraseDups_append_singleton (keys : List String) (key : String) :
    (keys ++ [key]).eraseDups = if key ∈ keys then keys.eraseDups else keys.eraseDups ++ [key] := by
  rw [List.eraseDups_append]
  by_cases h : key ∈ keys
  · simp [h, List.removeAll]
  · simp [h, List.removeAll, List.eraseDups_cons]

theorem merges_addOptions (entries : List (String × Value)) :
    Merges entries (addOptions [] entries) := by
  induction entries using List.reverseRecOn with
  | nil => exact ⟨rfl, List.nodup_nil, fun option => by simp [addOptions, IsLast]⟩
  | append_singleton entries entry ih =>
    obtain ⟨key, value⟩ := entry
    have hput : addOptions [] (entries ++ [(key, value)]) =
        Plan.putText key value (addOptions [] entries) := addOptions_append [] entries _
    have hmem : key ∈ (addOptions [] entries).map Prod.fst ↔ key ∈ entries.map Prod.fst := by
      rw [ih.keys, List.mem_eraseDups]
    rw [hput]
    constructor
    · rw [keys_putText, List.map_append, List.map_singleton, eraseDups_append_singleton, ← ih.keys]
      simp only [hmem]
    · rw [keys_putText]
      split
      · exact ih.once
      · rename_i hnot
        exact List.nodup_append.2 ⟨ih.once, List.nodup_singleton key, fun other ho same hs heq =>
          hnot (by rwa [← List.mem_singleton.1 hs, ← heq])⟩
    · intro option
      rw [mem_putText ih.once, ih.last, isLast_append_singleton]

/-! ## The answers -/

/-- Two chains of settings give the same to each field, in the same order where it adds up. -/
structure Agree (first second : List Setting) : Prop where
  outDir : lastGiven Setting.givenOutDir? first = lastGiven Setting.givenOutDir? second
  compiler : lastGiven Setting.givenCompiler? first = lastGiven Setting.givenCompiler? second
  plugin : lastGiven Setting.givenPlugin? first = lastGiven Setting.givenPlugin? second
  lang : lastGiven Setting.givenLang? first = lastGiven Setting.givenLang? second
  directory : lastGiven Setting.givenDirectory? first = lastGiven Setting.givenDirectory? second
  includes : first.flatMap Setting.givenIncludes = second.flatMap Setting.givenIncludes
  inputs : first.flatMap Setting.givenInputs = second.flatMap Setting.givenInputs
  options : first.flatMap Setting.givenOptions = second.flatMap Setting.givenOptions

theorem Agree.ofSettings_eq {first second : List Setting} (h : Agree first second) :
    Setup.ofSettings first = Setup.ofSettings second := by
  rw [Compiler.ofSettings_eq, Compiler.ofSettings_eq]
  unfold givenFields
  rw [h.outDir, h.compiler, h.plugin, h.lang, h.directory, h.includes, h.inputs, h.options]

theorem Agree.isRefused {first second : List Setting} (h : Agree first second) :
    first.any Setting.isRefused = second.any Setting.isRefused := by
  have hany : ∀ settings : List Setting, settings.any Setting.isRefused =
      (settings.flatMap Setting.givenOptions).any fun entry => entry.1 = "self" := by
    intro settings
    rw [List.any_flatMap]
    exact congrArg settings.any (funext Setting.isRefused_eq_any)
  rw [hany, hany, h.options]

/-- Settings that give the same to each field make one setup, however those for one field stand
between those for others. The command names each option once, where the settings name it first and
with the value that they give it last, and all include directories and inputs in order. -/
theorem settings_of_different_fields_may_change_places {first second : List Setting}
    (h : Agree first second) :
    (Setup.ofSettings first).command = (Setup.ofSettings second).command ∧
    (Setup.ofSettings first).relativePaths = (Setup.ofSettings second).relativePaths ∧
    (Setup.ofSettings first).checkImports = (Setup.ofSettings second).checkImports ∧
    first.any Setting.isRefused = second.any Setting.isRefused ∧
    ∀ settings, ∃ options, Merges (settings.flatMap Setting.givenOptions) options ∧
      ∀ argv, (Setup.ofSettings settings).command = .ok argv ↔
        ∃ outDir, lastGiven Setting.givenOutDir? settings = some outDir ∧
          settings.flatMap Setting.givenInputs ≠ [] ∧
          argv = (givenFields settings options).arguments outDir := by
  rw [h.ofSettings_eq]
  refine ⟨rfl, rfl, rfl, h.isRefused, fun settings => ⟨_, merges_addOptions _, fun argv => ?_⟩⟩
  rw [ofSettings_eq, Setup.command_eq_ok_iff]
  rfl

/-- A toolchain and then a language; all inputs at once; an option that is set again. -/
def groupedSettings : List Setting :=
  [.toolchain ⟨"p", none, "java"⟩, .lang "rust", .options [("a", .bool true), ("b", .int 1)],
    .options [("a", .text "z")], .includeDir ⟨0, ["i"]⟩,
    .inputs [⟨0, ["x"]⟩, ⟨0, ["y"]⟩], .outDir ⟨0, ["o"]⟩]

/-- The same settings one by one, with one for the output directory that does not last. -/
def mixedSettings : List Setting :=
  [.input ⟨0, ["x"]⟩, .outDir ⟨0, ["n"]⟩, .lang "rust",
    .options [("a", .bool true), ("b", .int 1)], .input ⟨0, ["y"]⟩, .compiler "p",
    .outDir ⟨0, ["o"]⟩, .includeDirs [⟨0, ["i"]⟩], .options [("a", .text "z")],
    .plugin none]

theorem mixed_settings_give_the_grouped_command :
    Agree groupedSettings mixedSettings ∧
      (Setup.ofSettings groupedSettings).command = (Setup.ofSettings mixedSettings).command ∧
      (Setup.ofSettings mixedSettings).command =
        .ok ["p", "--rust_out", "o", "--rust_opt", "a=z,b=1", "-Ii", "x", "y"] := by
  have h : Agree groupedSettings mixedSettings := ⟨rfl, rfl, rfl, rfl, rfl, rfl, rfl, rfl⟩
  exact ⟨h, (settings_of_different_fields_may_change_places h).1,
    Setup.command_eq_ok_iff.2 ⟨⟨0, ["o"]⟩, rfl, List.cons_ne_nil _ _, by decide +kernel⟩⟩

end ProtoRefresh.Compiler
