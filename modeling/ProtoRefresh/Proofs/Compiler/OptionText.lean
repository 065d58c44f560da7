-- The options of a setup as a generator reads them. All options stand in one
-- argument, with a comma between two of them and an equals sign behind each
-- key, and nothing marks a comma or an equals sign that belongs to a key or
-- a value. So they are told apart only where no option holds these itself.
import Mathlib.Data.List.TakeWhile
import ProtoRefresh.Proofs.Compiler.Command
import ProtoRefresh.Proofs.Text.Pieces
import ProtoRefresh.Regeneration.Regenerate

namespace ProtoRefresh.Compiler

open Decimal Document Text

variable {setup : Setup} {argv : List String}

/-! ## Texts without commas -/

/-- A text without commas. -/
def NoComma (text : String) : Prop := ',' ∉ text.toList

instance (text : String) : Decidable (NoComma text) :=
  inferInstanceAs (Decidable (',' ∉ text.toList))

theorem NoComma.ite {p : Prop} [Decidable p] {first second : String} (h : NoComma first)
    (h' : NoComma second) : NoComma (if p then first else second) := by
  split
  · exact h
  · exact h'

theorem NoComma.append {first second : String} (h : NoComma first) (h' : NoComma second) :
    NoComma (first ++ second) := by
  unfold NoComma at *
  rw [String.toList_append, List.mem_append, not_or]
  exact ⟨h, h'⟩

theorem noComma_ofList {text : String} (h : NoComma text) {part : List Char}
    (hpart : part ⊆ text.toList) : NoComma (String.ofList part) := by
  unfold NoComma
  rw [String.toList_ofList]
  exact fun hmem => h (hpart hmem)

theorem NoComma.pushn {text : String} (h : NoComma text) (n : Nat) : NoComma (text.pushn '0' n) := by
  unfold String.pushn
  induction n with
  | zero => exact h
  | succ n ih =>
    rw [Nat.repeat]
    unfold NoComma at *
    simpa using ih

theorem noComma_nat (n : Nat) : NoComma (toString n) := by
  unfold NoComma
  rw [Nat.toString_eq_ofList_toDigits, String.toList_ofList]
  intro h
  exact absurd (Nat.isDigit_of_mem_toDigits (by decide) (by decide) h) (by decide)

theorem noComma_int (i : Int) : NoComma (toString i) := by
  rw [Int.toString_eq_repr, Int.repr_eq_if]
  split
  · exact noComma_nat i.toNat
  · exact NoComma.append (by decide) (noComma_nat (-i).toNat)

theorem noComma_place (layout : Layout) {digits : String} (h : NoComma digits) (point : Int) :
    NoComma (layout.place digits point) := by
  have htake (n : Nat) : NoComma (String.ofList (digits.toList.take n)) :=
    noComma_ofList h (List.take_subset n _)
  have hdrop (n : Nat) : NoComma (String.ofList (digits.toList.drop n)) :=
    noComma_ofList h (List.drop_subset n _)
  have hpad (width n : Nat) : NoComma (padDigits width n) :=
    (NoComma.pushn (by decide) _).append (noComma_nat n)
  unfold Layout.place
  dsimp only
  split
  · -- one digit, the others behind a point, and an exponent
    exact (((htake 1).append (.ite (by decide) (.append (by decide) (hdrop 1)))).append
      (by decide)).append (.ite (by decide) (by decide)) |>.append (hpad _ _)
  · refine .ite ?_ (.ite ?_ ?_)
    · exact (NoComma.append (by decide) (NoComma.pushn (by decide) _)).append h
    · exact (h.pushn _).append (by decide)
    · exact ((htake _).append (by decide)).append (hdrop _)

theorem noComma_double (d : Double) : NoComma d.text := by
  unfold Double.text Layout.write
  cases d with
  | nan => decide
  | infinite negative => exact (NoComma.ite (by decide) (by decide)).append (by decide)
  | finite negative mantissa exponent =>
    have hsign : NoComma (if negative = true then "-" else "") := .ite (by decide) (by decide)
    have hdigits := noComma_nat (shortest mantissa exponent).digits
    exact .ite (hsign.append (by decide)) (hsign.append (noComma_place planLayout hdigits _))

/-- Only values of other kinds can bring commas into an argument. -/
theorem noComma_optionText {value : Value} (h : value.kind ∈ [Kind.null, .bool, .int, .float]) :
    NoComma (optionText value) := by
  cases value with
  | null => decide
  | bool b => cases b <;> decide
  | int i => exact noComma_int i
  | float d => exact noComma_double d
  | moment m => cases htime : m.time.isSome <;> simp [Value.kind, htime] at h
  | _ => simp [Value.kind] at h

theorem not_noComma_list (first second : Value) (rest : List Value) :
    ¬ NoComma (optionText (.list (first :: second :: rest))) := by
  unfold NoComma optionText Value.plain Value.inner Value.inner.innerItems
  simp

theorem not_noComma_map (first second : Value × Value) (rest : List (Value × Value)) :
    ¬ NoComma (optionText (.map (first :: second :: rest))) := by
  obtain ⟨key, value⟩ := first
  unfold NoComma optionText Value.plain Value.inner Value.inner.innerEntries
  simp

/-! ## Options as a generator reads them -/

/-- What stands before the first equals sign of a piece and what stands behind it. -/
def readOption? (piece : List Char) : Option (String × String) :=
  match piece.dropWhile (· ≠ '=') with
  | [] => none
  | _ :: value => some (String.ofList (piece.takeWhile (· ≠ '=')), String.ofList value)

/-- The options in an argument: the pieces between its commas, each one read by itself. -/
def readOptions (text : String) : List (Option (String × String)) :=
  (text.toList.splitOn ',').map readOption?

/-- The characters of an option. -/
def optionChars (option : String × Value) : List Char :=
  option.1.toList ++ '=' :: (optionText option.2).toList

/-- What the reading of an option has to give. -/
def readBack (option : String × Value) : Option (String × String) :=
  some (option.1, optionText option.2)

/-- Nothing in an option is taken for what stands between two options, or between a key and its
value. -/
structure Unmistakable (option : String × Value) : Prop where
  key_comma : NoComma option.1
  key_equals : '=' ∉ option.1.toList
  value_comma : NoComma (optionText option.2)

instance (option : String × Value) : Decidable (Unmistakable option) :=
  decidable_of_iff (NoComma option.1 ∧ '=' ∉ option.1.toList ∧ NoComma (optionText option.2))
    ⟨fun ⟨hkey, hequals, hvalue⟩ => ⟨hkey, hequals, hvalue⟩,
      fun h => ⟨h.key_comma, h.key_equals, h.value_comma⟩⟩

theorem readOption?_eq_some_iff {piece : List Char} {key value : String} :
    readOption? piece = some (key, value) ↔
      '=' ∉ key.toList ∧ piece = key.toList ++ '=' :: value.toList := by
  unfold readOption?
  constructor
  · intro h
    cases hdrop : piece.dropWhile (· ≠ '=') with
    | nil =>
      rw [hdrop] at h
      cases h
    | cons c rest =>
      rw [hdrop] at h
      cases h
      have hhead := List.head?_dropWhile_not (· ≠ '=') piece
      rw [hdrop] at hhead
      obtain rfl : c = '=' := by simpa using hhead
      rw [String.toList_ofList, String.toList_ofList, ← hdrop]
      refine ⟨fun hmem => ?_, List.takeWhile_append_dropWhile.symm⟩
      simpa using List.mem_takeWhile_imp hmem
  · rintro ⟨hkey, rfl⟩
    have hpass : ∀ c ∈ key.toList, decide (c ≠ '=') = true := by
      intro c hc
      rw [decide_eq_true_iff]
      rintro rfl
      exact hkey hc
    rw [List.dropWhile_append_of_pos hpass, List.takeWhile_append_of_pos hpass]
    simp

theorem toList_optionsText (options : List (String × Value)) :
    (optionsText options).toList = [','].intercalate (options.map optionChars) := by
  unfold optionsText
  rw [String.toList_intercalate, List.map_map]
  congr 1
  refine List.map_congr_left fun option _ => ?_
  simp [optionChars]

/-- Pieces that read back as some options are the characters of these options. -/
theorem pieces_eq_of_read {pieces : List (List Char)} {options : List (String × Value)}
    (h : pieces.map readOption? = options.map readBack) :
    pieces = options.map optionChars ∧ ∀ option ∈ options, '=' ∉ option.1.toList := by
  induction options generalizing pieces with
  | nil => exact ⟨List.map_eq_nil_iff.1 h, fun option ho => absurd ho List.not_mem_nil⟩
  | cons option rest ih =>
    obtain ⟨piece, more, rfl, hpiece, hmore⟩ := List.map_eq_cons_iff.1 h
    obtain ⟨hkey, rfl⟩ := readOption?_eq_some_iff.1 hpiece
    obtain ⟨rfl, hrest⟩ := ih hmore
    exact ⟨rfl, List.forall_mem_cons.2 ⟨hkey, hrest⟩⟩

theorem Unmistakable.read {option : String × Value} (h : Unmistakable option) :
    readOption? (optionChars option) = readBack option :=
  readOption?_eq_some_iff.2 ⟨h.key_equals, rfl⟩

theorem Unmistakable.no_comma {option : String × Value} (h : Unmistakable option) :
    ',' ∉ optionChars option := by
  unfold optionChars
  rw [List.mem_append, List.mem_cons, not_or, not_or]
  exact ⟨h.key_comma, by decide, h.value_comma⟩

/-- Options are read back if none of them can be mistaken, and only then. -/
theorem readOptions_optionsText_iff {options : List (String × Value)} (hne : options ≠ []) :
    readOptions (optionsText options) = options.map readBack ↔
      ∀ option ∈ options, Unmistakable option := by
  unfold readOptions
  rw [toList_optionsText]
  constructor
  · intro h option ho
    -- the option is a piece of the text, and no piece holds a comma
    obtain ⟨hpieces, hkeys⟩ := pieces_eq_of_read h
    have hcomma : ',' ∉ optionChars option := by
      apply not_mem_of_mem_splitOn
      rw [hpieces]
      exact List.mem_map_of_mem ho
    simp only [optionChars, List.mem_append, List.mem_cons, not_or] at hcomma
    exact ⟨hcomma.1, hkeys option ho, hcomma.2.2⟩
  · intro h
    have hsplit : ([','].intercalate (options.map optionChars)).splitOn ',' =
        options.map optionChars := by
      apply List.splitOn_intercalate
      · intro piece hpiece
        obtain ⟨option, ho, rfl⟩ := List.mem_map.1 hpiece
        exact (h option ho).no_comma
      · simpa using hne
    rw [hsplit, List.map_map]
    exact List.map_congr_left fun option ho => (h option ho).read

/-- The argument with the options reads back as these options, in order, if no key and no value
holds what stands between them, and only then. Empty values, truth values and numbers hold none of
it; lists and mappings of more than one item always do. -/
theorem options_are_read_back_unless_they_hold_separators (h : setup.command = .ok argv)
    (hsome : setup.options ≠ []) :
    ["--" ++ setup.lang ++ "_opt", optionsText setup.options] <:+: argv ∧
    (readOptions (optionsText setup.options) = setup.options.map readBack ↔
      ∀ option ∈ setup.options, Unmistakable option) ∧
    (∀ value : Value, value.kind ∈ [Kind.null, .bool, .int, .float] → NoComma (optionText value)) ∧
    (∀ first second rest, ¬ NoComma (optionText (.list (first :: second :: rest)))) ∧
    ∀ first second rest, ¬ NoComma (optionText (.map (first :: second :: rest))) := by
  refine ⟨?_, readOptions_optionsText_iff hsome, fun value => noComma_optionText,
    not_noComma_list, not_noComma_map⟩
  obtain ⟨outDir, _, _, rfl⟩ := Setup.command_eq_ok_iff.1 h
  unfold Setup.arguments
  rw [if_neg (mt List.isEmpty_iff.1 hsome), List.append_assoc _ _ (setup.inputs.map Path.text)]
  exact ⟨_, _, rfl⟩

/-- Options of several kinds. An equals sign in a value is no second one for its key. -/
def plainOptionsSetup : Setup :=
  { outDir := some (Path.ofText "o"), inputs := [Path.ofText "a.proto"],
    options := [("a", .bool true), ("b", .int (-2)), ("c", .text "x=y"), ("d", .list [])] }

theorem plain_options_are_read_back :
    plainOptionsSetup.command =
        .ok ["protoc", "--rust_out", "o", "--rust_opt", "a=true,b=-2,c=x=y,d=[]", "a.proto"] ∧
      plainOptionsSetup.options ≠ [] ∧
      readOptions (optionsText plainOptionsSetup.options) =
        [some ("a", "true"), some ("b", "-2"), some ("c", "x=y"), some ("d", "[]")] := by
  have hcommand : plainOptionsSetup.command =
      .ok ["protoc", "--rust_out", "o", "--rust_opt", "a=true,b=-2,c=x=y,d=[]", "a.proto"] :=
    Setup.command_eq_ok_iff.2 ⟨Path.ofText "o", rfl, List.cons_ne_nil _ _, by decide +kernel⟩
  have hsome : plainOptionsSetup.options ≠ [] := List.cons_ne_nil _ _
  obtain ⟨_, hread, _⟩ := options_are_read_back_unless_they_hold_separators hcommand hsome
  exact ⟨hcommand, hsome, (hread.2 (by decide +kernel)).trans (by decide +kernel)⟩

/-- A plan with a value that looks like two options. -/
def ambiguousPlan : Plan where
  root := Path.here
  options := [("a", .text "x,b=1")]
  inputs := ["ambiguous.proto"]

def ambiguousSetup : Setup :=
  Setup.ofSettings
    (Regeneration.settings ambiguousPlan {} ++ [.inputs [Path.ofText "ambiguous.proto"]])

/-- The argument for the one option of the plan reads as two. -/
theorem a_value_may_bring_another_option :
    ambiguousSetup.command =
        .ok ["protoc", "--rust_out", "tmp-generated", "--rust_opt", "a=x,b=1",
          "ambiguous.proto"] ∧
      optionsText ambiguousSetup.options = "a=x,b=1" ∧
      readOptions "a=x,b=1" = [some ("a", "x"), some ("b", "1")] ∧
      ambiguousSetup.options.map readBack = [some ("a", "x,b=1")] ∧
      readOptions (optionsText ambiguousSetup.options) ≠ ambiguousSetup.options.map readBack :=
  ⟨Setup.command_eq_ok_iff.2
      ⟨Path.ofText "tmp-generated", rfl, List.cons_ne_nil _ _, by decide +kernel⟩,
    by decide +kernel, by decide +kernel, by decide +kernel, by decide +kernel⟩

end ProtoRefresh.Compiler
