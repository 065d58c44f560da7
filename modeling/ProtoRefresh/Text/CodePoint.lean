-- Code points, of which texts in memory are made. Besides the characters
-- there are the halves of pairs, which an escape can spell one by one. A
-- half has no bytes of its own, so no file holds one and a text with one
-- cannot be written.

namespace ProtoRefresh.Text

/-! ## Code points -/

inductive CodePoint
  | char (c : Char)
  /-- A half of a pair, told by its place among the halves. -/
  | half (place : Fin 2048)
  deriving DecidableEq, Repr

instance : Coe Char CodePoint := ⟨.char⟩

namespace CodePoint

/-- The code of the first half. -/
def firstHalf : Nat := 0xD800

def code : CodePoint → Nat
  | .char c => c.toNat
  | .half place => firstHalf + place

/-- The code point with a code. -/
def ofCode (code : Nat) : CodePoint :=
  if h : firstHalf ≤ code ∧ code - firstHalf < 2048 then .half ⟨code - firstHalf, h.2⟩
  else .char (Char.ofNat code)

/-- Whether a code point is a character of a class. -/
def isIn (p : Char → Bool) : CodePoint → Bool
  | .char c => p c
  | .half _ => false

/-- No two code points share a code. -/
theorem code_inj {p q : CodePoint} : p.code = q.code ↔ p = q := by
  -- the codes of the halves are the gap between the codes of characters
  have hgap : ∀ (c : Char) (place : Fin 2048), c.toNat ≠ firstHalf + place := by
    intro c place
    have hvalid := c.valid
    simp only [UInt32.isValidChar, Nat.isValidChar] at hvalid
    simp only [Char.toNat, firstHalf]
    omega
  refine ⟨fun h => ?_, fun h => congrArg code h⟩
  cases p with
  | char c =>
    cases q with
    | char d => exact congrArg char (Char.toNat_inj.1 h)
    | half place => exact absurd h (hgap c place)
  | half place =>
    cases q with
    | char d => exact absurd h.symm (hgap d place)
    | half other => exact congrArg half (Fin.ext (Nat.add_left_cancel h))

end CodePoint

/-! ## Texts -/

/-- The code points of characters. -/
def ofChars (chars : List Char) : List CodePoint := chars.map .char

/-- The code points of a string. -/
def points (s : String) : List CodePoint := ofChars s.toList

instance : Coe String (List CodePoint) := ⟨points⟩

/-- The characters of a text, with U+0000 for each half. -/
def shownChars (text : List CodePoint) : List Char :=
  text.map fun
    | .char c => c
    | .half _ => '\x00'

/-- A text as a string, with U+0000 for each half. -/
def shown (text : List CodePoint) : String := String.ofList (shownChars text)

/-! ## Texts without halves -/

/-- The first halves in a text that stand side by side, and how many code points are before
them. -/
structure HalfFault where
  index : Nat
  halves : List (Fin 2048)
  deriving DecidableEq, Repr

/-- The halves that start a text. -/
def leadingHalves : List CodePoint → List (Fin 2048)
  | .half place :: rest => place :: leadingHalves rest
  | _ => []

/-- The characters of a text from an index on, or the first halves. -/
def charsFrom (index : Nat) : List CodePoint → Except HalfFault (List Char)
  | [] => .ok []
  | .char c :: rest => (charsFrom (index + 1) rest).map (c :: ·)
  | .half place :: rest => .error ⟨index, place :: leadingHalves rest⟩

/-- A text as a string, if no half is in it. -/
def stringOf (text : List CodePoint) : Except HalfFault String :=
  (charsFrom 0 text).map String.ofList

theorem points_inj {s t : String} : points s = points t ↔ s = t := by
  unfold points ofChars
  rw [List.map_inj_right fun _ _ => CodePoint.char.inj, String.toList_inj]

theorem bne_points {s t : String} : (points s != points t) = (s != t) := by
  rw [Bool.eq_iff_iff, bne_iff_ne, bne_iff_ne, ne_eq, ne_eq, points_inj]

theorem points_ofList (chars : List Char) : points (String.ofList chars) = ofChars chars := by
  rw [points, String.toList_ofList]

theorem charsFrom_ofChars (index : Nat) (chars : List Char) :
    charsFrom index (ofChars chars) = .ok chars := by
  induction chars generalizing index with
  | nil => rfl
  | cons c rest ih =>
    unfold ofChars at ih ⊢
    rw [List.map_cons, charsFrom, ih]
    rfl

theorem ofChars_of_charsFrom {index : Nat} {text : List CodePoint} {chars : List Char}
    (h : charsFrom index text = .ok chars) : ofChars chars = text := by
  induction text generalizing index chars with
  | nil =>
    obtain rfl := Except.ok.inj h
    rfl
  | cons p rest ih =>
    cases p with
    | half place => cases h
    | char c =>
      rw [charsFrom] at h
      cases hrest : charsFrom (index + 1) rest with
      | error fault => rw [hrest] at h; cases h
      | ok more =>
        rw [hrest] at h
        obtain rfl := Except.ok.inj h
        exact congrArg (CodePoint.char c :: ·) (ih hrest)

/-- A text is a string exactly if it is made of the string's characters. -/
theorem stringOf_eq_ok_iff {text : List CodePoint} {s : String} :
    stringOf text = .ok s ↔ text = points s := by
  constructor
  · intro h
    unfold stringOf at h
    cases hchars : charsFrom 0 text with
    | error fault => rw [hchars] at h; cases h
    | ok chars =>
      rw [hchars] at h
      obtain rfl := Except.ok.inj h
      rw [points_ofList, ofChars_of_charsFrom hchars]
  · rintro rfl
    rw [stringOf, points, charsFrom_ofChars, Except.map, String.ofList_toList]

end ProtoRefresh.Text
