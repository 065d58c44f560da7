-- What the checksum tells apart. The register takes part in every step as
-- a sum of bits, and no step loses any of it. Up to four bytes fill the
-- register side by side, so two rows of bytes that differ within such a
-- window only have different checksums.
import Mathlib.Algebra.Group.Nat.Defs
import ProtoRefresh.Checksum.Crc32c

namespace ProtoRefresh.Checksum

variable {register other : UInt32} {bytes more : List UInt8}

/-! ## One bit -/

/-- What is added for the bit that leaves the register. -/
def tap (register : UInt32) : UInt32 := if register.toNat % 2 = 1 then polynomial else 0

theorem shift_eq (register : UInt32) : shift register = register >>> 1 ^^^ tap register := by
  have hbit : register &&& 1 = 1 ↔ register.toNat % 2 = 1 := by
    rw [← UInt32.toNat_inj, UInt32.toNat_and]
    exact Nat.and_one_is_mod _ ▸ Iff.rfl
  unfold shift tap
  by_cases h : register.toNat % 2 = 1
  · rw [if_pos (hbit.2 h), if_pos h]
  · rw [if_neg (mt hbit.1 h), if_neg h, UInt32.xor_zero]

theorem tap_xor (register other : UInt32) : tap (register ^^^ other) = tap register ^^^ tap other := by
  have hbit := Nat.xor_mod_two_eq_one (a := register.toNat) (b := other.toNat)
  unfold tap
  rw [UInt32.toNat_xor]
  by_cases h : register.toNat % 2 = 1
  · by_cases ho : other.toNat % 2 = 1
    · rw [if_neg fun hxor => hbit.1 hxor (iff_of_true h ho), if_pos h, if_pos ho, UInt32.xor_self]
    · rw [if_pos (hbit.2 fun hsame => ho (hsame.1 h)), if_pos h, if_neg ho, UInt32.xor_zero]
  · by_cases ho : other.toNat % 2 = 1
    · rw [if_pos (hbit.2 fun hsame => h (hsame.2 ho)), if_neg h, if_pos ho, UInt32.zero_xor]
    · rw [if_neg fun hxor => hbit.1 hxor (iff_of_false h ho), if_neg h, if_neg ho, UInt32.xor_zero]

theorem shift_xor (register other : UInt32) :
    shift (register ^^^ other) = shift register ^^^ shift other := by
  simp only [shift_eq, tap_xor, UInt32.shiftRight_xor]
  ac_rfl

theorem toNat_shiftRight_one (register : UInt32) : (register >>> 1).toNat = register.toNat / 2 := by
  rw [UInt32.toNat_shiftRight]
  exact Nat.shiftRight_eq_div_pow _ 1

theorem shift_eq_zero (h : shift register = 0) : register = 0 := by
  rw [shift_eq, UInt32.xor_eq_zero_iff] at h
  have hhalf := congrArg UInt32.toNat h
  rw [toNat_shiftRight_one] at hhalf
  have hlt := register.toNat_lt
  unfold tap at hhalf
  by_cases hbit : register.toNat % 2 = 1
  · -- the polynomial has the highest bit, which a half lacks
    rw [if_pos hbit] at hhalf
    have hhigh : polynomial.toNat = 0x82F63B78 := rfl
    omega
  · rw [if_neg hbit] at hhalf
    rw [← UInt32.toNat_inj]
    have hzero : (0 : UInt32).toNat = 0 := rfl
    omega

/-- A bit that is not set leaves no trace. -/
theorem toNat_shift_of_even {n : Nat} (h : register.toNat = 2 * n) :
    (shift register).toNat = n := by
  rw [shift_eq, tap, if_neg (by omega), UInt32.xor_zero, toNat_shiftRight_one]
  omega

/-! ## Some bits -/

theorem shifts_xor (n : Nat) (register other : UInt32) :
    shifts n (register ^^^ other) = shifts n register ^^^ shifts n other := by
  induction n generalizing register other with
  | zero => rfl
  | succ n ih => rw [shifts, shift_xor, ih, shifts, shifts]

theorem shifts_add (n m : Nat) (register : UInt32) :
    shifts (n + m) register = shifts m (shifts n register) := by
  induction n generalizing register with
  | zero => rw [Nat.zero_add, shifts]
  | succ n ih => rw [Nat.succ_add, shifts, ih, shifts]

/-- Nothing of the register is lost. -/
theorem shifts_injective {n : Nat} (h : shifts n register = shifts n other) : register = other := by
  induction n generalizing register other with
  | zero => exact h
  | succ n ih =>
    have hshift : shift (register ^^^ other) = 0 := by
      rw [shift_xor, UInt32.xor_eq_zero_iff]
      exact ih h
    exact UInt32.xor_eq_zero_iff.1 (shift_eq_zero hshift)

theorem toNat_shifts_of_high {n m : Nat} (h : register.toNat = 2 ^ n * m) :
    (shifts n register).toNat = m := by
  induction n generalizing register with
  | zero => rw [shifts, h, Nat.pow_zero, Nat.one_mul]
  | succ n ih =>
    refine ih (toNat_shift_of_even ?_)
    rw [h, Nat.pow_succ, Nat.mul_comm (2 ^ n) 2, Nat.mul_assoc]

/-! ## Some bytes -/

theorem feedAll_append (register : UInt32) (bytes more : List UInt8) :
    feedAll register (bytes ++ more) = feedAll (feedAll register bytes) more :=
  List.foldl_append

theorem feedAll_injective (h : feedAll register bytes = feedAll other bytes) : register = other := by
  induction bytes generalizing register other with
  | nil => exact h
  | cons byte bytes ih => exact UInt32.xor_left_inj _ |>.1 (shifts_injective (ih h))

/-- Bytes side by side, the first one lowest. -/
def packed : List UInt8 → UInt32
  | [] => 0
  | byte :: bytes => byte.toUInt32 ^^^ packed bytes <<< 8

theorem toNat_shiftLeft_eight (h : register.toNat < 2 ^ 24) :
    (register <<< 8).toNat = 2 ^ 8 * register.toNat := by
  rw [UInt32.toNat_shiftLeft]
  have height : (8 : UInt32).toNat % 32 = 8 := rfl
  rw [height, Nat.shiftLeft_eq]
  omega

theorem toNat_packed_lt (h : bytes.length ≤ 4) : (packed bytes).toNat < 2 ^ (8 * bytes.length) := by
  induction bytes with
  | nil => decide
  | cons byte bytes ih =>
    rw [List.length_cons] at h ⊢
    have hrest := ih (by omega)
    have hle : 2 ^ (8 * bytes.length) ≤ 2 ^ 24 := Nat.pow_le_pow_right (by decide) (by omega)
    rw [packed, UInt32.toNat_xor, toNat_shiftLeft_eight (by omega)]
    refine Nat.xor_lt_two_pow ?_ ?_
    · have hbyte := byte.toNat_lt
      have hpow : 2 ^ 8 ≤ 2 ^ (8 * (bytes.length + 1)) := Nat.pow_le_pow_right (by decide) (by omega)
      rw [UInt8.toNat_toUInt32]
      omega
    · rw [Nat.mul_add, Nat.add_comm, Nat.pow_add]
      omega

/-- Three bytes leave room for a fourth one below them. -/
theorem toNat_packed_lt_of_three (h : bytes.length ≤ 3) : (packed bytes).toNat < 2 ^ 24 :=
  Nat.lt_of_lt_of_le (toNat_packed_lt (by omega)) (Nat.pow_le_pow_right (by decide) (by omega))

/-- Up to four bytes may as well enter the register all at once. -/
theorem feedAll_eq_packed (h : bytes.length ≤ 4) (register : UInt32) :
    feedAll register bytes = shifts (8 * bytes.length) (register ^^^ packed bytes) := by
  induction bytes generalizing register with
  | nil => rw [packed, UInt32.xor_zero]; rfl
  | cons byte bytes ih =>
    rw [List.length_cons] at h
    -- the bytes after the first one only move down, as nothing is below them
    have hhigh : shifts 8 (packed bytes <<< 8) = packed bytes := by
      rw [← UInt32.toNat_inj]
      exact toNat_shifts_of_high (toNat_shiftLeft_eight (toNat_packed_lt_of_three (by omega)))
    have hstep : shifts 8 (register ^^^ packed (byte :: bytes)) =
        feed register byte ^^^ packed bytes := by
      rw [packed, ← UInt32.xor_assoc, shifts_xor, hhigh, feed]
    have hfirst : feedAll register (byte :: bytes) = feedAll (feed register byte) bytes := rfl
    rw [hfirst, ih (by omega), List.length_cons, Nat.mul_add, Nat.add_comm, shifts_add, hstep]

/-- The lowest byte is the first one. -/
theorem toUInt8_packed_cons (byte : UInt8) (h : bytes.length ≤ 3) :
    (packed (byte :: bytes)).toUInt8 = byte := by
  have hlow : (packed bytes <<< 8).toUInt8 = 0 := by
    rw [← UInt8.toNat_inj, UInt32.toNat_toUInt8,
      toNat_shiftLeft_eight (toNat_packed_lt_of_three h)]
    exact Nat.mul_mod_right _ _
  rw [packed, UInt32.toUInt8_xor, hlow, UInt8.xor_zero, UInt8.toUInt8_toUInt32]

theorem packed_injective (hfour : bytes.length ≤ 4) (hlength : bytes.length = more.length)
    (h : packed bytes = packed more) : bytes = more := by
  induction bytes generalizing more with
  | nil => exact (List.eq_nil_of_length_eq_zero hlength.symm).symm
  | cons byte bytes ih =>
    obtain ⟨other, more, rfl⟩ := List.exists_cons_of_length_eq_add_one hlength.symm
    rw [List.length_cons] at hfour hlength
    rw [List.length_cons] at hlength
    have hthree : bytes.length ≤ 3 := by omega
    have hthree' : more.length ≤ 3 := by omega
    have hbyte : byte = other := by
      rw [← toUInt8_packed_cons byte hthree, h, toUInt8_packed_cons other hthree']
    rw [packed, packed, hbyte, UInt32.xor_right_inj, ← UInt32.toNat_inj,
      toNat_shiftLeft_eight (toNat_packed_lt_of_three hthree),
      toNat_shiftLeft_eight (toNat_packed_lt_of_three hthree')] at h
    have hrest : packed bytes = packed more := UInt32.toNat_inj.1 (by omega)
    rw [hbyte, ih (by omega) (by omega) hrest]

/-! ## A window -/

/-- Two rows of bytes that are alike but for a window of at most so many bytes. -/
def AlikeButFor (width : Nat) (old new : List UInt8) : Prop :=
  ∃ start was is rest, old = start ++ was ++ rest ∧ new = start ++ is ++ rest ∧
    was.length = is.length ∧ was.length ≤ width

/-- Within four bytes the checksum misses nothing. -/
theorem crc32c_eq_iff {old new : List UInt8} (h : AlikeButFor 4 old new) :
    crc32c old = crc32c new ↔ old = new := by
  obtain ⟨start, was, is, rest, rfl, rfl, hlength, hfour⟩ := h
  refine ⟨fun hsum => ?_, fun hsame => by rw [hsame]⟩
  have hfour' : is.length ≤ 4 := by omega
  rw [crc32c, crc32c, UInt32.xor_left_inj, feedAll_append, feedAll_append _ (start ++ is)] at hsum
  have hwindow := feedAll_injective hsum
  rw [feedAll_append, feedAll_append _ start is, feedAll_eq_packed hfour,
    feedAll_eq_packed hfour', ← hlength] at hwindow
  have hpacked := UInt32.xor_right_inj _ |>.1 (shifts_injective hwindow)
  rw [packed_injective hfour hlength hpacked]

end ProtoRefresh.Checksum
