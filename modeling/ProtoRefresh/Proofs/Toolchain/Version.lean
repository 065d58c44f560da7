-- The check of the compiler's version. A plan asks for a text that versions
-- start with, so by its standard text a compiler passes as soon as the first
-- digit of its major number is a three: the number 3 does, and so do 30 to 39,
-- 300 to 399 and so on.
import Mathlib.Algebra.Group.Nat.Defs
import ProtoRefresh.Proofs.Regeneration.Gate

namespace ProtoRefresh.Toolchain

open ProtoRefresh.Action

/-! ## First digits -/

/-- The first of the decimal digits of a number. -/
def HasFirstDigit (n d : Nat) : Prop := ∃ k, d * 10 ^ k ≤ n ∧ n < (d + 1) * 10 ^ k

variable {n d : Nat}

theorem digitChar_inj (hn : n < 10) (hd : d < 10) : n.digitChar = d.digitChar ↔ n = d := by
  constructor
  · intro h
    have hnat := congrArg Char.toNat h
    rw [Nat.toNat_digitChar_of_lt_ten hn, Nat.toNat_digitChar_of_lt_ten hd] at hnat
    omega
  · rintro rfl
    rfl

theorem hasFirstDigit_of_lt (hpos : 0 < d) (hn : n < 10) : HasFirstDigit n d ↔ n = d := by
  constructor
  · rintro ⟨k, hlow, hhigh⟩
    cases k with
    | zero => omega
    | succ k =>
      have hpow : 0 < 10 ^ k := Nat.pow_pos (by decide)
      have hten : 10 ≤ d * 10 ^ (k + 1) := by
        rw [Nat.pow_succ, ← Nat.mul_assoc]
        exact Nat.le_mul_of_pos_left 10 (Nat.mul_pos hpos hpow)
      omega
  · rintro rfl
    exact ⟨0, by omega, by omega⟩

/-- A number of several digits has the first digit that it has without its last one. -/
theorem hasFirstDigit_div (hd : d < 10) (hn : 10 ≤ n) :
    HasFirstDigit (n / 10) d ↔ HasFirstDigit n d := by
  have hstep : ∀ k, d * 10 ^ k ≤ n / 10 ∧ n / 10 < (d + 1) * 10 ^ k ↔
      d * 10 ^ (k + 1) ≤ n ∧ n < (d + 1) * 10 ^ (k + 1) := by
    intro k
    rw [Nat.le_div_iff_mul_le (by decide), Nat.div_lt_iff_lt_mul (by decide), Nat.pow_succ,
      Nat.mul_assoc, Nat.mul_assoc]
  constructor
  · rintro ⟨k, hk⟩
    exact ⟨k + 1, (hstep k).1 hk⟩
  · rintro ⟨k, hk⟩
    cases k with
    | zero => omega
    | succ k => exact ⟨k, (hstep k).2 hk⟩

theorem head?_toDigits_iff (hpos : 0 < d) (hd : d < 10) :
    (Nat.toDigits 10 n).head? = some d.digitChar ↔ HasFirstDigit n d := by
  induction n using Nat.strongRecOn with
  | ind n ih =>
    by_cases hn : n < 10
    · rw [Nat.toDigits_of_lt_base hn, List.head?_cons, Option.some.injEq, digitChar_inj hn hd,
        hasFirstDigit_of_lt hpos hn]
    · have hten : 10 ≤ n := Nat.le_of_not_lt hn
      rw [Nat.toDigits_of_base_le (by decide) hten,
        List.head?_append_of_ne_nil _ Nat.toDigits_ne_nil,
        ih (n / 10) (Nat.div_lt_self (by omega) (by decide)), hasFirstDigit_div hd hten]

/-! ## Versions -/

/-- What a compiler says about its version. -/
def versionText (major : Nat) (rest : String) : String :=
  "libprotoc " ++ toString major ++ "." ++ rest

theorem standardStart_prefix_iff {major : Nat} {rest : String} :
    Plan.standardVersionStart.toList <+: (versionText major rest).toList ↔
      HasFirstDigit major 3 := by
  have hstart : Plan.standardVersionStart.toList = "libprotoc ".toList ++ [Nat.digitChar 3] := rfl
  have htext : (versionText major rest).toList =
      "libprotoc ".toList ++ (Nat.toDigits 10 major ++ '.' :: rest.toList) := by
    unfold versionText
    rw [Nat.toString_eq_ofList_toDigits]
    simp
  rw [hstart, htext, List.prefix_append_right_inj, ← head?_toDigits_iff (by decide) (by decide)]
  cases hdigits : Nat.toDigits 10 major with
  | nil => exact absurd hdigits Nat.toDigits_ne_nil
  | cons c digits => simp [List.cons_prefix_cons, eq_comm]

/-- The number 3 is the only one with this first digit, but for longer ones. -/
theorem eq_three_or_longer (h : HasFirstDigit n 3) :
    n = 3 ∨ ∃ k, 3 * 10 ^ (k + 1) ≤ n ∧ n < 4 * 10 ^ (k + 1) := by
  obtain ⟨k, hlow, hhigh⟩ := h
  cases k with
  | zero => exact Or.inl (by omega)
  | succ k => exact Or.inr ⟨k, hlow, hhigh⟩

/-- Whatever the version is: it passes the standard check exactly if the first digit of its major
number is a three, and fails with the version otherwise; so the check agrees with the comparison of
the number with 3, except for the numbers of more than one digit that start with a three. -/
theorem the_first_digit_of_the_major_number_decides (major : Nat) (rest : String) (host : Host) :
    ∃ result after,
      Ends (checkVersion (versionText major rest) Plan.standardVersionStart) host result after ∧
      (result = .ok () ↔ HasFirstDigit major 3) ∧
      (result ≠ .ok () → result = .error (.version (versionText major rest))) ∧
      ((result = .ok () ↔ major = 3) ↔
        ¬ ∃ k, 3 * 10 ^ (k + 1) ≤ major ∧ major < 4 * 10 ^ (k + 1)) := by
  have hends := ends_run (checkVersion (versionText major rest) Plan.standardVersionStart) host
  have hpasses : (((checkVersion (versionText major rest) Plan.standardVersionStart).run).run
      host).1 = .ok () ↔ HasFirstDigit major 3 := by
    rw [← @standardStart_prefix_iff major rest]
    rcases Regeneration.ends_checkVersion hends with ⟨hwrong, hresult, _⟩ | ⟨hright, hresult⟩
    · rw [hresult]
      exact iff_of_false nofun hwrong
    · rw [hresult]
      exact iff_of_true rfl hright
  refine ⟨_, _, hends, hpasses, ?_, ?_⟩
  · rcases Regeneration.ends_checkVersion hends with ⟨_, hresult, _⟩ | ⟨_, hresult⟩
    · exact fun _ => hresult
    · exact fun hnot => absurd hresult hnot
  · rw [hpasses]
    constructor
    · rintro hagrees ⟨k, hlow, hhigh⟩
      have hpow : 0 < 10 ^ k := Nat.pow_pos (by decide)
      have hthree := hagrees.1 ⟨k + 1, hlow, hhigh⟩
      rw [Nat.pow_succ] at hlow
      omega
    · intro hshort
      refine ⟨fun h => (eq_three_or_longer h).resolve_right hshort, ?_⟩
      rintro rfl
      exact (hasFirstDigit_of_lt (by decide) (by decide)).2 rfl

/-- The major number of a compiler is thirty, and it passes for one of version 3. -/
theorem the_thirtieth_version_passes_for_the_third :
    ∃ after, Gives (checkVersion (versionText 30 "2") Plan.standardVersionStart) default () after :=
  ⟨_, gives_of_toOption (by decide +kernel)⟩

end ProtoRefresh.Toolchain
