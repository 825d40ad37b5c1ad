import Mathlib.Data.List.TakeWhile
import Sortie.Json.Reader

set_option autoImplicit false

namespace Sortie

theorem isDigit_toDigits (value : Nat) :
    ∀ digit ∈ Nat.toDigits 10 value, digit.isDigit = true := fun _ member =>
  Nat.isDigit_of_mem_toDigits (by decide) (by decide) member

/-- Digits start with a zero only if there is no other. -/
theorem toDigits_cases (value : Nat) : Nat.toDigits 10 value = ['0'] ∨
    ∃ first rest, Nat.toDigits 10 value = Nat.digitChar first :: rest ∧ 0 < first ∧ first < 10 := by
  induction value using Nat.strongRecOn with
  | ind value ih =>
    by_cases short : value < 10
    · rw [Nat.toDigits_of_lt_base short]
      rcases Nat.eq_zero_or_pos value with rfl | some_
      · exact .inl rfl
      · exact .inr ⟨value, [], rfl, some_, short⟩
    · have long : 10 ≤ value := Nat.le_of_not_lt short
      rw [Nat.toDigits_of_base_le (by decide) long]
      rcases ih (value / 10) (by omega) with zero | ⟨first, rest, digits, some_, small⟩
      · have none_ := Nat.ofDigitChars_ten_toDigits (n := value / 10)
        rw [zero] at none_
        have : value / 10 = 0 := none_.symm
        omega
      · exact .inr ⟨first, _, by rw [digits, List.cons_append], some_, small⟩

namespace Json

namespace Number

theorem le_ofDigitChars (digits : List Char) (value : Nat) :
    value ≤ Nat.ofDigitChars 10 digits value := by
  rw [Nat.ofDigitChars_eq_ofDigitChars_zero]
  exact Nat.le_add_right_of_le (Nat.le_mul_of_pos_left value (Nat.pow_pos (by decide)))

/-- Digits whose number fits are all taken in. -/
theorem gather_eq {digits : List Char} {value : Nat}
    (fits : Nat.ofDigitChars 10 digits value ≤ naturalLimit) :
    gather value digits = (Nat.ofDigitChars 10 digits value, []) := by
  induction digits generalizing value with
  | nil => rfl
  | cons digit rest ih =>
    rw [Nat.ofDigitChars_cons] at fits ⊢
    have next := Nat.le_trans (le_ofDigitChars rest _) fits
    unfold gather digitValue
    dsimp only
    rw [if_neg (Nat.not_lt_of_le next)]
    exact ih fits

theorem ofParts_toDigits {value : Nat} (fits : value ≤ naturalLimit) :
    ofParts ⟨false, Nat.toDigits 10 value, none, none⟩ = some (.natural value) := by
  have all := Nat.ofDigitChars_ten_toDigits (n := value)
  have gathered : gather 0 (Nat.toDigits 10 value) = (value, []) := by
    rw [gather_eq (by rwa [all]), all]
  unfold ofParts
  dsimp only
  rw [gathered]
  rfl

end Number

theorem numberParts_digits {digits : List Char} (all : ∀ digit ∈ digits, digit.isDigit = true) :
    numberParts digits = ⟨false, digits, none, none⟩ := by
  have whole := List.takeWhile_eq_self_iff.mpr all
  have rest := List.dropWhile_eq_nil_iff.mpr all
  unfold numberParts
  split
  rename_i signs
  split at signs
  · have sign := all '-' List.mem_cons_self
    exact absurd sign (by decide)
  · cases signs
    dsimp only
    rw [whole, rest]

end Json

end Sortie
