import Mathlib.Algebra.Group.Nat.Defs
import SceneMarkup.Decimal.Numeral

/-!
# Digits of naturals

Reading the digits of a natural gives it back (`ofDigits_repr`), and those of a positive one do not
begin with a zero (`exists_repr_eq_cons`). Digits after others shift these by their number
(`ofDigits_append`).
-/

namespace SceneMarkup

namespace Decimal

theorem ofDigits_eq (digits : List Char) : ofDigits digits = Nat.ofDigitChars 10 digits 0 := rfl

theorem ofDigits_append (a b : List Char) :
    ofDigits (a ++ b) = ofDigits a * 10 ^ b.length + ofDigits b := by
  rw [ofDigits_eq, Nat.ofDigitChars_append, Nat.ofDigitChars_eq_ofDigitChars_zero, Nat.mul_comm]
  rfl

theorem ofDigits_zeros (n : Nat) : ofDigits (List.replicate n '0') = 0 := by
  rw [ofDigits_eq, Nat.ofDigitChars_replicate_zero, Nat.mul_zero]

theorem ofDigits_repr (n : Nat) : ofDigits n.repr.toList = n := by
  rw [ofDigits_eq, Nat.toList_repr, Nat.ofDigitChars_ten_toDigits]

theorem all_isDigit_repr (n : Nat) : n.repr.toList.all Char.isDigit = true := by
  rw [Nat.toList_repr, List.all_eq_true]
  exact fun c hc => Nat.isDigit_of_mem_toDigits (by decide) (by decide) hc

theorem all_isDigit_zeros (n : Nat) : (List.replicate n '0').all Char.isDigit = true := by
  rw [List.all_eq_true]
  intro c hc
  rw [List.eq_of_mem_replicate hc]
  decide

theorem digitChar_ne_zero : ∀ d : Fin 10, d ≠ 0 → d.val.digitChar ≠ '0' := by decide

theorem exists_repr_eq_cons {n : Nat} (h : n ≠ 0) :
    ∃ c rest, n.repr.toList = c :: rest ∧ c ≠ '0' := by
  rw [Nat.toList_repr]
  induction n using Nat.strongRecOn with
  | ind n ih =>
    by_cases hsmall : n < 10
    · rw [Nat.toDigits_of_lt_base hsmall]
      exact ⟨_, [], rfl, digitChar_ne_zero ⟨n, hsmall⟩ (by simpa [Fin.ext_iff] using h)⟩
    · -- the first digit is that of the quotient
      obtain ⟨c, rest, hquotient, hc⟩ := ih (n / 10) (by omega) (by omega)
      rw [Nat.toDigits_of_base_le (by decide) (by omega), hquotient]
      exact ⟨c, _, rfl, hc⟩

end Decimal

end SceneMarkup
