import RunPlan.Text.Digits
import Std.Data.String.ToInt
import Mathlib.Data.List.Basic

/-!
Digits of written numbers. Main statement: the text of a natural number consists of digits, which
have the number as their value and of which the first is no zero unless the number is.
-/

set_option autoImplicit false

namespace RunPlan.Text

section Decimal

variable {n : Nat} {c : Char}

theorem toList_toString_nat (n : Nat) : (toString n).toList = Nat.toDigits 10 n := Nat.toList_repr

theorem isDigit_of_mem_toDigits (h : c ∈ Nat.toDigits 10 n) : c.isDigit = true :=
  Nat.isDigit_of_mem_toDigits (by decide) (by decide) h

theorem digitValue?_of_isDigit (h : c.isDigit = true) :
    digitValue? 10 c = some (c.toNat - '0'.toNat) := by
  have hle : c.toNat ≤ 57 := (Char.isDigit_iff_toNat.mp h).2
  have hlt : c.toNat - 48 < 10 := by omega
  simp [digitValue?, hexValue?, h, Option.filter, hlt]

private theorem digitsValue?_eq_ofDigitChars {ds : List Char} (hne : ds ≠ [])
    (h : ∀ d ∈ ds, d.isDigit = true) : digitsValue? 10 ds = some (Nat.ofDigitChars 10 ds 0) := by
  have hfold : ∀ n, ds.foldlM (fun n d => (digitValue? 10 d).map (10 * n + ·)) n =
      some (Nat.ofDigitChars 10 ds n) := by
    clear hne
    induction ds with
    | nil => exact fun n => rfl
    | cons d ds ih =>
      intro n
      obtain ⟨hd, hds⟩ := List.forall_mem_cons.mp h
      rw [List.foldlM_cons, digitValue?_of_isDigit hd, Nat.ofDigitChars_cons]
      exact ih hds _
  rw [digitsValue?, if_neg (by simpa using hne), hfold]

theorem digitsValue?_toDigits (n : Nat) : digitsValue? 10 (Nat.toDigits 10 n) = some n := by
  rw [digitsValue?_eq_ofDigitChars Nat.toDigits_ne_nil fun _ => isDigit_of_mem_toDigits,
    Nat.ofDigitChars_ten_toDigits]

theorem head?_toDigits_ne_zero (h : n ≠ 0) : (Nat.toDigits 10 n).head? ≠ some '0' := by
  induction n using Nat.strongRecOn with
  | ind n ih =>
    by_cases hlt : n < 10
    · rw [Nat.toDigits_of_lt_base hlt, List.head?_cons]
      have hdigits : ∀ d < 10, d ≠ 0 → some (Nat.digitChar d) ≠ some '0' := by decide
      exact hdigits n hlt h
    · have hhead := ih (n / 10) (by omega) (by omega)
      rw [Nat.toDigits_of_base_le (by decide) (by omega),
        List.head?_append_of_ne_nil _ Nat.toDigits_ne_nil]
      exact hhead

def isIntChar (c : Char) : Bool := c.isDigit || c = '-'

private theorem toList_toString_negSucc (n : Nat) :
    (toString (Int.negSucc n)).toList = '-' :: Nat.toDigits 10 (n + 1) := by
  have h : (toString (Int.negSucc n)).toList = ("-" ++ Nat.repr (n + 1)).toList := rfl
  rw [h, String.toList_append, Nat.toList_repr]
  rfl

theorem isIntChar_of_mem_toString {i : Int} (h : c ∈ (toString i).toList) :
    isIntChar c = true := by
  cases i with
  | ofNat n =>
    have hdigit : c ∈ Nat.toDigits 10 n := Nat.toList_repr ▸ h
    simp [isIntChar, isDigit_of_mem_toDigits hdigit]
  | negSucc n =>
    rw [toList_toString_negSucc] at h
    rcases List.mem_cons.mp h with rfl | hdigit
    · rfl
    · simp [isIntChar, isDigit_of_mem_toDigits hdigit]

theorem toList_toString_int_ne_nil (i : Int) : (toString i).toList ≠ [] := by
  cases i with
  | ofNat n =>
    have h : (toString (Int.ofNat n)).toList = Nat.toDigits 10 n := Nat.toList_repr
    rw [h]
    exact Nat.toDigits_ne_nil
  | negSucc n =>
    rw [toList_toString_negSucc]
    exact List.cons_ne_nil _ _

end Decimal

end RunPlan.Text
