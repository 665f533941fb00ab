import RunPlan.Text.Bytes
import Mathlib.Data.List.Basic

/-!
The order of texts by their bytes. Main statement: comparing the UTF-8 bytes of two texts is
comparing their code points.
-/

set_option autoImplicit false

namespace RunPlan.Text

open Std

theorem utf8_eq_toUTF8 (s : List Char) : utf8 s = (String.ofList s).toUTF8.data.toList :=
  List.toList_data_toByteArray.symm

theorem utf8_cons (c : Char) (s : List Char) : utf8 (c :: s) = String.utf8EncodeChar c ++ utf8 s :=
  List.flatMap_cons

theorem exists_utf8_cons (c : Char) (s : List Char) :
    ∃ byte bytes, utf8 (c :: s) = byte :: bytes := by
  have hbytes : String.utf8EncodeChar c ≠ [] := by
    rw [ne_eq, ← List.length_eq_zero_iff, String.length_utf8EncodeChar]
    exact Nat.ne_of_gt c.utf8Size_pos
  obtain ⟨byte, bytes, hcons⟩ := List.exists_cons_of_ne_nil hbytes
  exact ⟨byte, bytes ++ utf8 s, by rw [utf8_cons, hcons, List.cons_append]⟩

private theorem toNat_lt (c : Char) : c.toNat < 0x110000 := by
  rcases c.valid with h | ⟨-, h⟩
  · exact Nat.lt_trans h (by decide)
  · exact h

private theorem eq_sum_of_lt {v : Nat} (h : v < 0x110000) :
    v = v / 262144 % 8 * 262144 + v / 4096 % 64 * 4096 + v / 64 % 64 * 64 + v % 64 := by
  omega

private theorem compareLex_utf8EncodeChar_append {c d : Char} (h : c.toNat < d.toNat)
    (x y : List UInt8) :
    List.compareLex compare (String.utf8EncodeChar c ++ x) (String.utf8EncodeChar d ++ y) =
      .lt := by
  have hc := eq_sum_of_lt (toNat_lt c)
  have hd := eq_sum_of_lt (toNat_lt d)
  have hbound := toNat_lt d
  simp only [String.utf8EncodeChar, Char.toNat_val]
  -- a character of more bytes starts with a larger one; among those of one width the bytes are the
  -- digits of the code points
  split_ifs <;>
    simp (disch := omega) only [List.cons_append, List.nil_append, List.compareLex_cons_cons,
      UInt8.compare_eq_toNat_compare_toNat, UInt8.toNat_ofNat', Nat.mod_eq_of_lt,
      Ordering.then_eq_lt, Nat.compare_eq_lt, Nat.compare_eq_eq] <;>
    omega

private theorem compareLex_append_left {α : Type} {cmp : α → α → Ordering} [ReflCmp cmp]
    (p x y : List α) : List.compareLex cmp (p ++ x) (p ++ y) = List.compareLex cmp x y := by
  induction p with
  | nil => rfl
  | cons a p ih =>
    have hself : cmp a a = .eq := ReflCmp.compare_self
    rw [List.cons_append, List.cons_append, List.compareLex_cons_cons, hself, ih]
    rfl

/-- The order of the bytes is the order of the code points. -/
theorem compareLex_utf8 (a b : List Char) :
    List.compareLex compare (utf8 a) (utf8 b) = List.compareLex (compareOn Char.toNat) a b := by
  induction a generalizing b with
  | nil =>
    cases b with
    | nil => rfl
    | cons d b =>
      obtain ⟨byte, bytes, hbytes⟩ := exists_utf8_cons d b
      rw [hbytes]
      rfl
  | cons c a ih =>
    cases b with
    | nil =>
      obtain ⟨byte, bytes, hbytes⟩ := exists_utf8_cons c a
      rw [hbytes]
      rfl
    | cons d b =>
      rw [utf8_cons, utf8_cons, List.compareLex_cons_cons, compareOn]
      rcases Nat.lt_trichotomy c.toNat d.toNat with h | h | h
      · rw [compareLex_utf8EncodeChar_append h, Nat.compare_eq_lt.mpr h]
        rfl
      · obtain rfl := Char.toNat_inj.mp h
        rw [compareLex_append_left, ih, Nat.compare_eq_eq.mpr rfl]
        rfl
      · rw [OrientedCmp.gt_of_lt (compareLex_utf8EncodeChar_append h _ _),
          Nat.compare_eq_gt.mpr h]
        rfl

end RunPlan.Text
