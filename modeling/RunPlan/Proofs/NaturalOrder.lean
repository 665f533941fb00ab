import RunPlan.NaturalOrder
import Mathlib.Data.List.Nodup

/-!
The natural order of names is a total order. Main statements: the comparison is transitive and
turns around with its arguments, names that compare equal are equal, and sorting by a name is
stable.
-/

set_option autoImplicit false

namespace RunPlan.NaturalOrder

open Std

private instance lawfulEqCmp_compareOn_toNat : LawfulEqCmp (compareOn Char.toNat) where
  compare_self := ReflCmp.compare_self
  eq_of_compare h := Char.toNat_inj.mp (Nat.compare_eq_eq.mp h)

instance transCmp_compareChars : TransCmp compareChars :=
  inferInstanceAs (TransCmp (List.compareLex (compareOn Char.toNat)))

instance lawfulEqCmp_compareChars : LawfulEqCmp compareChars :=
  inferInstanceAs (LawfulEqCmp (List.compareLex (compareOn Char.toNat)))

private theorem compareChars_eq_iff {a b : List Char} : compareChars a b = .eq ↔ a = b :=
  LawfulEqCmp.compare_eq_iff_eq

instance transCmp_comap {α β : Type} (cmp : β → β → Ordering) [TransCmp cmp] (f : α → β) :
    TransCmp fun a b => cmp (f a) (f b) where
  eq_swap := OrientedCmp.eq_swap
  isLE_trans := TransCmp.isLE_trans

instance transCmp_compareDigits : TransCmp compareDigits :=
  inferInstanceAs (TransCmp (compareLex (compareOn fun cs => (significant cs).length)
    (compareLex (fun a b => compareChars (significant a) (significant b))
      (compareOn List.length))))

private theorem replicate_append_significant (cs : List Char) :
    List.replicate (cs.length - (significant cs).length) '0' ++ significant cs = cs := by
  induction cs with
  | nil => rfl
  | cons c cs ih =>
    have hle : (significant cs).length ≤ cs.length := (List.dropWhile_sublist _).length_le
    by_cases hc : c = '0'
    · subst hc
      have hdrop : significant ('0' :: cs) = significant cs := rfl
      rw [hdrop, List.length_cons, Nat.succ_sub hle, List.replicate_succ, List.cons_append, ih]
    · have hkeep : significant (c :: cs) = c :: cs := by
        simp [significant, hc]
      rw [hkeep, Nat.sub_self, List.replicate_zero, List.nil_append]

private theorem compareDigits_eq_iff {a b : List Char} : compareDigits a b = .eq ↔ a = b := by
  constructor
  · intro h
    simp only [compareDigits, Ordering.then_eq_eq, Nat.compare_eq_eq, compareChars_eq_iff] at h
    obtain ⟨-, hsignificant, hlength⟩ := h
    rw [← replicate_append_significant a, ← replicate_append_significant b, hsignificant, hlength]
  · rintro rfl
    simp only [compareDigits, Ordering.then_eq_eq, Nat.compare_eq_eq, compareChars_eq_iff,
      and_self]

private theorem compareRun_eq_iff {r s : Run} : compareRun r s = .eq ↔ r = s := by
  cases r with
  | digits a => cases s <;> simp [compareRun, compareDigits_eq_iff]
  | text a => cases s <;> simp [compareRun]

instance lawfulEqCmp_compareRun : LawfulEqCmp compareRun where
  compare_self := compareRun_eq_iff.mpr rfl
  eq_of_compare := compareRun_eq_iff.mp

private theorem compareRun_swap (r s : Run) : compareRun r s = (compareRun s r).swap := by
  cases r with
  | digits a =>
    cases s with
    | digits b =>
      show compareDigits a b = (compareDigits b a).swap
      exact OrientedCmp.eq_swap
    | text b => rfl
  | text a =>
    cases s with
    | digits b => rfl
    | text b =>
      show compareChars a b = (compareChars b a).swap
      exact OrientedCmp.eq_swap

private theorem compareRun_trans {r s t : Run} (hrs : (compareRun r s).isLE = true)
    (hst : (compareRun s t).isLE = true) : (compareRun r t).isLE = true := by
  match r, s, t with
  | .digits a, .digits b, .digits c =>
    have hac : (compareDigits a c).isLE = true := TransCmp.isLE_trans (b := b) hrs hst
    exact hac
  | .digits _, _, .text _ => rfl
  | .text _, .digits _, _ => cases hrs
  | _, .text _, .digits _ => cases hst
  | .text a, .text b, .text c =>
    have hac : (compareChars a c).isLE = true := TransCmp.isLE_trans (b := b) hrs hst
    exact hac

instance transCmp_compareRun : TransCmp compareRun where
  eq_swap := compareRun_swap _ _
  isLE_trans := compareRun_trans

instance transCmp_compareRuns : TransCmp compareRuns :=
  inferInstanceAs (TransCmp (List.compareLex compareRun))

instance lawfulEqCmp_compareRuns : LawfulEqCmp compareRuns :=
  inferInstanceAs (LawfulEqCmp (List.compareLex compareRun))

instance transCmp_compareNames : TransCmp compareNames :=
  transCmp_comap compareRuns fun a : String => runs a.toList

private theorem compareRuns_self (rs : List Run) : compareRuns rs rs = .eq := ReflCmp.compare_self

private theorem runs_injective {s t : List Char} (h : runs s = runs t) : s = t := by
  rw [← flatMap_runs s, ← flatMap_runs t, h]

instance lawfulEqCmp_compareNames : LawfulEqCmp compareNames where
  compare_self := compareRuns_self _
  eq_of_compare h := String.toList_inj.mp (runs_injective (LawfulEqCmp.eq_of_compare h))

/-- The natural order of names is a total order, in which different names are never equal. -/
theorem compareNames_total_order :
    (∀ a b, compareNames a b = .eq ↔ a = b) ∧
    (∀ a b, compareNames b a = (compareNames a b).swap) ∧
    ∀ a b c, compareNames a b ≠ .gt → compareNames b c ≠ .gt → compareNames a c ≠ .gt := by
  refine ⟨fun a b => LawfulEqCmp.compare_eq_iff_eq, fun a b => OrientedCmp.eq_swap, ?_⟩
  intro a b c hab hbc
  have hle := TransCmp.isLE_trans (Ordering.isLE_iff_ne_gt.mpr hab)
    (Ordering.isLE_iff_ne_gt.mpr hbc)
  exact Ordering.isLE_iff_ne_gt.mp hle

theorem compareNames_sample_total_order :
    compareNames "q2" "q02" ≠ .gt ∧ compareNames "q02" "q10" ≠ .gt ∧
      compareNames "q2" "q10" ≠ .gt := by
  have hzero : compareNames "q2" "q02" ≠ .gt := by decide +kernel
  have hten : compareNames "q02" "q10" ≠ .gt := by decide +kernel
  obtain ⟨-, -, htrans⟩ := compareNames_total_order
  exact ⟨hzero, hten, htrans "q2" "q02" "q10" hzero hten⟩

theorem le_iff_isLE {a b : String} : le a b = true ↔ (compareNames a b).isLE = true := by
  rw [le]
  cases compareNames a b <;> decide

theorem le_trans {a b c : String} (hab : le a b = true) (hbc : le b c = true) :
    le a c = true := by
  rw [le_iff_isLE] at hab hbc ⊢
  exact TransCmp.isLE_trans hab hbc

theorem le_total (a b : String) : (le a b || le b a) = true := by
  have hswap : compareNames a b = (compareNames b a).swap := OrientedCmp.eq_swap
  rw [le, le, hswap]
  cases compareNames b a <;> rfl

private theorem le_antisymm {a b : String} (hab : le a b = true) (hba : le b a = true) : a = b := by
  rw [le_iff_isLE] at hab hba
  exact LawfulEqCmp.eq_of_compare (OrientedCmp.isLE_antisymm hab hba)

theorem le_refl (a : String) : le a a = true := by
  have h := le_total a a
  rwa [Bool.or_self] at h

section Sorting

variable {α : Type} (name : α → String)

theorem sortBy_perm (xs : List α) : (sortBy name xs).Perm xs := List.mergeSort_perm xs _

private theorem le_name_trans (a b c : α) (hab : le (name a) (name b) = true)
    (hbc : le (name b) (name c) = true) : le (name a) (name c) = true :=
  le_trans hab hbc

private theorem le_name_total (a b : α) :
    (le (name a) (name b) || le (name b) (name a)) = true :=
  le_total (name a) (name b)

theorem pairwise_sortBy (xs : List α) :
    (sortBy name xs).Pairwise fun a b => le (name a) (name b) = true :=
  List.pairwise_mergeSort (le_name_trans name) (le_name_total name) xs

/-- Sorting is stable: what has the same name keeps its order. -/
theorem filter_sortBy (xs : List α) (n : String) :
    ((sortBy name xs).filter fun a => name a = n) = xs.filter fun a => name a = n := by
  have hsame : (xs.filter fun a => name a = n).Pairwise
      fun a b => le (name a) (name b) = true := by
    refine List.pairwise_of_forall_mem_list fun a ha b hb => ?_
    have han : name a = n := by simpa using (List.mem_filter.mp ha).2
    have hbn : name b = n := by simpa using (List.mem_filter.mp hb).2
    rw [han, hbn]
    exact le_refl n
  have hsub : (xs.filter fun a => name a = n).Sublist (sortBy name xs) :=
    List.sublist_mergeSort (le_name_trans name) (le_name_total name) hsame List.filter_sublist
  have hfilter := hsub.filter fun a => decide (name a = n)
  rw [List.filter_filter] at hfilter
  simp only [Bool.and_self] at hfilter
  have hlength := ((sortBy_perm name xs).filter fun a => decide (name a = n)).length_eq
  exact (hfilter.eq_of_length hlength.symm).symm

private theorem mem_of_filter_eq {xs ys : List α}
    (h : ∀ n, (xs.filter fun a => name a = n) = ys.filter fun a => name a = n) {a : α}
    (ha : a ∈ xs) : a ∈ ys := by
  have hxs : a ∈ xs.filter fun b => name b = name a := List.mem_filter.mpr ⟨ha, by simp⟩
  rw [h] at hxs
  exact (List.mem_filter.mp hxs).1

/-- A list sorted by name is determined by what it holds under each name. -/
theorem eq_of_pairwise_of_filter {xs ys : List α}
    (hx : xs.Pairwise fun a b => le (name a) (name b) = true)
    (hy : ys.Pairwise fun a b => le (name a) (name b) = true)
    (h : ∀ n, (xs.filter fun a => name a = n) = ys.filter fun a => name a = n) : xs = ys := by
  induction xs generalizing ys with
  | nil =>
    cases ys with
    | nil => rfl
    | cons y ys =>
      exact absurd (mem_of_filter_eq name (fun n => (h n).symm) List.mem_cons_self)
        List.not_mem_nil
  | cons x xs ih =>
    cases ys with
    | nil => exact absurd (mem_of_filter_eq name h List.mem_cons_self) List.not_mem_nil
    | cons y ys =>
      rw [List.pairwise_cons] at hx hy
      have hxy : le (name x) (name y) = true := by
        have hmem := mem_of_filter_eq name (fun n => (h n).symm) (a := y) List.mem_cons_self
        rcases List.mem_cons.mp hmem with rfl | hmem
        · exact le_refl _
        · exact hx.1 y hmem
      have hyx : le (name y) (name x) = true := by
        have hmem := mem_of_filter_eq name h (a := x) List.mem_cons_self
        rcases List.mem_cons.mp hmem with rfl | hmem
        · exact le_refl _
        · exact hy.1 x hmem
      have hname : name x = name y := le_antisymm hxy hyx
      -- both heads are the first item under their common name
      have hhead := h (name x)
      rw [List.filter_cons_of_pos (by simp), List.filter_cons_of_pos (by simp [hname])] at hhead
      obtain ⟨rfl, -⟩ := List.cons.inj hhead
      refine congrArg (x :: ·) (ih hx.2 hy.2 fun n => ?_)
      have hn := h n
      by_cases hxn : name x = n
      · rw [List.filter_cons_of_pos (by simpa using hxn),
          List.filter_cons_of_pos (by simpa using hxn)] at hn
        exact (List.cons.inj hn).2
      · rwa [List.filter_cons_of_neg (by simpa using hxn),
          List.filter_cons_of_neg (by simpa using hxn)] at hn

theorem pairwise_lt_sortBy {xs : List α} (h : (xs.map name).Nodup) :
    (sortBy name xs).Pairwise fun a b => compareNames (name a) (name b) = .lt := by
  have hne : (sortBy name xs).Pairwise fun a b => name a ≠ name b :=
    List.pairwise_map.mp (((sortBy_perm name xs).map name).nodup_iff.mpr h)
  refine (pairwise_sortBy name xs).imp₂ (fun a b hle hne => ?_) hne
  rw [le_iff_isLE] at hle
  cases hcmp : compareNames (name a) (name b) with
  | lt => rfl
  | eq => exact absurd (LawfulEqCmp.eq_of_compare hcmp) hne
  | gt =>
    rw [hcmp] at hle
    cases hle

theorem sortBy_eq_of_perm {xs ys : List α} (h : xs.Perm ys) (hn : (xs.map name).Nodup) :
    sortBy name xs = sortBy name ys := by
  have hperm : (sortBy name xs).Perm (sortBy name ys) :=
    (sortBy_perm name xs).trans (h.trans (sortBy_perm name ys).symm)
  refine List.Perm.eq_of_pairwise ?_ (pairwise_sortBy name xs) (pairwise_sortBy name ys) hperm
  intro a b ha hb hab hba
  have ha' : a ∈ xs := (sortBy_perm name xs).mem_iff.mp ha
  have hb' : b ∈ xs := h.mem_iff.mpr ((sortBy_perm name ys).mem_iff.mp hb)
  exact List.inj_on_of_nodup_map hn ha' hb' (le_antisymm hab hba)

variable {β : Type} (key : β → String) {items : β → List α}

private theorem filter_flatMap_of_key (hkey : ∀ b, ∀ a ∈ items b, name a = key b) (n : String)
    (bs : List β) : ((bs.flatMap items).filter fun a => name a = n) =
      (bs.filter fun b => key b = n).flatMap items := by
  induction bs with
  | nil => rfl
  | cons b bs ih =>
    rw [List.flatMap_cons, List.filter_append, ih]
    by_cases hb : key b = n
    · rw [List.filter_cons_of_pos (by simpa using hb), List.flatMap_cons,
        List.filter_eq_self.mpr fun a ha => by simpa [hkey b a ha] using hb]
    · rw [List.filter_cons_of_neg (by simpa using hb),
        List.filter_eq_nil_iff.mpr fun a ha => by simpa [hkey b a ha] using hb, List.nil_append]

theorem sortBy_flatMap (hkey : ∀ b, ∀ a ∈ items b, name a = key b) (bs : List β) :
    sortBy name (bs.flatMap items) = (sortBy key bs).flatMap items := by
  refine eq_of_pairwise_of_filter name (pairwise_sortBy name _) ?_ fun n => ?_
  · rw [List.pairwise_flatMap]
    constructor
    · intro b _
      refine List.pairwise_of_forall_mem_list fun a ha a' ha' => ?_
      rw [hkey b a ha, hkey b a' ha']
      exact le_refl _
    · refine (pairwise_sortBy key bs).imp fun hbc a ha a' ha' => ?_
      rwa [hkey _ a ha, hkey _ a' ha']
  · rw [filter_sortBy, filter_flatMap_of_key name key hkey, filter_flatMap_of_key name key hkey,
      filter_sortBy]

end Sorting

end RunPlan.NaturalOrder
