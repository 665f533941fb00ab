import RunPlan.Text.Split
import Mathlib.Data.List.Infix

/-!
Cutting a text at a separator or at a pattern. Main statements: a cut is made at the first separator
and at no other; the pieces of a cut and the pattern give the text back, and a pattern that stands
anywhere is found at its first place.
-/

set_option autoImplicit false

namespace RunPlan.Text

section Separators

variable {sep : Char} {s : List Char}

theorem cut_eq_some_iff {before after : List Char} :
    cut sep s = some (before, after) ↔ s = before ++ sep :: after ∧ sep ∉ before := by
  induction s generalizing before with
  | nil => simp [cut]
  | cons c r ih =>
    rw [cut]
    by_cases hc : c = sep
    · subst hc
      cases before with
      | nil => simp
      | cons b before => simp +contextual [eq_comm]
    · rw [if_neg hc]
      cases before with
      | nil => simp [hc]
      | cons b before =>
        have hne : sep ≠ c := fun he => hc he.symm
        simp only [Option.map_eq_some_iff, Prod.exists, Prod.mk.injEq, List.cons.injEq,
          List.cons_append, List.mem_cons, not_or]
        constructor
        · rintro ⟨a, b', h, ⟨rfl, rfl⟩, rfl⟩
          obtain ⟨hr, hmem⟩ := ih.mp h
          exact ⟨⟨rfl, hr⟩, hne, hmem⟩
        · rintro ⟨⟨rfl, hr⟩, -, hmem⟩
          exact ⟨before, after, ih.mpr ⟨hr, hmem⟩, ⟨rfl, rfl⟩, rfl⟩

theorem cut_eq_none_iff : cut sep s = none ↔ sep ∉ s := by
  induction s with
  | nil => simp [cut]
  | cons c r ih =>
    rw [cut]
    by_cases hc : c = sep
    · simp [hc]
    · have hne : ¬ sep = c := fun he => hc he.symm
      simp [hc, hne, ih]

theorem exists_cut_of_mem (h : sep ∈ s) :
    ∃ before after, s = before ++ sep :: after ∧ sep ∉ before := by
  cases hcut : cut sep s with
  | none => exact absurd h (cut_eq_none_iff.mp hcut)
  | some pieces => exact ⟨pieces.1, pieces.2, cut_eq_some_iff.mp hcut⟩

theorem eq_of_append_cons_eq {x x' y y' : List Char} (hx : sep ∉ x) (hx' : sep ∉ x')
    (h : x ++ sep :: y = x' ++ sep :: y') : x = x' ∧ y = y' := by
  have hcut : cut sep (x ++ sep :: y) = some (x, y) := cut_eq_some_iff.mpr ⟨rfl, hx⟩
  rw [cut_eq_some_iff.mpr ⟨h, hx'⟩, Option.some.injEq, Prod.mk.injEq] at hcut
  exact ⟨hcut.1.symm, hcut.2.symm⟩

theorem append_cons_ne {a b : Char} (hab : a ≠ b) {x y : List Char} (hx : b ∉ x) (hy : a ∉ y)
    (t u : List Char) : x ++ a :: t ≠ y ++ b :: u := by
  intro h
  rcases List.append_eq_append_iff.mp h with ⟨z, rfl, hz⟩ | ⟨z, rfl, hz⟩
  · cases z with
    | nil => exact hab (List.cons.inj hz).1
    | cons c z =>
      rw [(List.cons.inj hz).1] at hy
      exact hy (by simp)
  · cases z with
    | nil => exact hab (List.cons.inj hz).1.symm
    | cons c z =>
      rw [(List.cons.inj hz).1] at hx
      exact hx (by simp)

theorem suffix_of_suffix_append_cons {α : Type} {sep : α} {suffix s t : List α}
    (hsep : sep ∉ suffix) (h : suffix <:+ s ++ sep :: t) : suffix <:+ t := by
  rcases List.suffix_or_suffix_of_suffix h (List.suffix_append s (sep :: t)) with h | h
  · rcases List.suffix_cons_iff.mp h with rfl | h
    · exact absurd List.mem_cons_self hsep
    · exact h
  · exact absurd (h.subset List.mem_cons_self) hsep

end Separators

theorem eq_of_append_eq_of_forall {p : Char → Bool} {x x' y y' : List Char}
    (hx : ∀ c ∈ x, p c = true) (hx' : ∀ c ∈ x', p c = true) (hy : ∀ c ∈ y.head?, p c = false)
    (hy' : ∀ c ∈ y'.head?, p c = false) (h : x ++ y = x' ++ y') : x = x' ∧ y = y' := by
  induction x generalizing x' with
  | nil =>
    cases x' with
    | nil => exact ⟨rfl, h⟩
    | cons c x' =>
      have hother : p c = false := hy c (by simp [show y = c :: (x' ++ y') from h])
      rw [hx' c List.mem_cons_self] at hother
      cases hother
  | cons c x ih =>
    have hc : p c = true := hx c List.mem_cons_self
    cases x' with
    | nil =>
      have hother : p c = false := hy' c (by simp [show y' = c :: (x ++ y) from h.symm])
      rw [hc] at hother
      cases hother
    | cons c' x' =>
      obtain ⟨rfl, hrest⟩ := List.cons.inj h
      obtain ⟨rfl, hy⟩ := ih (fun d hd => hx d (List.mem_cons_of_mem _ hd))
        (fun d hd => hx' d (List.mem_cons_of_mem _ hd)) hrest
      exact ⟨rfl, hy⟩

theorem eq_of_cutAt {pattern s before after : List Char}
    (h : cutAt pattern s = some (before, after)) : s = before ++ pattern ++ after := by
  induction s generalizing before with
  | nil => cases h
  | cons c r ih =>
    rw [cutAt] at h
    cases hlead : pattern.isPrefixOf? (c :: r) with
    | some rest =>
      rw [hlead] at h
      cases h
      exact (List.isPrefixOf?_eq_some_iff_append_eq.mp hlead).symm
    | none =>
      rw [hlead] at h
      obtain ⟨⟨b, a⟩, hb, he⟩ := Option.map_eq_some_iff.mp h
      cases he
      rw [ih hb, List.cons_append, List.cons_append]

theorem exists_cutAt_of_eq {pattern s before after : List Char} (hne : pattern ≠ [])
    (h : s = before ++ pattern ++ after) :
    ∃ before' after', cutAt pattern s = some (before', after') ∧ after <:+ after' := by
  induction s generalizing before with
  | nil =>
    have hnil := (List.append_eq_nil_iff.mp (List.append_eq_nil_iff.mp h.symm).1).2
    exact absurd hnil hne
  | cons c r ih =>
    rw [cutAt]
    cases hlead : pattern.isPrefixOf? (c :: r) with
    | some rest =>
      refine ⟨[], rest, rfl, ?_⟩
      have hrest : pattern ++ rest = c :: r := List.isPrefixOf?_eq_some_iff_append_eq.mp hlead
      have hlength := congrArg List.length (hrest.trans h)
      simp only [List.length_append] at hlength
      have hafter : after <:+ c :: r := by
        rw [h]
        exact List.suffix_append _ _
      have hbehind : rest <:+ c :: r := by
        rw [← hrest]
        exact List.suffix_append _ _
      exact List.suffix_of_suffix_length_le hafter hbehind (by omega)
    | none =>
      cases before with
      | nil =>
        have hsome : pattern.isPrefixOf? (c :: r) = some after :=
          List.isPrefixOf?_eq_some_iff_append_eq.mpr h.symm
        rw [hsome] at hlead
        cases hlead
      | cons b before =>
        obtain ⟨-, htail⟩ := List.cons.inj h
        obtain ⟨before', after', hcut, hsuffix⟩ := ih htail
        exact ⟨c :: before', after', by rw [hcut]; rfl, hsuffix⟩

theorem cutAt_eq_none_iff {pattern s : List Char} (hne : pattern ≠ []) :
    cutAt pattern s = none ↔ ¬ pattern <:+: s := by
  constructor
  · rintro h ⟨before, after, hs⟩
    obtain ⟨before', after', hcut, -⟩ := exists_cutAt_of_eq hne hs.symm
    rw [h] at hcut
    cases hcut
  · intro h
    cases hcut : cutAt pattern s with
    | none => rfl
    | some pieces => exact absurd ⟨pieces.1, pieces.2, (eq_of_cutAt hcut).symm⟩ h

theorem cutAt_append {p : Char} {front : List Char} (h : p ∉ front) (ps s : List Char) :
    cutAt (p :: ps) (front ++ s) =
      (cutAt (p :: ps) s).map fun (before, after) => (front ++ before, after) := by
  induction front with
  | nil => cases hcut : cutAt (p :: ps) s <;> simp [hcut]
  | cons c front ih =>
    rw [List.mem_cons, not_or] at h
    have hlead : (p :: ps).isPrefixOf? (c :: (front ++ s)) = none := by
      rw [List.isPrefixOf?, if_neg (by simpa using h.1)]
    rw [List.cons_append, cutAt, hlead, ih h.2]
    cases cutAt (p :: ps) s <;> rfl

theorem cutAt_self_append (p : Char) (ps after : List Char) :
    cutAt (p :: ps) (p :: ps ++ after) = some ([], after) := by
  have hlead : (p :: ps).isPrefixOf? (p :: (ps ++ after)) = some after :=
    List.isPrefixOf?_eq_some_iff_append_eq.mpr rfl
  rw [List.cons_append, cutAt, hlead]

theorem infix_concat_iff_of_notMem {pattern s : List Char} {c : Char} (hne : pattern ≠ [])
    (h : c ∉ pattern) : pattern <:+: s ++ [c] ↔ pattern <:+: s := by
  rw [List.infix_concat_iff]
  refine or_iff_right ?_
  rintro ⟨before, hbefore⟩
  have hlast := congrArg List.getLast? hbefore
  rw [List.getLast?_concat, List.getLast?_append_of_ne_nil _ hne] at hlast
  exact h (List.mem_of_mem_getLast? hlast)

end RunPlan.Text
