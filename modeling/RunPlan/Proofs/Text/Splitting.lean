import RunPlan.Proofs.Text.Cutting
import RunPlan.Proofs.Text.Trimming
import Mathlib.Data.List.Forall2

/-!
Splitting a text at every separator. Main statements: the pieces of two texts with a separator
between them are those of both, pieces that hold no separator are given back by splitting what they
are joined to, and white space around a text only changes white space around its pieces.
-/

set_option autoImplicit false

namespace RunPlan.Text

variable {sep : Char} {s : List Char}

theorem exists_cutLast_of_mem (h : sep ∈ s) :
    ∃ before after, s = before ++ sep :: after ∧ sep ∉ after := by
  obtain ⟨after, before, hs, hafter⟩ := exists_cut_of_mem (List.mem_reverse.mpr h)
  refine ⟨before.reverse, after.reverse, ?_, fun hmem => hafter (List.mem_reverse.mp hmem)⟩
  rw [← List.reverse_reverse s, hs]
  simp

theorem cutLast_eq_some_iff {before after : List Char} :
    cutLast sep s = some (before, after) ↔ s = before ++ sep :: after ∧ sep ∉ after := by
  have hflip : ∀ x : List Char, s.reverse = x ++ sep :: before.reverse ↔
      s = before ++ sep :: x.reverse := by
    intro x
    rw [← List.reverse_inj]
    simp
  rw [cutLast, Option.map_eq_some_iff]
  constructor
  · rintro ⟨⟨x, y⟩, hcut, hxy⟩
    obtain ⟨rfl, rfl⟩ := Prod.mk.inj hxy
    obtain ⟨hs, hx⟩ := cut_eq_some_iff.mp hcut
    refine ⟨(hflip x).mp ?_, fun hmem => hx (List.mem_reverse.mp hmem)⟩
    rw [hs, List.reverse_reverse]
  · rintro ⟨hs, hafter⟩
    refine ⟨(after.reverse, before.reverse), cut_eq_some_iff.mpr ⟨(hflip _).mpr ?_, ?_⟩, by simp⟩
    · rw [hs, List.reverse_reverse]
    · exact fun hmem => hafter (List.mem_reverse.mp hmem)

theorem cutLast_append_cons {after : List Char} (h : sep ∉ after) (before : List Char) :
    cutLast sep (before ++ sep :: after) = some (before, after) :=
  cutLast_eq_some_iff.mpr ⟨rfl, h⟩

theorem split_of_notMem (h : sep ∉ s) : split sep s = [s] := by
  induction s with
  | nil => rfl
  | cons c r ih =>
    rw [List.mem_cons, not_or] at h
    rw [split, if_neg fun hc => h.1 hc.symm, ih h.2]

theorem split_append_cons (sep : Char) (s t : List Char) :
    split sep (s ++ sep :: t) = split sep s ++ split sep t := by
  induction s with
  | nil => simp [split]
  | cons c r ih =>
    rw [List.cons_append, split, split]
    by_cases hc : c = sep
    · rw [if_pos hc, if_pos hc, ih, List.cons_append]
    · rw [if_neg hc, if_neg hc, ih]
      cases hr : split sep r with
      | nil => exact absurd hr (split_ne_nil sep r)
      | cons p ps => rfl

theorem split_eq_concat_cases {ps : List (List Char)} {p : List Char}
    (h : split sep s = ps ++ [p]) :
    (ps = [] ∧ s = p) ∨ ∃ before, s = before ++ sep :: p ∧ split sep before = ps := by
  by_cases hsep : sep ∈ s
  · obtain ⟨before, after, rfl, hafter⟩ := exists_cutLast_of_mem hsep
    rw [split_append_cons, split_of_notMem hafter] at h
    obtain ⟨hps, hp⟩ := List.append_inj' h rfl
    exact .inr ⟨before, congrArg _ (congrArg _ (List.cons.inj hp).1), hps⟩
  · rw [split_of_notMem hsep, ← List.nil_append [s]] at h
    obtain ⟨hps, hp⟩ := List.append_inj' h rfl
    exact .inl ⟨hps.symm, (List.cons.inj hp).1⟩

theorem join_cons {ps : List (List Char)} (hne : ps ≠ []) (sep p : List Char) :
    join sep (p :: ps) = p ++ sep ++ join sep ps := by
  cases ps with
  | nil => exact absurd rfl hne
  | cons q ps => rfl

theorem join_cons_eq_flatMap (sep p : List Char) (ps : List (List Char)) :
    join sep (p :: ps) = p ++ ps.flatMap fun q => sep ++ q := by
  induction ps generalizing p with
  | nil => simp [join]
  | cons q ps ih => rw [join, ih, List.flatMap_cons, List.append_assoc, List.append_assoc]

theorem join_concat {ps : List (List Char)} (hne : ps ≠ []) (sep p : List Char) :
    join sep (ps ++ [p]) = join sep ps ++ sep ++ p := by
  induction ps with
  | nil => exact absurd rfl hne
  | cons q ps ih =>
    cases ps with
    | nil => rfl
    | cons q' ps =>
      have hlonger : q' :: ps ++ [p] ≠ [] := List.cons_ne_nil _ _
      rw [List.cons_append, join_cons hlonger, ih (List.cons_ne_nil _ _),
        join_cons (List.cons_ne_nil q' ps)]
      simp only [List.append_assoc]

theorem infix_join_of_mem {ps : List (List Char)} {p : List Char} (h : p ∈ ps) (sep : List Char) :
    p <:+: join sep ps := by
  induction ps with
  | nil => cases h
  | cons q ps ih =>
    rcases List.mem_cons.mp h with rfl | h
    · rw [join_cons_eq_flatMap]
      exact (List.prefix_append _ _).isInfix
    · rw [join_cons (List.ne_nil_of_mem h)]
      exact (ih h).trans (List.suffix_append _ _).isInfix

theorem infix_of_mem_split {p : List Char} (h : p ∈ split sep s) : p <:+: s := by
  have hinfix := infix_join_of_mem h [sep]
  rwa [join_split] at hinfix

theorem join_concat_append (sep : List Char) (ps : List (List Char)) (p q : List Char) :
    join sep (ps ++ [p ++ q]) = join sep (ps ++ [p]) ++ q := by
  by_cases hne : ps = []
  · subst hne
    rfl
  · rw [join_concat hne, join_concat hne, List.append_assoc (join sep ps ++ sep)]

theorem split_join {ps : List (List Char)} (hne : ps ≠ []) (h : ∀ p ∈ ps, sep ∉ p) :
    split sep (join [sep] ps) = ps := by
  induction ps with
  | nil => exact absurd rfl hne
  | cons p ps ih =>
    obtain ⟨hp, hps⟩ := List.forall_mem_cons.mp h
    cases ps with
    | nil => exact split_of_notMem hp
    | cons q ps =>
      rw [join_cons (List.cons_ne_nil _ _), List.append_assoc, List.singleton_append,
        split_append_cons, split_of_notMem hp, ih (List.cons_ne_nil _ _) hps]
      rfl

theorem join_eq_intercalate (sep : List Char) (ps : List (List Char)) :
    join sep ps = sep.intercalate ps := by
  induction ps with
  | nil => rfl
  | cons p ps ih =>
    cases ps with
    | nil => simp [join]
    | cons q qs => rw [join, ih, List.intercalate_cons_cons]

theorem join_injective {ps qs : List (List Char)} (hps : ∀ p ∈ ps, p ≠ [] ∧ sep ∉ p)
    (hqs : ∀ q ∈ qs, q ≠ [] ∧ sep ∉ q) (h : join [sep] ps = join [sep] qs) : ps = qs := by
  have hempty : ∀ {ps : List (List Char)}, (∀ p ∈ ps, p ≠ [] ∧ sep ∉ p) → ps ≠ [] →
      join [sep] ps ≠ [] := by
    intro ps hps hne hjoin
    have hsplit := split_join hne fun p hp => (hps p hp).2
    rw [hjoin] at hsplit
    exact (hps [] (by rw [← hsplit]; exact List.mem_singleton_self _)).1 rfl
  by_cases hp : ps = []
  · by_contra hne
    subst hp
    exact hempty hqs (Ne.symm hne) h.symm
  · by_cases hq : qs = []
    · subst hq
      exact absurd h (hempty hps hp)
    · rw [← split_join hp fun p hmem => (hps p hmem).2, h,
        split_join hq fun q hmem => (hqs q hmem).2]

section WhiteSpace

theorem map_trim_split_cons {c : Char} (hc : isBlank c = true) (hsep : isBlank sep = false)
    (s : List Char) : (split sep (c :: s)).map trim = (split sep s).map trim := by
  have hne : c ≠ sep := by
    rintro rfl
    rw [hc] at hsep
    cases hsep
  rw [split, if_neg hne]
  cases hs : split sep s with
  | nil => exact absurd hs (split_ne_nil sep s)
  | cons p ps => rw [List.map_cons, List.map_cons, trim_cons_of_blank hc]

private theorem map_trim_split_concat {c : Char} (hc : isBlank c = true)
    (hsep : isBlank sep = false)
    (s : List Char) : (split sep (s ++ [c])).map trim = (split sep s).map trim := by
  have hne : sep ≠ c := by
    rintro rfl
    rw [hc] at hsep
    cases hsep
  by_cases hmem : sep ∈ s
  · obtain ⟨before, after, rfl, hafter⟩ := exists_cutLast_of_mem hmem
    have hlonger : sep ∉ after ++ [c] := by simp [hafter, hne]
    rw [List.append_assoc, List.cons_append, split_append_cons, split_append_cons,
      split_of_notMem hlonger, split_of_notMem hafter]
    simp only [List.map_append, List.map_cons, List.map_nil, trim_concat_of_blank hc]
  · have hlonger : sep ∉ s ++ [c] := by simp [hmem, hne]
    rw [split_of_notMem hlonger, split_of_notMem hmem]
    simp only [List.map_cons, List.map_nil, trim_concat_of_blank hc]

private theorem map_trim_split_trim (hsep : isBlank sep = false) (s : List Char) :
    (split sep (trim s)).map trim = (split sep s).map trim := by
  have hstart : ∀ s, (split sep (trimStart s)).map trim = (split sep s).map trim := by
    intro s
    induction s with
    | nil => rfl
    | cons c r ih =>
      cases hc : isBlank c with
      | true => rw [trimStart_cons_of_blank hc, ih, map_trim_split_cons hc hsep]
      | false => rw [trimStart_cons_of_not_blank hc]
  have hend : ∀ s, (split sep (trimEnd s)).map trim = (split sep s).map trim := by
    intro s
    induction s using List.reverseRecOn with
    | nil => rfl
    | append_singleton r c ih =>
      cases hc : isBlank c with
      | true => rw [trimEnd_concat_of_blank hc, ih, map_trim_split_concat hc hsep]
      | false => rw [trimEnd_append_cons hc, show trimEnd [] = [] from rfl]
  rw [trim, hend, hstart]

theorem forall₂_split_trim_iff {α : Type} {R : List Char → α → Prop}
    (hR : ∀ p a, R (trim p) a ↔ R p a) (hsep : isBlank sep = false) (s : List Char) (as : List α) :
    List.Forall₂ R (split sep (trim s)) as ↔ List.Forall₂ R (split sep s) as := by
  have htrim : ∀ ps : List (List Char),
      List.Forall₂ R (ps.map trim) as ↔ List.Forall₂ R ps as := by
    intro ps
    rw [List.forall₂_map_left_iff]
    simp only [hR]
  rw [← htrim, map_trim_split_trim hsep, htrim]

end WhiteSpace

end RunPlan.Text
