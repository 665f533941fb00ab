import RunPlan.Glob.Match
import RunPlan.Proofs.Text.Splitting
import Mathlib.Data.List.Infix

/-!
What patterns match. Main statement: any directories and any name with a given end stand for the
paths with that end, at whatever depth.
-/

set_option autoImplicit false

namespace RunPlan.Glob

open RunPlan.Text

variable {s r : List Char}

private theorem mem_afterRun_iff : r ∈ afterRun s ↔ ∃ run, s = run ++ r ∧ '/' ∉ run := by
  induction s with
  | nil =>
    constructor
    · intro h
      exact ⟨[], (List.mem_singleton.mp h).symm, List.not_mem_nil⟩
    · rintro ⟨run, h, -⟩
      obtain ⟨-, rfl⟩ := List.append_eq_nil_iff.mp h.symm
      exact List.mem_singleton_self []
  | cons c s ih =>
    rw [afterRun, List.mem_cons]
    constructor
    · rintro (rfl | h)
      · exact ⟨[], rfl, List.not_mem_nil⟩
      · split at h
        · cases h
        · rename_i hc
          obtain ⟨run, rfl, hrun⟩ := ih.mp h
          refine ⟨c :: run, rfl, ?_⟩
          rw [List.mem_cons, not_or]
          exact ⟨Ne.symm hc, hrun⟩
    · rintro ⟨run, h, hrun⟩
      cases run with
      | nil => exact Or.inl h.symm
      | cons d run =>
        obtain ⟨rfl, rfl⟩ := List.cons.inj h
        rw [List.mem_cons, not_or] at hrun
        obtain ⟨hc, hrun⟩ := hrun
        rw [if_neg (Ne.symm hc)]
        exact Or.inr (ih.mpr ⟨run, rfl, hrun⟩)

private theorem mem_afterDirectories_iff :
    r ∈ afterDirectories s ↔ r = [] ∨ ∃ before, s = before ++ '/' :: r := by
  induction s with
  | nil => simp [afterDirectories]
  | cons c s ih =>
    have hcons : (∃ before, c :: s = before ++ '/' :: r) ↔
        (c = '/' ∧ s = r) ∨ ∃ before, s = before ++ '/' :: r := by
      constructor
      · rintro ⟨before, h⟩
        cases before with
        | nil => exact Or.inl (List.cons.inj h)
        | cons d before => exact Or.inr ⟨before, (List.cons.inj h).2⟩
      · rintro (⟨rfl, rfl⟩ | ⟨before, rfl⟩)
        · exact ⟨[], rfl⟩
        · exact ⟨c :: before, rfl⟩
    rw [afterDirectories, hcons]
    by_cases hc : c = '/'
    · rw [if_pos hc, List.mem_cons, ih]
      simp only [hc, true_and, eq_comm (a := r) (b := s)]
      exact or_left_comm
    · rw [if_neg hc, ih]
      simp only [hc, false_and, false_or]

private theorem matchesChars_map_char_iff (cs : List Char) :
    matchesChars (cs.map .char) s = true ↔ s = cs := by
  induction cs generalizing s with
  | nil => simp [matchesChars]
  | cons c cs ih =>
    cases s with
    | nil => simp [matchesChars, Token.rests, afterChar]
    | cons d s =>
      rw [List.map_cons, matchesChars, Token.rests, afterChar]
      by_cases hd : d = c <;> simp [hd, ih]

theorem matchesChars_extension_iff {extension : List Char} (hplain : '/' ∉ extension) :
    matchesChars (.anyDirectories :: .anySequence :: extension.map .char) s = true ↔
      extension <:+ s := by
  have hmatches : matchesChars (.anyDirectories :: .anySequence :: extension.map .char) s = true ↔
      ∃ r, (r = s ∨ r ∈ afterDirectories s) ∧ extension ∈ afterRun r := by
    simp [matchesChars, Token.rests, matchesChars_map_char_iff]
  rw [hmatches]
  constructor
  · rintro ⟨r, hr, hend⟩
    obtain ⟨run, rfl, -⟩ := mem_afterRun_iff.mp hend
    have hsuffix : extension <:+ run ++ extension := List.suffix_append run extension
    rcases hr with rfl | hr
    · exact hsuffix
    · rcases mem_afterDirectories_iff.mp hr with hnil | ⟨before, rfl⟩
      · obtain ⟨-, rfl⟩ := List.append_eq_nil_iff.mp hnil
        exact List.nil_suffix
      · exact hsuffix.trans ((List.suffix_cons _ _).trans (List.suffix_append _ _))
  · rintro ⟨front, rfl⟩
    by_cases hmem : '/' ∈ front
    · obtain ⟨before, after, rfl, hafter⟩ := exists_cutLast_of_mem hmem
      refine ⟨after ++ extension, Or.inr ?_, mem_afterRun_iff.mpr ⟨after, rfl, hafter⟩⟩
      exact mem_afterDirectories_iff.mpr (Or.inr ⟨before, by simp⟩)
    · exact ⟨front ++ extension, Or.inl rfl, mem_afterRun_iff.mpr ⟨front, rfl, hmem⟩⟩

end RunPlan.Glob
