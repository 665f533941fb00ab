import RunPlan.Proofs.Text.Splitting

/-!
The lines of a text. Main statements: a line and its end stand in front of the other lines, and a
text without carriage returns at its line ends is its lines with line feeds between them.
-/

set_option autoImplicit false

namespace RunPlan.Text

variable {s line : List Char}

theorem dropReturn_of_getLast?_ne (h : line.getLast? ≠ some '\r') : dropReturn line = line := by
  rw [dropReturn, if_neg h]

theorem lines_append_cons (h : '\n' ∉ line) (rest : List Char) :
    lines (line ++ '\n' :: rest) = dropReturn line :: lines rest := by
  have hne := split_ne_nil '\n' rest
  rw [lines, lines, split_append_cons, split_of_notMem h, List.singleton_append]
  rw [List.dropLast_cons_of_ne_nil hne, List.getLast?_cons_of_ne_nil hne]
  split <;> rfl

private theorem lines_of_notMem (h : '\n' ∉ s) (hne : s ≠ []) : lines s = [s] := by
  rw [lines, split_of_notMem h]
  cases s with
  | nil => exact absurd rfl hne
  | cons c r => rfl

theorem lines_eq_split (hreturn : ¬ ['\r', '\n'] <:+: s) (hne : s ≠ [])
    (hlast : s.getLast? ≠ some '\n') : lines s = split '\n' s := by
  induction hlength : s.length using Nat.strongRecOn generalizing s with
  | ind n ih =>
    by_cases hmem : '\n' ∈ s
    · obtain ⟨before, after, rfl, hbefore⟩ := exists_cut_of_mem hmem
      have hafter : after ≠ [] := by
        rintro rfl
        exact hlast (List.getLast?_concat ..)
      have hkept : before.getLast? ≠ some '\r' := by
        intro hlast
        obtain ⟨front, rfl⟩ := List.getLast?_eq_some_iff.mp hlast
        exact hreturn ⟨front, after, by simp⟩
      have hbehind : lines after = split '\n' after := by
        refine ih after.length ?_ (fun hinfix => hreturn ?_) hafter ?_ rfl
        · rw [← hlength, List.length_append, List.length_cons]
          omega
        · exact hinfix.trans (List.IsSuffix.isInfix ⟨before ++ ['\n'], by simp⟩)
        · rwa [List.getLast?_append_of_ne_nil _ (List.cons_ne_nil _ _),
            List.getLast?_cons_of_ne_nil hafter] at hlast
      rw [lines_append_cons hbefore, dropReturn_of_getLast?_ne hkept, hbehind, split_append_cons,
        split_of_notMem hbefore, List.singleton_append]
    · rw [lines_of_notMem hmem hne, split_of_notMem hmem]

theorem prefix_of_mem_head?_split {sep : Char} {piece : List Char}
    (h : piece ∈ (split sep s).head?) : piece <+: s := by
  by_cases hmem : sep ∈ s
  · obtain ⟨before, after, rfl, hbefore⟩ := exists_cut_of_mem hmem
    rw [split_append_cons, split_of_notMem hbefore] at h
    cases h
    exact List.prefix_append _ _
  · rw [split_of_notMem hmem] at h
    cases h
    exact List.prefix_rfl

end RunPlan.Text
