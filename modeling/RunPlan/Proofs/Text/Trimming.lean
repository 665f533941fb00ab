import RunPlan.Text.Split
import Mathlib.Data.List.Basic
import Mathlib.Data.List.DropRight
import Mathlib.Data.List.Induction

/-!
White space around a text and between words. Main statements: white space at either end makes no
difference to a trimmed text, a text without any there is kept as it is, and words with white space
between them are told apart.
-/

set_option autoImplicit false

namespace RunPlan.Text

theorem trim_cons_of_blank {c : Char} (h : isBlank c = true) (s : List Char) :
    trim (c :: s) = trim s := by
  rw [trim, trim, trimStart_cons_of_blank h]

theorem trimEnd_concat_of_blank {c : Char} (h : isBlank c = true) (s : List Char) :
    trimEnd (s ++ [c]) = trimEnd s := by
  rw [trimEnd, List.reverse_concat, trimStart_cons_of_blank h, trimEnd]

theorem trim_cons_of_not_blank {c : Char} (h : isBlank c = false) (s : List Char) :
    trim (c :: s) = trimEnd (c :: s) := by
  rw [trim, trimStart_cons_of_not_blank h]

theorem trim_concat_of_blank {c : Char} (h : isBlank c = true) (s : List Char) :
    trim (s ++ [c]) = trim s := by
  induction s with
  | nil => exact trim_cons_of_blank h []
  | cons b s ih =>
    cases hb : isBlank b with
    | true => rw [List.cons_append, trim_cons_of_blank hb, ih, trim_cons_of_blank hb]
    | false =>
      rw [List.cons_append, trim_cons_of_not_blank hb, ← List.cons_append,
        trimEnd_concat_of_blank h, trim_cons_of_not_blank hb]

theorem rdropWhile_append_cons {α : Type} {p : α → Bool} {a : α} (ha : p a = false)
    (front back : List α) :
    (front ++ a :: back).rdropWhile p = front ++ a :: back.rdropWhile p := by
  induction back using List.reverseRecOn with
  | nil => exact List.rdropWhile_concat_neg p front a (by simp [ha])
  | append_singleton back b ih =>
    rw [← List.cons_append, ← List.append_assoc, List.rdropWhile_concat, List.rdropWhile_concat, ih]
    split
    · rfl
    · simp

theorem trimEnd_append_cons {c : Char} (h : isBlank c = false) (front back : List Char) :
    trimEnd (front ++ c :: back) = front ++ c :: trimEnd back :=
  rdropWhile_append_cons h front back

theorem trim_append_cons {c : Char} (h : isBlank c = false) {front : List Char}
    (hfront : ∀ b ∈ front.head?, isBlank b = false) (back : List Char) :
    trim (front ++ c :: back) = front ++ c :: trimEnd back := by
  have hstart : trimStart (front ++ c :: back) = front ++ c :: back := by
    refine trimStart_eq_self_iff.mpr ?_
    cases front with
    | nil => simpa using h
    | cons b front => exact hfront
  rw [trim, hstart, trimEnd_append_cons h]

theorem trim_trimStart (s : List Char) : trim (trimStart s) = trim s := by
  rw [trim, trimStart_trimStart, trim]

theorem trim_trimEnd (s : List Char) : trim (trimEnd s) = trim s := by
  induction s using List.reverseRecOn with
  | nil => rfl
  | append_singleton r c ih =>
    cases hc : isBlank c with
    | true => rw [trimEnd_concat_of_blank hc, ih, trim_concat_of_blank hc]
    | false => rw [trimEnd_append_cons hc, show trimEnd [] = [] from rfl]

theorem trim_append_cons_of_not_blank {c : Char} (h : isBlank c = false)
    (front back : List Char) :
    trim (front ++ c :: back) = trimStart front ++ c :: trimEnd back := by
  induction front with
  | nil =>
    show trim (c :: back) = c :: trimEnd back
    rw [trim_cons_of_not_blank h]
    exact trimEnd_append_cons h [] back
  | cons b front ih =>
    cases hb : isBlank b with
    | true => rw [List.cons_append, trim_cons_of_blank hb, ih, trimStart_cons_of_blank hb]
    | false =>
      rw [List.cons_append, trim_cons_of_not_blank hb, trimStart_cons_of_not_blank hb,
        ← List.cons_append, trimEnd_append_cons h]

theorem mem_of_mem_trimEnd {c : Char} {s : List Char} (h : c ∈ trimEnd s) : c ∈ s := by
  rw [trimEnd, List.mem_reverse] at h
  exact List.mem_reverse.mp ((List.dropWhile_sublist _).subset h)

/-- A text that holds something and has no white space at either end. -/
structure IsTight (s : List Char) : Prop where
  nonempty : s ≠ []
  start : ∀ c ∈ s.head?, isBlank c = false
  stop : ∀ c ∈ s.getLast?, isBlank c = false

theorem IsTight.trim_eq {s : List Char} (h : IsTight s) : trim s = s := by
  rw [trim, trimStart_eq_self_iff.mpr h.start, trimEnd, trimStart_eq_self_iff.mpr,
    List.reverse_reverse]
  rw [List.head?_reverse]
  exact h.stop

theorem IsTight.of_trim_eq {s : List Char} (hne : s ≠ []) (h : trim s = s) : IsTight s := by
  have hstart : trimStart s = s := by
    refine (List.dropWhile_sublist isBlank).eq_of_length_le ?_
    have hend : (trimEnd (trimStart s)).length ≤ (trimStart s).length := by
      have hreverse : (trimStart (trimStart s).reverse).length ≤ (trimStart s).reverse.length :=
        (List.dropWhile_sublist isBlank).length_le
      rwa [List.length_reverse, ← List.length_reverse, ← trimEnd] at hreverse
    rwa [← trim, h] at hend
  have hstop : trimStart s.reverse = s.reverse := by
    rw [trim, hstart, trimEnd] at h
    exact List.reverse_eq_iff.mp h
  refine ⟨hne, trimStart_eq_self_iff.mp hstart, ?_⟩
  rw [← List.head?_reverse]
  exact trimStart_eq_self_iff.mp hstop

theorem isTight_iff {s : List Char} : IsTight s ↔ s ≠ [] ∧ trim s = s :=
  ⟨fun h => ⟨h.nonempty, h.trim_eq⟩, fun h => .of_trim_eq h.1 h.2⟩

theorem IsTight.of_forall {s : List Char} (hne : s ≠ []) (h : ∀ c ∈ s, isBlank c = false) :
    IsTight s :=
  ⟨hne, fun c hc => h c (List.mem_of_mem_head? hc), fun c hc => h c (List.mem_of_mem_getLast? hc)⟩

theorem IsTight.surround {front back : List Char} (hfront : IsTight front) (hback : IsTight back)
    (middle : List Char) : IsTight (front ++ (middle ++ back)) := by
  refine ⟨by simp [hfront.nonempty], fun c hc => hfront.start c ?_, fun c hc => hback.stop c ?_⟩
  · rwa [List.head?_append_of_ne_nil _ hfront.nonempty] at hc
  · rwa [← List.append_assoc, List.getLast?_append_of_ne_nil _ hback.nonempty] at hc

theorem IsTight.cons_trimEnd {c : Char} (h : isBlank c = false) (s : List Char) :
    IsTight (c :: trimEnd s) := by
  refine ⟨List.cons_ne_nil _ _, ?_, ?_⟩
  · rintro _ ⟨⟩
    exact h
  · intro d hd
    rw [List.getLast?_cons, Option.mem_some_iff] at hd
    cases hlast : (trimEnd s).getLast? with
    | none =>
      rw [hlast] at hd
      exact hd ▸ h
    | some e =>
      have hstop := List.head?_dropWhile_not isBlank s.reverse
      rw [hlast] at hd
      rw [trimEnd, List.getLast?_reverse, trimStart] at hlast
      rw [hlast] at hstop
      cases hd
      exact hstop

theorem mem_trim_of_not_blank {c : Char} {s : List Char} (hmem : c ∈ s) (h : isBlank c = false) :
    c ∈ trim s := by
  have hstart : ∀ {t : List Char}, c ∈ t → c ∈ trimStart t := by
    intro t ht
    rw [← List.takeWhile_append_dropWhile (p := isBlank) (l := t), List.mem_append] at ht
    refine ht.resolve_left fun hlead => ?_
    rw [List.all_eq_true.mp List.all_takeWhile c hlead] at h
    cases h
  rw [trim, trimEnd, List.mem_reverse]
  exact hstart (List.mem_reverse.mpr (hstart hmem))

theorem trim_eq_nil_iff {s : List Char} : trim s = [] ↔ allBlank s = true := by
  constructor
  · intro h
    refine List.all_eq_true.mpr fun c hc => ?_
    by_contra hblank
    have hmem := mem_trim_of_not_blank hc (by simpa using hblank)
    rw [h] at hmem
    cases hmem
  · intro h
    rw [trim, trimStart_eq_nil_iff.mpr h]
    rfl

section Words

private theorem foldr_word {w : List Char} (h : ∀ c ∈ w, isBlank c = false)
    (found : List (List Char)) (word : List Char) :
    w.foldr (fun c (ws, w) =>
      if isBlank c then (if w.isEmpty then ws else w :: ws, []) else (ws, c :: w)) (found, word) =
      (found, w ++ word) := by
  induction w with
  | nil => rfl
  | cons c w ih =>
    obtain ⟨hc, hw⟩ := List.forall_mem_cons.mp h
    rw [List.foldr_cons, ih hw]
    simp [hc]

theorem words_append_blank {w : List Char} (hw : ∀ c ∈ w, isBlank c = false) (hne : w ≠ [])
    {c : Char} (hc : isBlank c = true) (s : List Char) : words (w ++ c :: s) = w :: words s := by
  rw [words, List.foldr_append, List.foldr_cons, words]
  generalize s.foldr _ _ = state
  obtain ⟨found, word⟩ := state
  simp only [hc, if_true]
  rw [foldr_word hw]
  simp [hne]

theorem words_eq_singleton {w : List Char} (hw : ∀ c ∈ w, isBlank c = false) (hne : w ≠ []) :
    words w = [w] := by
  rw [words, foldr_word hw]
  simp [hne]

end Words

end RunPlan.Text
