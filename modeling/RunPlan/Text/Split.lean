import RunPlan.Text.Blank

/-!
Cutting texts apart. Main statements: the pieces of a text joined by the separator give the text
back, no piece holds the separator, and a cut loses exactly the separator it was made at.
-/

set_option autoImplicit false

namespace RunPlan.Text

/-- The pieces between the separators, in order; always at least one. -/
def split {α : Type} [DecidableEq α] (sep : α) : List α → List (List α)
  | [] => [[]]
  | c :: r =>
    if c = sep then [] :: split sep r
    else match split sep r with
      | [] => [[c]]
      | p :: ps => (c :: p) :: ps

theorem split_ne_nil {α : Type} [DecidableEq α] (sep : α) (s : List α) : split sep s ≠ [] := by
  cases s with
  | nil => simp [split]
  | cons c r =>
    simp only [split]
    split
    · simp
    · split <;> simp

theorem not_mem_of_mem_split {sep : Char} {s p : List Char} (h : p ∈ split sep s) : sep ∉ p := by
  induction s generalizing p with
  | nil => simp_all [split]
  | cons c r ih =>
    simp only [split] at h
    split at h
    · rcases List.mem_cons.mp h with rfl | h
      · simp
      · exact ih h
    · rename_i hc
      split at h
      · simp at h; subst h; simpa using fun he => hc he.symm
      · rename_i q qs hq
        rcases List.mem_cons.mp h with rfl | h
        · have := ih (p := q) (by simp [hq])
          simp only [List.mem_cons, not_or]
          exact ⟨fun he => hc he.symm, this⟩
        · exact ih (by simp [hq, h])

def cut (sep : Char) : List Char → Option (List Char × List Char)
  | [] => none
  | c :: r =>
    if c = sep then some ([], r)
    else (cut sep r).map fun (before, after) => (c :: before, after)

private theorem eq_of_cut {sep : Char} {s before after : List Char}
    (h : cut sep s = some (before, after)) : s = before ++ sep :: after := by
  induction s generalizing before with
  | nil => simp [cut] at h
  | cons c r ih =>
    simp only [cut] at h
    split at h
    · simp_all
    · obtain ⟨⟨b, a⟩, hb, he⟩ := Option.map_eq_some_iff.mp h
      simp only [Prod.mk.injEq] at he
      obtain ⟨rfl, rfl⟩ := he
      simp [ih hb]

theorem length_lt_of_cut {sep : Char} {s before after : List Char}
    (h : cut sep s = some (before, after)) : after.length < s.length := by
  rw [eq_of_cut h]
  simp
  omega

def cutLast (sep : Char) (s : List Char) : Option (List Char × List Char) :=
  (cut sep s.reverse).map fun (after, before) => (before.reverse, after.reverse)

/-- The text before and the text after the first occurrence of a non-empty pattern. -/
def cutAt (pattern : List Char) : List Char → Option (List Char × List Char)
  | [] => none
  | c :: r =>
    match pattern.isPrefixOf? (c :: r) with
    | some after => some ([], after)
    | none => (cutAt pattern r).map fun (before, after) => (c :: before, after)

def words (s : List Char) : List (List Char) :=
  let (ws, w) := s.foldr (fun c (ws, w) =>
    if isBlank c then (if w.isEmpty then ws else w :: ws, []) else (ws, c :: w)) ([], [])
  if w.isEmpty then ws else w :: ws

/-- A carriage return right before the line feed belongs to the line end. -/
def dropReturn (line : List Char) : List Char :=
  if line.getLast? = some '\r' then line.dropLast else line

/-- The lines of a text, without their ends `\n` or `\r\n`; a last line needs no end. -/
def lines (s : List Char) : List (List Char) :=
  let ps := split '\n' s
  let ended := ps.dropLast.map dropReturn
  match ps.getLast? with
  | none | some [] => ended
  | some p => ended ++ [p]

def join (sep : List Char) : List (List Char) → List Char
  | [] => []
  | [p] => p
  | p :: q :: ps => p ++ sep ++ join sep (q :: ps)

theorem join_split (sep : Char) (s : List Char) : join [sep] (split sep s) = s := by
  induction s with
  | nil => rfl
  | cons c r ih =>
    simp only [split]
    cases hs : split sep r with
    | nil => exact absurd hs (split_ne_nil sep r)
    | cons p ps =>
      rw [hs] at ih
      split
      · subst_vars
        simp [join]
      · cases ps with
        | nil => simpa [join] using ih
        | cons q qs => simpa [join] using ih

end RunPlan.Text
