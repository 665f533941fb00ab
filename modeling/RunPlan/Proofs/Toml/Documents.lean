import RunPlan.Proofs.Toml.Values

/-!
Documents of lines that each give a key its value. Main statements: such lines, with or without a
table behind them, are read as the entries that they write, in the same order.
-/

set_option autoImplicit false

namespace RunPlan.Toml

open RunPlan.Text

/-- A key that needs no quotes. -/
structure IsBare (key : String) : Prop where
  ne_nil : key.toList ≠ []
  isKeyChar : ∀ c ∈ key.toList, isKeyChar c = true

/-- A line of a document: a bare key, and a text for its value. -/
structure Line where
  key : String
  text : String
  value : Toml
  isBare : IsBare key
  writes : Writes text.toList value

namespace Line

variable (l : Line)

def written : String := assignment l.key l.text

def entry : String × Toml := (l.key, l.value)

def item : String × Item := (l.key, .value l.value)

private theorem toList_written :
    l.written.toList = l.key.toList ++ ' ' :: '=' :: ' ' :: (l.text.toList ++ ['\n']) := by
  simp [written, assignment]

end Line

def linesText (lines : List Line) : String := String.join (lines.map Line.written)

@[simp] theorem linesText_nil : linesText [] = "" := rfl

theorem linesText_cons (l : Line) (lines : List Line) :
    linesText (l :: lines) = l.written ++ linesText lines := by
  simp [linesText]

section Keys

variable {key : String} {r : List Char} {fuel : Nat}

private theorem IsBare.exists_head (h : IsBare key) :
    ∃ c s, key.toList = c :: s ∧ isBlank c = false ∧
      c ∉ ['"', '\'', '#', '[', '\n', '\r', '\uFEFF'] := by
  obtain ⟨c, s, hs⟩ := List.exists_cons_of_ne_nil h.ne_nil
  have hc : Toml.isKeyChar c = true := h.isKeyChar c (hs ▸ List.mem_cons_self)
  refine ⟨c, s, hs, ?_, fun hmem => ?_⟩
  · by_contra hblank
    simp only [isBlank, Bool.not_eq_false, Bool.or_eq_true, decide_eq_true_eq] at hblank
    rcases hblank with rfl | rfl <;> cases hc
  · simp only [List.mem_cons, List.not_mem_nil, or_false] at hmem
    rcases hmem with rfl | rfl | rfl | rfl | rfl | rfl | rfl <;> cases hc

private theorem skipBlank_cons {c : Char} (hc : isBlank c = false) (s : List Char) :
    skipBlank (c :: s) = c :: s :=
  List.dropWhile_cons_of_neg (by simp [hc])

private theorem readKey_bare (h : IsBare key) {c : Char} (hc : isKeyChar c = false)
    (hr : (skipBlank (c :: r)).head? ≠ some '.') :
    readKey (fuel + 1) (key.toList ++ c :: r) = some ([key], skipBlank (c :: r)) := by
  obtain ⟨d, s, hs, hblank, hnot⟩ := h.exists_head
  have hquotes : d ≠ '"' ∧ d ≠ '\'' := by
    refine ⟨?_, ?_⟩ <;> (rintro rfl; exact hnot (by decide))
  have htake : (key.toList ++ c :: r).takeWhile isKeyChar = key.toList := by
    rw [List.takeWhile_append_of_pos h.isKeyChar, List.takeWhile_cons_of_neg (by simp [hc]),
      List.append_nil]
  have hpart : readKeyPart (key.toList ++ c :: r) = some (key, c :: r) := by
    unfold readKeyPart
    split
    · next heq =>
      rw [hs] at heq
      exact absurd (List.cons.inj heq).1 hquotes.1
    · next heq =>
      rw [hs] at heq
      exact absurd (List.cons.inj heq).1 hquotes.2
    · simp [htake, h.ne_nil]
  have hskip : skipBlank (key.toList ++ c :: r) = key.toList ++ c :: r := by
    rw [hs]
    exact skipBlank_cons hblank _
  rw [readKey, hskip, hpart]
  cases hrest : skipBlank (c :: r) with
  | nil => simp [hrest]
  | cons e t =>
    have hdot : e ≠ '.' := by
      rintro rfl
      exact hr (by rw [hrest]; rfl)
    simp [hrest, hdot]

end Keys

section Lines

variable {l : Line} {lines : List Line} {reading : Reading} {rest : List Char} {fuel : Nat}

private theorem readAssigned_line (l : Line) (rest : List Char) :
    readAssigned (l.written.toList ++ rest) =
      some ([], l.key, l.text.toList ++ '\n' :: rest) := by
  have hequals : skipBlank (' ' :: '=' :: ' ' :: (l.text.toList ++ '\n' :: rest)) =
      '=' :: ' ' :: (l.text.toList ++ '\n' :: rest) := rfl
  have hform : l.written.toList ++ rest =
      l.key.toList ++ ' ' :: '=' :: ' ' :: (l.text.toList ++ '\n' :: rest) := by
    rw [l.toList_written]
    simp
  have hspace : ∀ s, skipBlank (' ' :: s) = skipBlank s := fun s => rfl
  rw [readAssigned, hform, readKey_bare l.isBare rfl (by rw [hequals]; simp), hequals]
  simp [behind?, hspace, l.writes.visible]

private theorem readDocument_line (l : Line) (rest : List Char)
    (hnew : l.key ∉ reading.current.map Prod.fst) :
    readDocument (fuel + 1) reading (l.written.toList ++ rest) =
      readDocument fuel { reading with current := reading.current ++ [l.item] } rest := by
  obtain ⟨c, s, hs, hblank, hnot⟩ := l.isBare.exists_head
  have hassigned := readAssigned_line l rest
  have hread := l.writes.read ((l.text.toList ++ '\n' :: rest).length + 1) rest
    (by rw [List.length_append]; omega)
  simp only [List.length_append, List.length_cons] at hread
  have hnone : Entries.find? reading.current l.key = none :=
    RunPlan.Entries.find?_eq_none_iff.mpr hnew
  have hset : reading.set [] l.key l.value =
      some { reading with current := reading.current ++ [l.item] } := by
    simp [Reading.set, Entries.set, Entries.within, Entries.add, hnone, Line.item]
  have hend : readLineEnd ('\n' :: rest) = some rest := rfl
  obtain ⟨t, ht⟩ : ∃ t, l.written.toList ++ rest = c :: t := by
    rw [l.toList_written, hs]
    exact ⟨_, rfl⟩
  rw [ht] at hassigned ⊢
  simp only [List.mem_cons, List.not_mem_nil, or_false, not_or] at hnot
  obtain ⟨-, -, hcomment, hheader, hline, hreturn, -⟩ := hnot
  rw [readDocument, skipBlank_cons hblank]
  simp [hcomment, hheader, lineEnd?_of_ne hline hreturn, hassigned, hread, hend, hset]

private theorem readDocument_lines (fuel : Nat) (reading : Reading) (lines : List Line)
    (rest : List Char)
    (hnodup : (lines.map Line.key).Nodup)
    (hnew : ∀ l ∈ lines, l.key ∉ reading.current.map Prod.fst) :
    readDocument (lines.length + fuel) reading ((linesText lines).toList ++ rest) =
      readDocument fuel { reading with current := reading.current ++ lines.map Line.item }
        rest := by
  induction lines generalizing reading with
  | nil => simp
  | cons l lines ih =>
    rw [List.map_cons, List.nodup_cons] at hnodup
    obtain ⟨hl, hlines⟩ := List.forall_mem_cons.mp hnew
    have hnext : ∀ l' ∈ lines, l'.key ∉ (reading.current ++ [l.item]).map Prod.fst := by
      intro l' hl'
      have hne : l'.key ≠ l.key := fun h => hnodup.1 (h ▸ List.mem_map_of_mem hl')
      simp only [List.map_append, List.mem_append, not_or]
      exact ⟨hlines l' hl', by simpa [Line.item] using hne⟩
    rw [List.length_cons, Nat.add_right_comm, linesText_cons, String.toList_append,
      List.append_assoc, readDocument_line l _ hl, ih _ hnodup.2 hnext]
    simp

private theorem valuesOf_map_item (lines : List Line) :
    valuesOf (lines.map Line.item) = lines.map Line.entry := by
  induction lines with
  | nil => rfl
  | cons l lines ih =>
    rw [List.map_cons, List.map_cons, Line.item, valuesOf, ih]
    rfl

private theorem valuesOf_append (es es' : Entries) :
    valuesOf (es ++ es') = valuesOf es ++ valuesOf es' := by
  induction es with
  | nil => rfl
  | cons e es ih =>
    rw [List.cons_append, valuesOf, valuesOf, ih, List.cons_append]

private theorem length_le_linesText (lines : List Line) :
    lines.length ≤ (linesText lines).toList.length := by
  induction lines with
  | nil => exact Nat.le_refl _
  | cons l lines ih =>
    rw [linesText_cons, String.toList_append, List.length_append, List.length_cons,
      l.toList_written, List.length_append, List.length_cons]
    omega

private theorem parse?_eq {text : String} (h : text.toList.head? ≠ some '\uFEFF') :
    parse? text = (readDocument (text.toList.length + 1) .start text.toList).map valuesOf := by
  unfold parse?
  cases htext : text.toList with
  | nil => rfl
  | cons c r =>
    have hc : c ≠ '\uFEFF' := by
      rintro rfl
      exact h (by rw [htext]; rfl)
    simp [hc]

private theorem head?_linesText (lines : List Line) {rest : List Char}
    (hrest : rest.head? ≠ some '\uFEFF') :
    ((linesText lines).toList ++ rest).head? ≠ some '\uFEFF' := by
  cases lines with
  | nil => exact hrest
  | cons l lines =>
    obtain ⟨c, s, hs, -, hnot⟩ := l.isBare.exists_head
    rw [linesText_cons, String.toList_append, l.toList_written, hs]
    rintro hc
    obtain rfl : c = '\uFEFF' := Option.some.inj hc
    exact hnot (by decide)

theorem parse?_linesText (hnodup : (lines.map Line.key).Nodup) :
    parse? (linesText lines) = some (lines.map Line.entry) := by
  have hhead : ((linesText lines).toList ++ []).head? ≠ some '\uFEFF' :=
    head?_linesText lines (by nofun)
  obtain ⟨fuel, hfuel⟩ := Nat.exists_eq_add_of_le (length_le_linesText lines)
  have hread := readDocument_lines (fuel + 1) .start lines [] hnodup
    (by simp [Reading.start])
  rw [List.append_nil] at hhead hread
  rw [parse?_eq hhead, hfuel, Nat.add_assoc, hread, ← valuesOf_map_item]
  rfl

end Lines

section Tables

variable {lines inner : List Line} {name : String} {rest : List Char} {fuel : Nat}

def header (name : String) : String := "\n[" ++ name ++ "]\n"

private theorem readDocument_header (hbare : IsBare name) {es : Entries}
    (hname : name ∉ es.map Prod.fst) (rest : List Char) :
    readDocument (fuel + 2) ⟨[], [], false, es⟩ ((header name).toList ++ rest) =
      readDocument fuel ⟨es, [name], false, []⟩ rest := by
  have hform : (header name).toList ++ rest =
      '\n' :: '[' :: (name.toList ++ ']' :: '\n' :: rest) := by
    simp [header]
  have hnone : Entries.find? es name = none := RunPlan.Entries.find?_eq_none_iff.mpr hname
  have hopen : Reading.openTable ⟨[], [], false, es⟩ [name] = some ⟨es, [name], false, []⟩ := by
    simp [Reading.openTable, Reading.close, Entries.within, Reading.openTable.itemAt?, hnone]
  have hkey : readKey ((name.toList ++ ']' :: '\n' :: rest).length + 1)
      (name.toList ++ ']' :: '\n' :: rest) = some ([name], ']' :: '\n' :: rest) :=
    readKey_bare hbare rfl (by simp [skipBlank, isBlank])
  have hline : readDocument (fuel + 2) ⟨[], [], false, es⟩
      ('\n' :: '[' :: (name.toList ++ ']' :: '\n' :: rest)) =
      readDocument (fuel + 1) ⟨[], [], false, es⟩
        ('[' :: (name.toList ++ ']' :: '\n' :: rest)) := rfl
  have hend : readLineEnd ('\n' :: rest) = some rest := rfl
  obtain ⟨c, s, hs, hblank, hnot⟩ := hbare.exists_head
  have hsecond : c ≠ '[' := by
    rintro rfl
    exact hnot (by decide)
  obtain ⟨t, ht⟩ : ∃ t, name.toList ++ ']' :: '\n' :: rest = c :: t := ⟨_, by rw [hs]; rfl⟩
  rw [hform, hline, readDocument, skipBlank_cons rfl]
  rw [ht] at hkey ⊢
  rw [List.length_cons] at hkey
  simp [hsecond, hkey, behind?, hend, hopen]

theorem parse?_linesText_table (hbare : IsBare name) (hnodup : (lines.map Line.key).Nodup)
    (hname : name ∉ lines.map Line.key) (hinner : (inner.map Line.key).Nodup) :
    parse? (linesText lines ++ header name ++ linesText inner) =
      some (lines.map Line.entry ++ [(name, .table (inner.map Line.entry))]) := by
  have hhead : ((linesText lines).toList ++
      ((header name).toList ++ (linesText inner).toList)).head? ≠ some '\uFEFF' :=
    head?_linesText lines (by simp [header])
  have htext : (linesText lines ++ header name ++ linesText inner).toList =
      (linesText lines).toList ++ ((header name).toList ++ (linesText inner).toList) := by
    simp
  have hkeys : name ∉ (lines.map Line.item).map Prod.fst := by
    simpa [Line.item] using hname
  have hlength := length_le_linesText lines
  have hlength' := length_le_linesText inner
  have hheader : 2 ≤ (header name).toList.length := by
    simp only [header, String.toList_append, List.length_append]
    have hopen : "\n[".toList.length = 2 := rfl
    omega
  have henough : lines.length + (inner.length + 1 + 2) ≤
      ((linesText lines).toList ++
        ((header name).toList ++ (linesText inner).toList)).length + 1 := by
    rw [List.length_append, List.length_append]
    omega
  obtain ⟨fuel, hextra⟩ := Nat.exists_eq_add_of_le henough
  have hfuel := hextra.trans (show _ = lines.length + (inner.length + (fuel + 1) + 2) by omega)
  have hlines := readDocument_lines (inner.length + (fuel + 1) + 2) .start lines
    ((header name).toList ++ (linesText inner).toList) hnodup (by simp [Reading.start])
  have hinside := readDocument_lines (fuel + 1) ⟨lines.map Line.item, [name], false, []⟩ inner []
    hinner (by simp)
  have hclose : Reading.close ⟨lines.map Line.item, [name], false, [] ++ inner.map Line.item⟩ =
      some (lines.map Line.item ++ [(name, .table .declared (inner.map Line.item))]) := by
    have hnone : Entries.find? (lines.map Line.item) name = none :=
      RunPlan.Entries.find?_eq_none_iff.mpr hkeys
    simp [Reading.close, Entries.within, hnone]
  have hend : ∀ reading, readDocument (fuel + 1) reading [] = reading.close := fun _ => rfl
  rw [List.append_nil] at hinside
  rw [parse?_eq (htext ▸ hhead), htext, hfuel, hlines]
  simp only [Reading.start, List.nil_append]
  rw [readDocument_header hbare hkeys, hinside, hend, hclose, Option.map_some, valuesOf_append,
    valuesOf_map_item, valuesOf, Item.toValue, valuesOf_map_item, valuesOf]

end Tables

end RunPlan.Toml
