import RunPlan.Proofs.Text.Digits
import RunPlan.Proofs.Toml.Strings

/-!
Values of a TOML document as they are written. Main statements: strings, lists of strings, truth
values and natural numbers up to the largest integer are read back at the end of a line.
-/

set_option autoImplicit false

namespace RunPlan.Toml

open RunPlan.Text

/-- A text that at the end of a line is read as a value, whatever follows. -/
structure Writes (text : List Char) (v : Toml) : Prop where
  visible : ∀ r, skipBlank (text ++ r) = text ++ r
  read : ∀ fuel r, text.length < fuel →
    readValue fuel maxDepth (text ++ '\n' :: r) = some (v, '\n' :: r)

section Integers

variable {c d : Char} {ds r rest : List Char} {n : Nat}

private theorem takeNumber_rest {width lo hi : Nat} (hds : ∀ d ∈ ds, d.isDigit = true)
    (h : takeNumber width lo hi (ds ++ '\n' :: r) = some (n, rest)) :
    ∃ c, rest.head? = some c ∧ (c.isDigit = true ∨ c = '\n') := by
  simp only [takeNumber] at h
  split at h
  · next hwidth =>
    rw [Bool.and_eq_true, decide_eq_true_eq] at hwidth
    obtain ⟨-, hall⟩ := hwidth
    obtain ⟨_, -, hrest⟩ := Option.map_eq_some_iff.mp h
    obtain rfl : (ds ++ '\n' :: r).drop width = rest := congrArg Prod.snd hrest
    have hle : width ≤ ds.length := by
      by_contra hlt
      obtain ⟨more, rfl⟩ := Nat.exists_eq_add_of_lt (Nat.lt_of_not_le hlt)
      have hend : '\n' ∈ (ds ++ '\n' :: r).take (ds.length + more + 1) := by
        rw [Nat.add_assoc, List.take_length_add_append, List.take_succ_cons]
        exact List.mem_append_right _ List.mem_cons_self
      cases List.all_eq_true.mp hall '\n' hend
    rw [List.drop_append_of_le_length hle]
    cases hdrop : ds.drop width with
    | nil => exact ⟨_, rfl, .inr rfl⟩
    | cons d more =>
      have hd : d ∈ ds := List.mem_of_mem_drop (hdrop ▸ List.mem_cons_self)
      exact ⟨_, rfl, .inl (hds d hd)⟩
  · cases h

private theorem behind?_rest (hc : c.isDigit = false) (hline : c ≠ '\n')
    (h : ∃ d, rest.head? = some d ∧ (d.isDigit = true ∨ d = '\n')) : behind? c rest = none := by
  obtain ⟨d, hd, hdigit⟩ := h
  obtain ⟨more, rfl⟩ := List.head?_eq_some_iff.mp hd
  have hne : d ≠ c := by
    rintro rfl
    rcases hdigit with hdigit | hdigit
    · exact Bool.noConfusion (hdigit.symm.trans hc)
    · exact hline hdigit
  exact if_neg hne

private theorem readDatetime_digits (hds : ∀ d ∈ ds, d.isDigit = true) (r : List Char) :
    readDatetime (ds ++ '\n' :: r) = none := by
  have hdate : takeDate (ds ++ '\n' :: r) = none := by
    unfold takeDate
    cases hyear : takeNumber 4 0 9999 (ds ++ '\n' :: r) with
    | none => rfl
    | some year =>
      have hnone : behind? '-' year.2 = none :=
        behind?_rest rfl (by decide) (takeNumber_rest hds hyear)
      simp [hnone]
  have htime : takeTime (ds ++ '\n' :: r) = none := by
    unfold takeTime
    cases hhour : takeNumber 2 0 23 (ds ++ '\n' :: r) with
    | none => rfl
    | some hour =>
      have hnone : behind? ':' hour.2 = none :=
        behind?_rest rfl (by decide) (takeNumber_rest hds hhour)
      simp [hnone]
  rw [readDatetime, hdate, htime]
  rfl

private theorem takeDigits_go_digits (hds : ∀ d ∈ ds, d.isDigit = true) (done r : List Char) :
    takeDigits.go 10 done (ds ++ '\n' :: r) = (done.reverse ++ ds, '\n' :: r) := by
  induction ds generalizing done with
  | nil => simp [takeDigits.go, digitValue?, hexValue?]
  | cons d ds ih =>
    obtain ⟨hd, hrest⟩ := List.forall_mem_cons.mp hds
    have hne : d ≠ '_' := by
      rintro rfl
      cases hd
    rw [List.cons_append, takeDigits.go]
    · rw [digitValue?_of_isDigit hd, ih hrest]
      simp
    · exact fun _ _ h => absurd h hne

private theorem takeInteger_toDigits (n : Nat) (r : List Char) :
    takeInteger (Nat.toDigits 10 n ++ '\n' :: r) = some (false, Nat.toDigits 10 n, '\n' :: r) := by
  by_cases hzero : n = 0
  · rw [hzero]
    rfl
  · have hdigits := fun d => isDigit_of_mem_toDigits (n := n) (c := d)
    have hhead := head?_toDigits_ne_zero hzero
    cases hds : Nat.toDigits 10 n with
    | nil => exact absurd hds Nat.toDigits_ne_nil
    | cons d ds =>
      rw [hds] at hdigits hhead
      obtain ⟨hd, hrest⟩ := List.forall_mem_cons.mp hdigits
      have hne : d ≠ '0' ∧ d ≠ '+' ∧ d ≠ '-' := by
        refine ⟨fun h => hhead (h ▸ rfl), ?_, ?_⟩ <;> (rintro rfl; cases hd)
      have htake : takeDigits 10 (d :: (ds ++ '\n' :: r)) = some (d :: ds, '\n' :: r) := by
        simp [takeDigits, digitValue?_of_isDigit hd, takeDigits_go_digits hrest]
      simp [takeInteger, hne, htake]

private theorem readSpecial_digits (hd : d.isDigit = true) (s : List Char) :
    readSpecial (d :: s) = none := by
  have hne : d ≠ '+' ∧ d ≠ '-' ∧ d ≠ 'i' ∧ d ≠ 'n' := by
    refine ⟨?_, ?_, ?_, ?_⟩ <;> (rintro rfl; cases hd)
  simp [readSpecial, hne]

private theorem second_of_digits (hne : ds ≠ []) (hds : ∀ d ∈ ds, d.isDigit = true)
    (h : ds ++ '\n' :: r = d :: c :: rest) : c.isDigit = true ∨ c = '\n' := by
  obtain ⟨e, es, rfl⟩ := List.exists_cons_of_ne_nil hne
  have htail : es ++ '\n' :: r = c :: rest := (List.cons.inj h).2
  cases es with
  | nil => exact .inr (List.cons.inj htail).1.symm
  | cons e' es =>
    obtain rfl : e' = c := (List.cons.inj htail).1
    exact .inl (hds e' (by simp))

private theorem readInteger_toDigits (hn : (n : Int) ≤ maxInteger) (r : List Char) :
    readInteger (Nat.toDigits 10 n ++ '\n' :: r) = some (.integer n, '\n' :: r) := by
  have hrange : minInteger ≤ (n : Int) := by
    unfold minInteger
    omega
  have hsecond : ∀ {d c rest}, Nat.toDigits 10 n ++ '\n' :: r = d :: c :: rest →
      c.isDigit = true ∨ c = '\n' :=
    second_of_digits Nat.toDigits_ne_nil fun _ => isDigit_of_mem_toDigits
  unfold readInteger
  split
  · next hx => rcases hsecond hx with h | h <;> cases h
  · next ho => rcases hsecond ho with h | h <;> cases h
  · next hb => rcases hsecond hb with h | h <;> cases h
  · simp [takeInteger_toDigits, digitsValue?_toDigits, integer?, hrange, hn]

private theorem readScalar_toDigits (hn : (n : Int) ≤ maxInteger) (r : List Char) :
    readScalar (Nat.toDigits 10 n ++ '\n' :: r) = some (.integer n, '\n' :: r) := by
  have hdigits : ∀ d ∈ Nat.toDigits 10 n, d.isDigit = true := fun _ => isDigit_of_mem_toDigits
  have hdatetime := readDatetime_digits hdigits r
  have hdecimal : readDecimal (Nat.toDigits 10 n ++ '\n' :: r) = none := by
    rw [readDecimal, takeInteger_toDigits]
    rfl
  have hinteger := readInteger_toDigits hn r
  obtain ⟨d, ds, hds⟩ := List.exists_cons_of_ne_nil (Nat.toDigits_ne_nil (n := n) (b := 10))
  rw [hds] at hdigits hdatetime hdecimal hinteger ⊢
  have hd : d.isDigit = true := hdigits d List.mem_cons_self
  have hne : d ≠ 't' ∧ d ≠ 'f' := by
    refine ⟨?_, ?_⟩ <;> (rintro rfl; cases hd)
  rw [List.cons_append] at *
  simp [readScalar, hne, hdatetime, hdecimal, readSpecial_digits hd, hinteger]

theorem writes_toString (hn : (n : Int) ≤ maxInteger) :
    Writes (toString n).toList (.integer n) := by
  rw [toList_toString_nat]
  have hdigits : ∀ d ∈ Nat.toDigits 10 n, d.isDigit = true := fun _ => isDigit_of_mem_toDigits
  have hscalar := readScalar_toDigits hn
  obtain ⟨d, ds, hds⟩ := List.exists_cons_of_ne_nil (Nat.toDigits_ne_nil (n := n) (b := 10))
  rw [hds] at hdigits hscalar ⊢
  have hd : d.isDigit = true := hdigits d List.mem_cons_self
  have hne : d ≠ '"' ∧ d ≠ '\'' ∧ d ≠ '[' ∧ d ≠ '\x7b' ∧ d ≠ ' ' ∧ d ≠ '\t' := by
    refine ⟨?_, ?_, ?_, ?_, ?_, ?_⟩ <;> (rintro rfl; cases hd)
  refine ⟨fun r => ?_, fun fuel r hfuel => ?_⟩
  · simp [skipBlank, isBlank, hne]
  · obtain ⟨fuel, rfl⟩ := Nat.exists_eq_add_of_lt hfuel
    simpa [maxDepth, readValue, hne] using hscalar r

end Integers

theorem writes_boolean (b : Bool) :
    Writes (if b then "true" else "false").toList (.boolean b) := by
  refine ⟨fun r => ?_, fun fuel r hfuel => ?_⟩
  · cases b <;> rfl
  · obtain ⟨fuel, rfl⟩ := Nat.exists_eq_add_of_lt hfuel
    cases b <;> rfl

section Lists

variable {s r : List Char} {fuel depth : Nat} {items : List String}

private theorem readValue_stringText (s : String) (hdouble : r.head? ≠ some '"')
    (hsingle : r.head? ≠ some '\'') :
    readValue (fuel + 1) (depth + 1) ((stringText s).toList ++ r) = some (.string s, r) := by
  obtain ⟨q, t, hq, hform, hread⟩ := readString_stringChars s.toList hdouble hsingle
  rw [stringText, String.toList_ofList, hform, List.cons_append]
  rcases hq with rfl | rfl <;> simp [readValue, hread]

theorem writes_stringText (s : String) : Writes (stringText s).toList (.string s) := by
  refine ⟨fun r => ?_, fun fuel r hfuel => ?_⟩
  · obtain ⟨q, t, hq, hform, -⟩ :=
      readString_stringChars (r := []) s.toList (by nofun) (by nofun)
    rw [stringText, String.toList_ofList, hform]
    rcases hq with rfl | rfl <;> rfl
  · obtain ⟨fuel, rfl⟩ := Nat.exists_eq_add_of_lt hfuel
    exact readValue_stringText s (by simp) (by simp)

private theorem skipLines_newline (fuel : Nat) (s : List Char) :
    skipLines (fuel + 1) ('\n' :: s) = skipLines fuel s := rfl

private theorem skipLines_space (fuel : Nat) (s : List Char) :
    skipLines (fuel + 1) (' ' :: s) = skipLines (fuel + 1) s := rfl

private theorem skipLines_cons {c : Char} (hc : c ∈ ['"', '\'', ',', ']']) (fuel : Nat)
    (s : List Char) : skipLines (fuel + 1) (c :: s) = some (c :: s) := by
  simp only [List.mem_cons, List.not_mem_nil, or_false] at hc
  rcases hc with rfl | rfl | rfl | rfl <;> rfl

private def itemLine (item : String) : List Char :=
  "    ".toList ++ (stringText item).toList ++ [',', '\n']

private theorem readItems_item (item : String) {c : Char} (hc : c = ',' ∨ c = ']') (r : List Char) :
    ∃ q t, q ∈ ['"', '\'', ',', ']'] ∧ q ≠ ']' ∧ (stringText item).toList = q :: t ∧
      ∀ fuel depth, readValue (fuel + 1) (depth + 1) (q :: (t ++ c :: r)) =
        some (.string item, c :: r) := by
  have hdouble : (c :: r).head? ≠ some '"' := by rcases hc with rfl | rfl <;> simp
  have hsingle : (c :: r).head? ≠ some '\'' := by rcases hc with rfl | rfl <;> simp
  obtain ⟨q, t, hq, hform, -⟩ := readString_stringChars item.toList hdouble hsingle
  have htext : (stringText item).toList = q :: t := by rw [stringText, String.toList_ofList, hform]
  refine ⟨q, t, ?_, ?_, htext, fun fuel depth => ?_⟩
  · rcases hq with rfl | rfl <;> simp
  · rcases hq with rfl | rfl <;> decide
  · rw [← List.cons_append, ← htext]
    exact readValue_stringText item hdouble hsingle

private theorem readItems_lines (hfuel : items.length < fuel) (r : List Char) :
    readItems fuel (depth + 1) ('\n' :: (items.flatMap itemLine ++ ']' :: r)) =
      some (items.map .string, r) := by
  induction items generalizing fuel with
  | nil =>
    obtain ⟨fuel, rfl⟩ := Nat.exists_eq_add_of_lt hfuel
    rfl
  | cons item items ih =>
    obtain ⟨fuel, rfl⟩ := Nat.exists_eq_add_of_lt hfuel
    obtain ⟨q, t, hq, hne, htext, hread⟩ := readItems_item item (.inl rfl)
      ('\n' :: (items.flatMap itemLine ++ ']' :: r))
    have hline : '\n' :: ((item :: items).flatMap itemLine ++ ']' :: r) =
        '\n' :: ' ' :: ' ' :: ' ' :: ' ' ::
          q :: (t ++ ',' :: '\n' :: (items.flatMap itemLine ++ ']' :: r)) := by
      rw [List.flatMap_cons, itemLine, htext]
      simp
    have hrest : items.length < items.length + 1 + fuel := by omega
    rw [List.length_cons, hline, readItems, List.length_cons, List.length_cons,
      skipLines_newline, skipLines_space, skipLines_space, skipLines_space, skipLines_space,
      skipLines_cons hq]
    have hitem := hread (items.length + fuel) depth
    rw [Nat.add_right_comm] at hitem
    have hcomma := skipLines_cons (c := ',') (by decide)
    simp [hne, hitem, hcomma, ih hrest]

private theorem readItems_singleton (item : String) (r : List Char) :
    readItems (fuel + 2) (depth + 1) ((stringText item).toList ++ ']' :: r) =
      some ([.string item], r) := by
  obtain ⟨q, t, hq, hne, htext, hread⟩ := readItems_item item (.inr rfl) r
  have hclose := skipLines_cons (c := ']') (by decide)
  rw [htext, List.cons_append, readItems, List.length_cons, skipLines_cons hq]
  simp [hne, hread fuel depth, hclose]

private theorem toList_stringsText_lines (h : 2 ≤ items.length) :
    (stringsText items).toList = '[' :: '\n' :: (items.flatMap itemLine ++ [']']) := by
  have hlines : (String.join (items.map fun i => "    " ++ stringText i ++ ",\n")).toList =
      items.flatMap itemLine := by
    rw [String.toList_join, List.flatMap_map]
    congr 1
    funext item
    simp [itemLine]
  unfold stringsText
  split
  · cases h
  · exact absurd h (by simp)
  · simp [hlines]

private theorem length_le_itemLines (items : List String) :
    items.length ≤ (items.flatMap itemLine).length := by
  induction items with
  | nil => exact Nat.le_refl _
  | cons item items ih =>
    simp only [List.flatMap_cons, List.length_append, List.length_cons, itemLine]
    omega

private theorem exists_readItems_stringsText (items : List String) :
    ∃ body, (stringsText items).toList = '[' :: body ∧ ∀ fuel depth r, body.length < fuel →
      readItems fuel (depth + 1) (body ++ r) = some (items.map .string, r) := by
  by_cases hlines : 2 ≤ items.length
  · refine ⟨_, toList_stringsText_lines hlines, fun fuel depth r hfuel => ?_⟩
    have hcount := length_le_itemLines items
    simp only [List.length_cons, List.length_append, List.length_nil] at hfuel
    rw [List.cons_append, List.append_assoc, List.singleton_append]
    exact readItems_lines (by omega) r
  · match items with
    | [] =>
      refine ⟨[']'], rfl, fun fuel depth r hfuel => ?_⟩
      obtain ⟨fuel, rfl⟩ := Nat.exists_eq_add_of_lt hfuel
      rfl
    | [item] =>
      refine ⟨(stringText item).toList ++ [']'], by simp [stringsText], ?_⟩
      intro fuel depth r hfuel
      rw [List.length_append, List.length_singleton] at hfuel
      obtain ⟨fuel, rfl⟩ := Nat.exists_eq_add_of_le (show 2 ≤ fuel by omega)
      rw [List.append_assoc, List.singleton_append, Nat.add_comm]
      exact readItems_singleton item r
    | _ :: _ :: _ => exact absurd (by simp) hlines

theorem writes_stringsText (items : List String) :
    Writes (stringsText items).toList (.array (items.map .string)) := by
  obtain ⟨body, hform, hread⟩ := exists_readItems_stringsText items
  rw [hform]
  refine ⟨fun r => rfl, fun fuel r hfuel => ?_⟩
  obtain ⟨fuel, rfl⟩ := Nat.exists_eq_add_of_lt hfuel
  have hbody := hread (body.length + 1 + fuel) 78 ('\n' :: r) (by omega)
  rw [List.cons_append, List.length_cons, maxDepth]
  simp [readValue, hbody]

end Lists

end RunPlan.Toml
