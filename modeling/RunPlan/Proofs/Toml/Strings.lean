import RunPlan.Toml.Parser
import RunPlan.Toml.Printer
import Mathlib.Data.List.Infix

/-!
Strings of a TOML document. Main statement: every string is read back from the form in which it is
written, whether that form escapes characters or not and whether it goes over several lines or not.
-/

set_option autoImplicit false

namespace RunPlan.Toml

open RunPlan.Text

variable {fuel : Nat} {q c : Char} {s r done : List Char}

section Escapes

private theorem numbered?_upperHexDigits (h : c.toNat < 0x80) (r : List Char) :
    numbered? 4 (upperHexDigits 4 c.toNat ++ r) = some (c, r) := by
  have hvalue : ∀ n < 0x80, digitsValue? 16 (upperHexDigits 4 n) = some n := by decide
  have hlength : (upperHexDigits 4 c.toNat).length = 4 := rfl
  have hchar : c.toNat.isValidChar := Or.inl (by omega)
  have hback : Char.ofNatAux c.toNat hchar = c := by
    have h := Char.ofNat_toNat c
    rwa [Char.ofNat, dif_pos hchar] at h
  rw [numbered?, if_neg (by simp [hlength]), List.take_left' hlength, List.drop_left' hlength,
    hvalue _ h, Option.bind_some, dif_pos hchar, hback]

private theorem escapeChar_cases (multiline : Bool) (c : Char) :
    (∃ e t, escapeChar multiline c = '\\' :: e :: t ∧ isBlank e = false ∧ e ≠ '\n' ∧ e ≠ '\r' ∧
      ∀ r, escape? (e :: (t ++ r)) = some (c, r)) ∨
    (multiline = true ∧ c = '\n' ∧ escapeChar multiline c = ['\n']) ∨
    (escapeChar multiline c = [c] ∧ c ≠ '"' ∧ c ≠ '\\' ∧ c ≠ '\n' ∧ c ≠ '\r' ∧
      isPlain c = true) := by
  unfold escapeChar
  split
  · subst c
    exact .inl ⟨_, _, rfl, rfl, by decide, by decide, fun _ => rfl⟩
  split
  · subst c
    exact .inl ⟨_, _, rfl, rfl, by decide, by decide, fun _ => rfl⟩
  split
  · subst c
    cases multiline
    · exact .inl ⟨_, _, rfl, rfl, by decide, by decide, fun _ => rfl⟩
    · exact .inr (.inl ⟨rfl, rfl, rfl⟩)
  split
  · subst c
    exact .inl ⟨_, _, rfl, rfl, by decide, by decide, fun _ => rfl⟩
  split
  · subst c
    exact .inl ⟨_, _, rfl, rfl, by decide, by decide, fun _ => rfl⟩
  split
  · subst c
    exact .inl ⟨_, _, rfl, rfl, by decide, by decide, fun _ => rfl⟩
  split
  · subst c
    exact .inl ⟨_, _, rfl, rfl, by decide, by decide, fun _ => rfl⟩
  split
  · next hcontrol =>
    rw [Bool.or_eq_true, decide_eq_true_eq, decide_eq_true_eq] at hcontrol
    have hlow : c.toNat < 0x80 := by omega
    exact .inl ⟨_, _, rfl, rfl, by decide, by decide, numbered?_upperHexDigits hlow⟩
  · next _ _ hline _ hreturn hquote hbackslash hcontrol =>
    rw [Bool.or_eq_true, decide_eq_true_eq, decide_eq_true_eq] at hcontrol
    have hplain : isPlain c = true := by
      have hhigh : 0x20 ≤ c.toNat ∧ c.toNat ≠ 0x7F := by omega
      simp [isPlain, hhigh]
    exact .inr (.inr ⟨rfl, hquote, hbackslash, hline, hreturn, hplain⟩)

theorem lineEnd?_of_ne (hline : c ≠ '\n') (hreturn : c ≠ '\r') (r : List Char) :
    lineEnd? (c :: r) = none := by
  unfold lineEnd?
  split <;> simp_all

private theorem readLine_escapeChar (c : Char) (done r : List Char) :
    readLine '"' (fuel + 1) done (escapeChar false c ++ r) = readLine '"' fuel (c :: done) r := by
  rcases escapeChar_cases false c with ⟨e, t, hc, -, -, -, he⟩ | ⟨h, -⟩ | ⟨hc, hq, hb, -, -, hp⟩
  · rw [hc]
    simp [readLine, he]
  · cases h
  · rw [hc]
    simp [readLine, hq, hb, hp]

private theorem readLines_escapeChar (c : Char) (done r : List Char) :
    readLines '"' (fuel + 1) done (escapeChar true c ++ r) = readLines '"' fuel (c :: done) r := by
  rcases escapeChar_cases true c with
    ⟨e, t, hc, hblank, hline, hreturn, he⟩ | ⟨-, hn, hc⟩ | ⟨hc, hq, hb, hline, hreturn, hp⟩
  · have hcontinued : continued? (e :: (t ++ r)) = none := by
      rw [continued?, skipBlank, List.dropWhile_cons_of_neg (by simp [hblank]),
        lineEnd?_of_ne hline hreturn]
      rfl
    rw [hc]
    simp [readLines, hcontinued, he]
  · rw [hc, hn]
    simp [readLines, lineEnd?]
  · rw [hc]
    simp [readLines, hq, hb, lineEnd?_of_ne hline hreturn, hp]

private theorem readLine_flatMap_escapeChar (hfuel : s.length < fuel) (done r : List Char) :
    readLine '"' fuel done (s.flatMap (escapeChar false) ++ '"' :: r) =
      some (String.ofList (done.reverse ++ s), r) := by
  induction s generalizing fuel done with
  | nil =>
    obtain ⟨fuel, rfl⟩ := Nat.exists_eq_add_of_lt hfuel
    simp [readLine]
  | cons c s ih =>
    obtain ⟨fuel, rfl⟩ := Nat.exists_eq_add_of_lt hfuel
    have hrest : s.length < s.length + 1 + fuel := by omega
    rw [List.flatMap_cons, List.append_assoc, List.length_cons, readLine_escapeChar, ih hrest]
    simp

end Escapes

section Closing

private theorem readLines_closing (hr : r.head? ≠ some q) (done : List Char) :
    readLines q (fuel + 1) done (q :: q :: q :: r) = some (String.ofList done.reverse, r) := by
  have hnone : r.takeWhile (· = q) = [] := by
    cases r with
    | nil => rfl
    | cons c r =>
      have hc : c ≠ q := by simpa using hr
      exact List.takeWhile_cons_of_neg (by simpa using hc)
  simp [readLines, hnone]

private theorem readLines_flatMap_escapeChar (hfuel : s.length < fuel) (hr : r.head? ≠ some '"')
    (done : List Char) :
    readLines '"' fuel done (s.flatMap (escapeChar true) ++ '"' :: '"' :: '"' :: r) =
      some (String.ofList (done.reverse ++ s), r) := by
  induction s generalizing fuel done with
  | nil =>
    obtain ⟨fuel, rfl⟩ := Nat.exists_eq_add_of_lt hfuel
    simp [readLines_closing hr]
  | cons c s ih =>
    obtain ⟨fuel, rfl⟩ := Nat.exists_eq_add_of_lt hfuel
    have hrest : s.length < s.length + 1 + fuel := by omega
    rw [List.flatMap_cons, List.append_assoc, List.length_cons, readLines_escapeChar, ih hrest]
    simp

end Closing

section Literals

private def runStep (runs : Nat × Nat) (c : Char) : Nat × Nat :=
  if c = '\'' then (max runs.1 (runs.2 + 1), runs.2 + 1) else (runs.1, 0)

private theorem quoteRun_eq (s : List Char) : quoteRun s = (s.foldl runStep (0, 0)).1 := rfl

private theorem le_foldl_runStep (s : List Char) (runs : Nat × Nat) :
    runs.1 ≤ (s.foldl runStep runs).1 := by
  induction s generalizing runs with
  | nil => exact Nat.le_refl _
  | cons c s ih =>
    refine Nat.le_trans ?_ (ih (runStep runs c))
    unfold runStep
    split
    · exact Nat.le_max_left _ _
    · exact Nat.le_refl _

private theorem three_le_quoteRun (h : ['\'', '\'', '\''] <:+: s) : 3 ≤ quoteRun s := by
  obtain ⟨before, after, rfl⟩ := h
  rw [quoteRun_eq, List.foldl_append, List.foldl_append]
  refine Nat.le_trans ?_ (le_foldl_runStep after _)
  simp only [List.foldl_cons, List.foldl_nil, runStep, if_true]
  omega

private theorem readLine_literal (hfuel : s.length < fuel) (hplain : ∀ c ∈ s, isPlain c = true)
    (hquote : '\'' ∉ s) (done r : List Char) :
    readLine '\'' fuel done (s ++ '\'' :: r) = some (String.ofList (done.reverse ++ s), r) := by
  induction s generalizing fuel done with
  | nil =>
    obtain ⟨fuel, rfl⟩ := Nat.exists_eq_add_of_lt hfuel
    simp [readLine]
  | cons c s ih =>
    obtain ⟨fuel, rfl⟩ := Nat.exists_eq_add_of_lt hfuel
    rw [List.mem_cons, not_or] at hquote
    obtain ⟨hc, hs⟩ := List.forall_mem_cons.mp hplain
    have hne : c ≠ '\'' := fun he => hquote.1 he.symm
    have hrest : s.length < s.length + 1 + fuel := by omega
    simp [readLine, hne, hc, ih hrest hs hquote.2]

private theorem length_takeWhile_quote_lt (hrun : ¬ [q, q, q] <:+: q :: s)
    (hlast : (q :: s).getLast? ≠ some q) (r : List Char) :
    ((s ++ r).takeWhile (· = q)).length < 2 := by
  cases s with
  | nil => exact absurd rfl hlast
  | cons c s =>
    by_cases hc : c = q
    · subst hc
      cases s with
      | nil => exact absurd rfl hlast
      | cons c' s =>
        have hne : c' ≠ c := by
          rintro rfl
          exact hrun ⟨[], s, rfl⟩
        simp [hne]
    · simp [hc]

private theorem readLines_literal (hfuel : s.length < fuel)
    (hplain : ∀ c ∈ s, isPlain c = true ∨ c = '\n') (hrun : ¬ ['\'', '\'', '\''] <:+: s)
    (hlast : s.getLast? ≠ some '\'') (hr : r.head? ≠ some '\'') (done : List Char) :
    readLines '\'' fuel done (s ++ '\'' :: '\'' :: '\'' :: r) =
      some (String.ofList (done.reverse ++ s), r) := by
  induction s generalizing fuel done with
  | nil =>
    obtain ⟨fuel, rfl⟩ := Nat.exists_eq_add_of_lt hfuel
    simp [readLines_closing hr]
  | cons c s ih =>
    obtain ⟨fuel, rfl⟩ := Nat.exists_eq_add_of_lt hfuel
    obtain ⟨hc, hs⟩ := List.forall_mem_cons.mp hplain
    have hrest : s.length < s.length + 1 + fuel := by omega
    have hrun' : ¬ ['\'', '\'', '\''] <:+: s := fun h => hrun (List.infix_cons h)
    have hlast' : s.getLast? ≠ some '\'' := by
      cases s with
      | nil => nofun
      | cons d s => exact hlast
    have hstep : readLines '\'' (s.length + 1 + fuel + 1) done
        (c :: (s ++ '\'' :: '\'' :: '\'' :: r)) =
        readLines '\'' (s.length + 1 + fuel) (c :: done) (s ++ '\'' :: '\'' :: '\'' :: r) := by
      by_cases hquote : c = '\''
      · subst hquote
        have hshort := length_takeWhile_quote_lt hrun hlast ('\'' :: '\'' :: '\'' :: r)
        have hcount : 1 + ((s ++ '\'' :: '\'' :: '\'' :: r).takeWhile (· = '\'')).length < 3 := by
          omega
        simp [readLines, hcount]
      · by_cases hline : c = '\n'
        · simp [readLines, hline, lineEnd?]
        · have hchar : isPlain c = true := hc.resolve_right hline
          have hreturn : c ≠ '\r' := by
            rintro rfl
            cases hchar
          simp [readLines, hquote, lineEnd?_of_ne hline hreturn, hchar]
    rw [List.cons_append, List.length_cons, hstep, ih hrest hs hrun' hlast']
    simp

end Literals

section Written

private theorem readString_eq_readLine (h : ¬ [q, q] <+: s) :
    readString q (q :: s) = readLine q (s.length + 2) [] s := by
  unfold readString
  split
  · next a b c r hs =>
    obtain ⟨rfl, rfl⟩ := List.cons.inj hs
    have hne : ¬ (b = q ∧ c = q) := by
      rintro ⟨rfl, rfl⟩
      exact h ⟨r, rfl⟩
    simp [hne]
  · next a r _ hs =>
    obtain ⟨rfl, rfl⟩ := List.cons.inj hs
    simp
  · next hs => cases hs

private theorem readString_eq_readLines (q : Char) (r : List Char) :
    readString q (q :: q :: q :: r) = readLines q (r.length + 1) [] ((lineEnd? r).getD r) := by
  simp [readString]

private theorem length_le_flatMap_escapeChar (multiline : Bool) (s : List Char) :
    s.length ≤ (s.flatMap (escapeChar multiline)).length := by
  induction s with
  | nil => exact Nat.le_refl _
  | cons c s ih =>
    have hc : 1 ≤ (escapeChar multiline c).length := by
      rcases escapeChar_cases multiline c with ⟨e, t, hc, -⟩ | ⟨-, -, hc⟩ | ⟨hc, -⟩ <;> simp [hc]
    rw [List.flatMap_cons, List.length_append, List.length_cons]
    omega

private theorem not_prefix_flatMap_escapeChar (multiline : Bool) (s r : List Char)
    (hr : r.head? ≠ some '"') :
    ¬ ['"', '"'] <+: s.flatMap (escapeChar multiline) ++ '"' :: r := by
  rintro ⟨t, ht⟩
  cases s with
  | nil =>
    have hr' : r = '"' :: t := (List.cons.inj ht).2.symm
    exact hr (by rw [hr']; rfl)
  | cons c s =>
    rw [List.flatMap_cons, List.append_assoc] at ht
    rcases escapeChar_cases multiline c with ⟨e, t, hc, -⟩ | ⟨-, -, hc⟩ | ⟨hc, hne, -⟩
    · rw [hc] at ht
      cases (List.cons.inj ht).1
    · rw [hc] at ht
      cases (List.cons.inj ht).1
    · rw [hc] at ht
      exact hne (List.cons.inj ht).1.symm

private theorem isPlain_or_of_not_needsEscape (h : needsEscape c = false) :
    isPlain c = true ∨ c = '\n' := by
  by_cases hline : c = '\n'
  · exact .inr hline
  · by_cases htab : c = '\t'
    · exact .inl (by rw [htab]; rfl)
    · refine .inl ?_
      simp only [needsEscape, ne_eq, htab, not_false_eq_true, decide_true, Bool.and_true, hline,
        Bool.or_eq_false_iff, decide_eq_false_iff_not] at h
      simp only [isPlain, htab, decide_false, Bool.false_or, Bool.and_eq_true, decide_eq_true_eq,
        ne_eq]
      omega

/-- A text that is written as it stands. -/
private structure Literal (s : List Char) : Prop where
  ne_nil : s ≠ []
  plain : ∀ c ∈ s, isPlain c = true ∨ c = '\n'
  run : ¬ ['\'', '\'', '\''] <:+: s
  last : s.getLast? ≠ some '\''

private theorem literal_of_isLiteral (h : isLiteral s = true) : Literal s := by
  simp only [isLiteral, Bool.and_eq_true, Bool.not_eq_true', List.any_eq_false,
    decide_eq_true_eq] at h
  obtain ⟨⟨⟨hany, hescape⟩, hrun⟩, hlast⟩ := h
  refine ⟨?_, fun c hc => ?_, fun hinfix => ?_, hlast⟩
  · rintro rfl
    cases hany
  · exact isPlain_or_of_not_needsEscape (Bool.eq_false_iff.mpr (hescape c hc))
  · have hthree := three_le_quoteRun hinfix
    omega

private theorem Literal.readString_lines (h : Literal s) (hr : r.head? ≠ some '\'') :
    readString '\'' ('\'' :: '\'' :: '\'' :: '\n' :: (s ++ '\'' :: '\'' :: '\'' :: r)) =
      some (String.ofList s, r) := by
  rw [readString_eq_readLines]
  refine readLines_literal ?_ h.plain h.run h.last hr []
  simp only [List.length_cons, List.length_append]
  omega

private theorem Literal.readString_quotes (h : Literal s) (hline : '\n' ∉ s)
    (hr : r.head? ≠ some '\'') :
    readString '\'' ('\'' :: '\'' :: '\'' :: (s ++ '\'' :: '\'' :: '\'' :: r)) =
      some (String.ofList s, r) := by
  have hstart : lineEnd? (s ++ '\'' :: '\'' :: '\'' :: r) = none := by
    cases s with
    | nil => exact absurd rfl h.ne_nil
    | cons c s =>
      have hne : c ≠ '\n' := fun he => hline (he ▸ List.mem_cons_self)
      have hreturn : c ≠ '\r' := by
        rintro rfl
        rcases h.plain '\r' List.mem_cons_self with hc | hc
        · cases hc
        · cases hc
      exact lineEnd?_of_ne hne hreturn _
  rw [readString_eq_readLines, hstart]
  refine readLines_literal ?_ h.plain h.run h.last hr []
  simp only [List.length_cons, List.length_append]
  omega

private theorem Literal.readString_line (h : Literal s) (hline : '\n' ∉ s) (hquote : '\'' ∉ s)
    (r : List Char) :
    readString '\'' ('\'' :: (s ++ '\'' :: r)) = some (String.ofList s, r) := by
  have hplain : ∀ c ∈ s, isPlain c = true := by
    intro c hc
    refine (h.plain c hc).resolve_right ?_
    rintro rfl
    exact hline hc
  have hsingle : ¬ ['\'', '\''] <+: s ++ '\'' :: r := by
    rintro ⟨t, ht⟩
    cases s with
    | nil => exact h.ne_nil rfl
    | cons c s => exact hquote ((List.cons.inj ht).1 ▸ List.mem_cons_self)
  rw [readString_eq_readLine hsingle]
  refine readLine_literal ?_ hplain hquote [] r
  simp only [List.length_cons, List.length_append]
  omega

private theorem readString_escaped_lines (s : List Char) (hr : r.head? ≠ some '"') :
    readString '"' ('"' :: '"' :: '"' :: '\n' ::
      (s.flatMap (escapeChar true) ++ '"' :: '"' :: '"' :: r)) = some (String.ofList s, r) := by
  rw [readString_eq_readLines]
  refine readLines_flatMap_escapeChar ?_ hr []
  have hlength := length_le_flatMap_escapeChar true s
  simp only [List.length_cons, List.length_append]
  omega

private theorem readString_escaped_line (s : List Char) (hr : r.head? ≠ some '"') :
    readString '"' ('"' :: (s.flatMap (escapeChar false) ++ '"' :: r)) =
      some (String.ofList s, r) := by
  rw [readString_eq_readLine (not_prefix_flatMap_escapeChar false s r hr)]
  refine readLine_flatMap_escapeChar ?_ [] r
  have hlength := length_le_flatMap_escapeChar false s
  simp only [List.length_cons, List.length_append]
  omega

theorem readString_stringChars (s : List Char) (hdouble : r.head? ≠ some '"')
    (hsingle : r.head? ≠ some '\'') :
    ∃ q t, (q = '"' ∨ q = '\'') ∧ stringChars s = q :: t ∧
      readString q (q :: (t ++ r)) = some (String.ofList s, r) := by
  by_cases hliteral : isLiteral s = true
  · have hs := literal_of_isLiteral hliteral
    by_cases hline : s.contains '\n' = true
    · have hform : stringChars s =
          '\'' :: '\'' :: '\'' :: '\n' :: (s ++ ['\'', '\'', '\'']) := by
        simp only [stringChars, hliteral, hline, if_true, Bool.true_or, List.replicate]
        simp
      exact ⟨_, _, .inr rfl, hform, by simpa using hs.readString_lines hsingle⟩
    · have hnone : '\n' ∉ s := by simpa using hline
      by_cases hquote : s.contains '\'' = true
      · have hform : stringChars s = '\'' :: '\'' :: '\'' :: (s ++ ['\'', '\'', '\'']) := by
          simp only [stringChars, hliteral, hline, hquote, if_true, Bool.or_true, List.replicate]
          simp
        exact ⟨_, _, .inr rfl, hform, by simpa using hs.readString_quotes hnone hsingle⟩
      · have hform : stringChars s = '\'' :: (s ++ ['\'']) := by
          simp only [stringChars, hliteral, hline, hquote, if_true]
          simp
        have hplain : '\'' ∉ s := by simpa using hquote
        exact ⟨_, _, .inr rfl, hform, by simpa using hs.readString_line hnone hplain r⟩
  · by_cases hline : s.contains '\n' = true
    · have hform : stringChars s =
          '"' :: '"' :: '"' :: '\n' :: (s.flatMap (escapeChar true) ++ ['"', '"', '"']) := by
        simp only [stringChars, hliteral, hline, if_true, List.replicate]
        simp
      exact ⟨_, _, .inl rfl, hform, by simpa using readString_escaped_lines s hdouble⟩
    · have hform : stringChars s = '"' :: (s.flatMap (escapeChar false) ++ ['"']) := by
        simp only [stringChars, hliteral, hline]
        simp
      exact ⟨_, _, .inl rfl, hform, by simpa using readString_escaped_line s hdouble⟩

end Written

end RunPlan.Toml
