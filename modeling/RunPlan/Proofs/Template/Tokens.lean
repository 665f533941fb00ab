import RunPlan.Template.Token
import RunPlan.Proofs.Outcome
import RunPlan.Proofs.Text.Cutting

/-!
Tokens of texts that stand one after the other. Main statements: what a marker opens is read up to
the first terminator, whatever follows it; and the tokens of two texts together are those of the one
and those of the other, with the texts that meet made one, unless a marker begins in the first text
and ends in the second.
-/

set_option autoImplicit false

namespace RunPlan.Template

open RunPlan.Text

private theorem Marker.at?_eq_some_iff {s rest : List Char} {m : Marker} :
    Marker.at? s = some (m, rest) ↔ s = m.opening ++ rest := by
  constructor
  · intro h
    simp only [Marker.at?, List.findSome?_eq_some_iff, Option.map_eq_some_iff, Prod.mk.injEq,
      List.isPrefixOf?_eq_some_iff_append_eq] at h
    obtain ⟨_, _, _, _, ⟨_, rfl, rfl, rfl⟩, _⟩ := h
    rfl
  · rintro rfl
    cases m <;> rfl

private theorem Marker.at?_eq_none_iff {s : List Char} :
    Marker.at? s = none ↔ ∀ m : Marker, ¬ m.opening <+: s := by
  rw [Option.eq_none_iff_forall_ne_some, Prod.forall]
  constructor
  · rintro h m ⟨rest, hrest⟩
    exact h m rest (at?_eq_some_iff.mpr hrest.symm)
  · intro h m rest hat
    exact h m ⟨rest, (at?_eq_some_iff.mp hat).symm⟩

theorem tokenize_nil : tokenize [] = .ok [] := by
  rw [tokenize]
  rfl

private theorem tokenize_cons {c : Char} {r : List Char} (h : Marker.at? (c :: r) = none) :
    tokenize (c :: r) = (tokenize r).map (Token.consChar c) := by
  rw [tokenize]
  split
  · rename_i hsome
    rw [h] at hsome
    cases hsome
  · rfl

private theorem tokenize_opening (m : Marker) (rest : List Char) :
    tokenize (m.opening ++ rest) =
      match cut m.terminator rest with
      | none => .error m.unterminated
      | some (inside, after) =>
        (Token.ofInside m (trim inside)).bind fun t => (tokenize after).map (t :: ·) := by
  have hat : Marker.at? (m.opening ++ rest) = some (m, rest) := Marker.at?_eq_some_iff.mpr rfl
  rw [tokenize]
  split
  · rename_i m' rest' hsome
    rw [hat] at hsome
    cases hsome
    split
    · rename_i hcut
      rw [hcut]
    · rename_i inside after hcut
      show (Token.ofInside m (trim inside)).bind _ = _
      rw [hcut]
  · rename_i hnone
    rw [hat] at hnone
    cases hnone

def Marker.enclose (m : Marker) (inside : List Char) : List Char :=
  m.opening ++ inside ++ [m.terminator]

theorem Marker.opening_append (m : Marker) (inside after : List Char) :
    m.opening ++ (inside ++ m.terminator :: after) = m.enclose inside ++ after := by
  rw [enclose, List.append_assoc, List.append_assoc, List.singleton_append]

theorem tokenize_enclose_append {m : Marker} {inside : List Char} (h : m.terminator ∉ inside)
    (back : List Char) : tokenize (m.enclose inside ++ back) =
      (Token.ofInside m (trim inside)).bind fun t => (tokenize back).map (t :: ·) := by
  have hcut : cut m.terminator (inside ++ m.terminator :: back) = some (inside, back) :=
    cut_eq_some_iff.mpr ⟨rfl, h⟩
  rw [← Marker.opening_append, tokenize_opening, hcut]

def Token.isText : Token → Bool
  | .text _ => true
  | _ => false

private theorem Token.isText_of_ofInside {m : Marker} {s : List Char} {t : Token}
    (h : Token.ofInside m s = .ok t) : t.isText = false := by
  cases m with
  | interpolation =>
    rw [ofInside] at h
    split at h <;> cases h
    rfl
  | closing =>
    rw [ofInside] at h
    split at h <;> cases h <;> rfl
  | directive =>
    rw [ofInside, ofDirective] at h
    split at h <;> cases h <;> rfl

/-- The tokens of two texts one after the other: where text meets text they become one. -/
def Token.glue : List Token → List Token → List Token
  | [], us => us
  | [.text cs], .text ds :: us => .text (cs ++ ds) :: us
  | t :: ts, us => t :: glue ts us

theorem Token.glue_cons_of_not_text {t : Token} (h : t.isText = false) (ts us : List Token) :
    glue (t :: ts) us = t :: glue ts us := by
  cases t with
  | text => cases h
  | _ => cases ts <;> cases us <;> rfl

theorem Token.glue_cons_cons (t t' : Token) (ts us : List Token) :
    glue (t :: t' :: ts) us = t :: glue (t' :: ts) us := by
  cases t <;> rfl

theorem Token.glue_singleton_of_not_text (t : Token) {us : List Token}
    (h : ∀ u ∈ us.head?, u.isText = false) : glue [t] us = t :: us := by
  cases us with
  | nil => cases t <;> rfl
  | cons u us =>
    have hu : u.isText = false := h u rfl
    cases u with
    | text => cases hu
    | _ => cases t <;> rfl

private theorem Token.glue_eq_append {us : List Token} (h : ∀ u ∈ us.head?, u.isText = false)
    (ts : List Token) : glue ts us = ts ++ us := by
  induction ts with
  | nil => rfl
  | cons t ts ih =>
    cases ts with
    | nil => exact glue_singleton_of_not_text t h
    | cons t' ts => rw [glue_cons_cons, ih, ← List.cons_append]

theorem Token.glue_append_cons {t : Token} (h : t.isText = false) (front ts us : List Token) :
    glue (front ++ t :: ts) us = front ++ t :: glue ts us := by
  induction front with
  | nil => exact glue_cons_of_not_text h ts us
  | cons u front ih =>
    cases front with
    | nil =>
      rw [List.cons_append, List.nil_append, glue_cons_cons, glue_cons_of_not_text h]
      rfl
    | cons u' front =>
      rw [List.cons_append, List.cons_append, glue_cons_cons, ← List.cons_append, ih]
      rfl

private theorem Token.consChar_glue (c : Char) (ts us : List Token) :
    consChar c (glue ts us) = glue (consChar c ts) us := by
  cases ts with
  | nil =>
    cases us with
    | nil => rfl
    | cons u us => cases u <;> rfl
  | cons t ts =>
    cases ts with
    | nil =>
      cases us with
      | nil => cases t <;> rfl
      | cons u us => cases t <;> cases u <;> rfl
    | cons t' ts => 
      rw [glue_cons_cons]
      cases t <;> rfl

/-- A marker begins in the first text and ends in the second. -/
def Marker.Straddles (m : Marker) (front back : List Char) : Prop :=
  ∃ left right, left ≠ [] ∧ right ≠ [] ∧ left ++ right = m.opening ∧
    left <:+ front ∧ right <+: back

private theorem Marker.Straddles.of_suffix {m : Marker} {front front' back : List Char}
    (h : m.Straddles front back) (hfront : front <:+ front') : m.Straddles front' back := by
  obtain ⟨left, right, hleft, hright, hopening, hsuffix, hleads⟩ := h
  exact ⟨left, right, hleft, hright, hopening, hsuffix.trans hfront, hleads⟩

private theorem Marker.at?_append {front back : List Char} (hne : front ≠ [])
    (h : Marker.at? front = none) (hjunction : ∀ m : Marker, ¬ m.Straddles front back) :
    Marker.at? (front ++ back) = none := by
  rw [at?_eq_none_iff] at h ⊢
  rintro m ⟨rest, hrest⟩
  rcases List.append_eq_append_iff.mp hrest with ⟨right, hfront, -⟩ | ⟨right, hopening, hback⟩
  · exact h m ⟨right, hfront.symm⟩
  · by_cases hright : right = []
    · subst hright
      rw [List.append_nil] at hopening
      exact h m ⟨[], by rw [List.append_nil, hopening]⟩
    · exact hjunction m ⟨front, right, hne, hright, hopening.symm, List.suffix_rfl,
        ⟨rest, hback.symm⟩⟩

/-- The tokens of a text are not changed by the text behind it, unless a marker begins in the one
and ends in the other. -/
theorem tokenize_append {front back : List Char} {ts : List Token}
    (h : tokenize front = .ok ts) (hjunction : ∀ m : Marker, ¬ m.Straddles front back) :
    tokenize (front ++ back) = (tokenize back).map (Token.glue ts) := by
  induction front using tokenize.induct generalizing ts with
  | case1 front m rest hat hcut =>
    rw [Marker.at?_eq_some_iff] at hat
    subst hat
    rw [tokenize_opening, hcut] at h
    cases h
  | case2 front m rest hat inside after hcut _ ih =>
    rw [Marker.at?_eq_some_iff] at hat
    obtain ⟨rfl, hinside⟩ := cut_eq_some_iff.mp hcut
    rw [Marker.opening_append] at hat
    subst hat
    rw [tokenize_enclose_append hinside] at h
    obtain ⟨t, ht, h⟩ := bind_eq_ok_iff.mp h
    obtain ⟨ts, hafter, rfl⟩ := map_eq_ok_iff.mp h
    have hback := ih hafter fun m' h' => hjunction m' (h'.of_suffix (List.suffix_append _ after))
    rw [List.append_assoc, tokenize_enclose_append hinside, ht, hback]
    cases tokenize back with
    | error e => rfl
    | ok us =>
      have hglue := Token.glue_cons_of_not_text (Token.isText_of_ofInside ht) ts us
      exact congrArg Except.ok hglue.symm
  | case3 =>
    rw [tokenize_nil] at h
    cases h
    rw [List.nil_append]
    cases tokenize back <;> rfl
  | case4 c r hnone ih =>
    rw [tokenize_cons hnone] at h
    obtain ⟨ts, hts, rfl⟩ := map_eq_ok_iff.mp h
    have hat := Marker.at?_append (List.cons_ne_nil c r) hnone hjunction
    rw [List.cons_append] at hat ⊢
    rw [tokenize_cons hat, ih hts fun m h' => hjunction m (h'.of_suffix (List.suffix_cons c r))]
    cases tokenize back with
    | error e => rfl
    | ok us => exact congrArg Except.ok (Token.consChar_glue c ts us)

/-- The end of the source, or a place where a marker stands: no text goes on here. -/
def AtMarker (s : List Char) : Prop :=
  s = [] ∨ ∃ (m : Marker) (rest : List Char), s = m.opening ++ rest

theorem Marker.not_straddles {m : Marker} {back : List Char}
    (h : ∀ c ∈ back.head?, c ∉ m.opening.tail) (front : List Char) : ¬ m.Straddles front back := by
  rintro ⟨left, right, hleft, hright, hopening, -, after, hback⟩
  obtain ⟨l, left, rfl⟩ := List.exists_cons_of_ne_nil hleft
  obtain ⟨r, right, rfl⟩ := List.exists_cons_of_ne_nil hright
  refine h r ?_ ?_
  · rw [← hback]
    rfl
  · rw [← hopening]
    simp

theorem AtMarker.not_straddles {back : List Char} (h : AtMarker back) (m : Marker)
    (front : List Char) : ¬ m.Straddles front back := by
  refine Marker.not_straddles ?_ front
  rcases h with rfl | ⟨m', rest, rfl⟩
  · simp
  · cases m <;> cases m' <;> simp [Marker.opening]

private theorem AtMarker.not_text {back : List Char} (h : AtMarker back) {ts : List Token}
    (hts : tokenize back = .ok ts) : ∀ t ∈ ts.head?, t.isText = false := by
  rcases h with rfl | ⟨m, rest, rfl⟩
  · rw [tokenize_nil] at hts
    cases hts
    simp
  · rw [tokenize_opening] at hts
    cases hcut : cut m.terminator rest with
    | none =>
      rw [hcut] at hts
      cases hts
    | some pieces =>
      rw [hcut] at hts
      obtain ⟨t, ht, hts⟩ := bind_eq_ok_iff.mp hts
      obtain ⟨after, -, rfl⟩ := map_eq_ok_iff.mp hts
      simpa using Token.isText_of_ofInside ht

theorem tokenize_append_of_atMarker {front back : List Char} {ts : List Token}
    (h : tokenize front = .ok ts) (hback : AtMarker back) :
    tokenize (front ++ back) = (tokenize back).map (ts ++ ·) := by
  rw [tokenize_append h fun m => hback.not_straddles m front]
  cases htokens : tokenize back with
  | error e => rfl
  | ok us => exact congrArg Except.ok (Token.glue_eq_append (hback.not_text htokens) ts)

theorem tokenize_plain {s : List Char} (hne : s ≠ []) (h : ∀ m : Marker, ¬ m.opening <:+: s) :
    tokenize s = .ok [.text s] := by
  induction s with
  | nil => exact absurd rfl hne
  | cons c r ih =>
    have hat : Marker.at? (c :: r) = none :=
      Marker.at?_eq_none_iff.mpr fun m hleads => h m hleads.isInfix
    have hrest : ∀ m : Marker, ¬ m.opening <:+: r := fun m hinside =>
      h m (hinside.trans (List.suffix_cons c r).isInfix)
    rw [tokenize_cons hat]
    by_cases hr : r = []
    · subst hr
      rw [tokenize_nil]
      rfl
    · rw [ih hr hrest]
      rfl

end RunPlan.Template
