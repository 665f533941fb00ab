import RunPlan.Json.Parser
import RunPlan.Json.Printer
import RunPlan.Proofs.Text.Digits
import RunPlan.Proofs.Text.Splitting

/-!
JSON on one line. Main statements: a written string is read back whatever follows it, and a value
without floating-point numbers shows where it ends, so two such values with the same text are the
same value.
-/

set_option autoImplicit false

namespace RunPlan.Json

open RunPlan.Text

section Strings

variable {fuel : Nat} {s s' : String} {r r' : List Char}

private theorem numbered?_control {n : Nat} (h : n < 0x20) (r : List Char) :
    numbered? ('0' :: '0' :: hexDigit (n / 16) :: hexDigit (n % 16) :: r) =
      some (Char.ofNat n, r) := by
  have hvalue : ∀ n < 0x20,
      digitsValue? 16 ['0', '0', hexDigit (n / 16), hexDigit (n % 16)] = some n := by decide
  have hchar : n.isValidChar := Or.inl (by omega)
  have hlow : ¬ (0xD800 ≤ n && n < 0xDC00) = true := by simp; omega
  have hunit : codeUnit? ('0' :: '0' :: hexDigit (n / 16) :: hexDigit (n % 16) :: r) =
      some (n, r) := by
    rw [codeUnit?, if_neg (by simp)]
    simp [hvalue n h]
  rw [numbered?, hunit, Option.bind_eq_bind, Option.bind_some]
  dsimp only
  rw [if_neg hlow, dif_pos hchar, Char.ofNat, dif_pos hchar]
  rfl

private theorem readString_escapeChar (c : Char) (done r : List Char) :
    readString (fuel + 1) done (escapeChar c ++ r) = readString fuel (c :: done) r := by
  unfold escapeChar
  split
  · subst c; rfl
  split
  · subst c; rfl
  split
  · subst c; rfl
  split
  · subst c; rfl
  split
  · subst c; rfl
  split
  · subst c; rfl
  split
  · subst c; rfl
  split
  · next hcontrol =>
    have hread := numbered?_control hcontrol r
    rw [Char.ofNat_toNat] at hread
    simp [readString, escape?, hread]
  · next hquote hbackslash _ _ _ _ _ hcontrol =>
    simp [readString, hquote, hbackslash, hcontrol]

private theorem readString_flatMap_escapeChar {s : List Char} (hfuel : s.length < fuel)
    (done r : List Char) :
    readString fuel done (s.flatMap escapeChar ++ '"' :: r) =
      some (String.ofList (done.reverse ++ s), r) := by
  induction s generalizing fuel done with
  | nil =>
    obtain ⟨fuel, rfl⟩ := Nat.exists_eq_add_of_lt hfuel
    simp [readString]
  | cons c s ih =>
    obtain ⟨fuel, rfl⟩ := Nat.exists_eq_add_of_lt hfuel
    have hrest : s.length < s.length + 1 + fuel := by omega
    rw [List.flatMap_cons, List.append_assoc, List.length_cons, readString_escapeChar, ih hrest]
    simp

private theorem eq_of_stringChars_append (h : stringChars s ++ r = stringChars s' ++ r') :
    s = s' ∧ r = r' := by
  obtain ⟨fuel, hfuel, hfuel'⟩ : ∃ fuel, s.toList.length < fuel ∧ s'.toList.length < fuel :=
    ⟨max s.toList.length s'.toList.length + 1, by omega, by omega⟩
  simp only [stringChars, List.cons_append, List.append_assoc, List.cons.injEq, true_and,
    List.nil_append] at h
  have hread := readString_flatMap_escapeChar hfuel [] r
  rw [h, readString_flatMap_escapeChar hfuel'] at hread
  simpa [eq_comm] using hread

end Strings

section Values

/-- Nothing, or what stands behind a value inside another one. -/
def Ends (r : List Char) : Prop := ∀ c ∈ r.head?, c ∈ [',', ']', '\x7d']

/-- A value in which all numbers are whole. -/
inductive IsWhole : Json → Prop
  | null : IsWhole .null
  | bool (b : Bool) : IsWhole (.bool b)
  | int (i : Int) : IsWhole (.int i)
  | string (s : String) : IsWhole (.string s)
  | array {items : List Json} (hitems : ∀ v ∈ items, IsWhole v) : IsWhole (.array items)
  | object {members : List (String × Json)} (hmembers : ∀ m ∈ members, IsWhole m.2) :
      IsWhole (.object members)

/-- The kinds of values. -/
inductive Kind
  | null
  | bool
  | number
  | string
  | array
  | object

def kind : Json → Kind
  | .null => .null
  | .bool _ => .bool
  | .number _ => .number
  | .string _ => .string
  | .array _ => .array
  | .object _ => .object

def kindAt (c : Char) : Kind :=
  if c = 'n' then .null
  else if c = 't' || c = 'f' then .bool
  else if c = '"' then .string
  else if c = '[' then .array
  else if c = '\x7b' then .object
  else .number

def memberChars (m : String × Json) : List Char := stringChars m.1 ++ ':' :: compactChars m.2

variable {v w : Json} {r r' : List Char}

private theorem compactItems_eq_map (vs : List Json) : compactItems vs = vs.map compactChars := by
  induction vs with
  | nil => rfl
  | cons v vs ih => rw [compactItems, ih, List.map_cons]

private theorem compactMembers_eq_map (ms : List (String × Json)) :
    compactMembers ms = ms.map memberChars := by
  induction ms with
  | nil => rfl
  | cons m ms ih =>
    obtain ⟨k, v⟩ := m
    rw [compactMembers, ih, List.map_cons, memberChars]

private theorem isIntChar_head?_of_ends (hr : Ends r) : ∀ c ∈ r.head?, isIntChar c = false := by
  intro c hc
  have hmem := hr c hc
  simp only [List.mem_cons, List.not_mem_nil, or_false] at hmem
  rcases hmem with rfl | rfl | rfl <;> decide

private theorem IsWhole.exists_compactChars_eq_cons (h : v.IsWhole) :
    ∃ c t, compactChars v = c :: t ∧ kindAt c = v.kind ∧ c ≠ ']' := by
  cases h with
  | null => exact ⟨_, _, rfl, rfl, by decide⟩
  | bool b => cases b <;> exact ⟨_, _, rfl, rfl, by decide⟩
  | int i =>
    cases hchars : (toString i).toList with
    | nil => exact absurd hchars (toList_toString_int_ne_nil i)
    | cons c t =>
      have hc : isIntChar c = true := isIntChar_of_mem_toString (hchars ▸ List.mem_cons_self)
      have hne : ∀ d, isIntChar d = false → c ≠ d := by
        intro d hd he
        rw [he, hd] at hc
        cases hc
      refine ⟨c, t, hchars, ?_, hne _ (by decide)⟩
      simp [kindAt, kind, hne 'n' (by decide), hne 't' (by decide), hne 'f' (by decide),
        hne '"' (by decide), hne '[' (by decide), hne '\x7b' (by decide), Json.int]
  | string s => exact ⟨_, _, rfl, rfl, by decide⟩
  | array => exact ⟨_, _, rfl, rfl, by decide⟩
  | object => exact ⟨_, _, rfl, rfl, by decide⟩

private theorem IsWhole.kind_eq (hv : v.IsWhole) (hw : w.IsWhole)
    (h : compactChars v ++ r = compactChars w ++ r') : v.kind = w.kind := by
  obtain ⟨c, t, hc, hkind, -⟩ := hv.exists_compactChars_eq_cons
  obtain ⟨c', t', hc', hkind', -⟩ := hw.exists_compactChars_eq_cons
  rw [hc, hc'] at h
  rw [← hkind, ← hkind', (List.cons.inj h).1]

section Lists

variable {α : Type} {f : α → List Char} {close : Char} {as bs : List α}

private theorem eq_of_flatMap_append (hclose : close ≠ ',') (hends : ∀ t, Ends (close :: t))
    (hread : ∀ a ∈ as, ∀ b ∈ bs, ∀ r r', Ends r → Ends r' → f a ++ r = f b ++ r' →
      a = b ∧ r = r')
    (h : as.flatMap (fun a => ',' :: f a) ++ close :: r =
      bs.flatMap (fun b => ',' :: f b) ++ close :: r') : as = bs ∧ r = r' := by
  have hbehind : ∀ (cs : List α) (t : List Char),
      Ends (cs.flatMap (fun c => ',' :: f c) ++ close :: t) := by
    intro cs t
    cases cs with
    | nil => exact hends t
    | cons c cs => simp [Ends]
  induction as generalizing bs with
  | nil =>
    cases bs with
    | nil => exact ⟨rfl, (List.cons.inj h).2⟩
    | cons b bs => exact absurd (List.cons.inj h).1 hclose
  | cons a as ih =>
    cases bs with
    | nil => exact absurd (List.cons.inj h).1.symm hclose
    | cons b bs =>
      simp only [List.flatMap_cons, List.cons_append, List.append_assoc] at h
      obtain ⟨rfl, hrest⟩ := hread a List.mem_cons_self b List.mem_cons_self _ _ (hbehind as r)
        (hbehind bs r') (List.cons.inj h).2
      obtain ⟨rfl, hr⟩ := ih (fun a ha b hb => hread a (List.mem_cons_of_mem _ ha) b
        (List.mem_cons_of_mem _ hb)) hrest
      exact ⟨rfl, hr⟩

private theorem eq_of_join_append (hclose : close = ']' ∨ close = '\x7d')
    (hread : ∀ a ∈ as, ∀ b ∈ bs, ∀ r r', Ends r → Ends r' → f a ++ r = f b ++ r' →
      a = b ∧ r = r')
    (has : ∀ a ∈ as, ∃ c t, f a = c :: t ∧ c ≠ close)
    (hbs : ∀ b ∈ bs, ∃ c t, f b = c :: t ∧ c ≠ close)
    (h : join [','] (as.map f) ++ close :: r = join [','] (bs.map f) ++ close :: r') :
    as = bs ∧ r = r' := by
  have hcomma : close ≠ ',' := by rcases hclose with rfl | rfl <;> decide
  have hends : ∀ t, Ends (close :: t) := by
    intro t
    rcases hclose with rfl | rfl <;> simp [Ends]
  cases as with
  | nil =>
    cases bs with
    | nil => exact ⟨rfl, (List.cons.inj h).2⟩
    | cons b bs =>
      obtain ⟨c, t, hb, hc⟩ := hbs b List.mem_cons_self
      rw [List.map_cons, join_cons_eq_flatMap, hb] at h
      exact absurd (List.cons.inj h).1.symm hc
  | cons a as =>
    cases bs with
    | nil =>
      obtain ⟨c, t, ha, hc⟩ := has a List.mem_cons_self
      rw [List.map_cons, join_cons_eq_flatMap, ha] at h
      exact absurd (List.cons.inj h).1 hc
    | cons b bs =>
      refine eq_of_flatMap_append hcomma hends hread ?_
      simpa [join_cons_eq_flatMap, List.flatMap_map] using h

end Lists

private theorem eq_of_arrayChars_append {vs ws : List Json} (hvs : ∀ v ∈ vs, v.IsWhole)
    (hws : ∀ w ∈ ws, w.IsWhole)
    (hread : ∀ v ∈ vs, ∀ w ∈ ws, ∀ r r', Ends r → Ends r' →
      compactChars v ++ r = compactChars w ++ r' → v = w ∧ r = r')
    (h : compactChars (.array vs) ++ r = compactChars (.array ws) ++ r') : vs = ws ∧ r = r' := by
  have hfirst : ∀ u : Json, u.IsWhole → ∃ c t, compactChars u = c :: t ∧ c ≠ ']' := by
    intro u hu
    obtain ⟨c, t, hc, -, hne⟩ := hu.exists_compactChars_eq_cons
    exact ⟨c, t, hc, hne⟩
  simp only [compactChars, compactItems_eq_map, List.cons_append, List.append_assoc,
    List.nil_append] at h
  exact eq_of_join_append (.inl rfl) hread (fun v hv => hfirst v (hvs v hv))
    (fun w hw => hfirst w (hws w hw)) (List.cons.inj h).2

private theorem eq_of_memberChars_append {m n : String × Json}
    (hread : ∀ r r', Ends r → Ends r' → compactChars m.2 ++ r = compactChars n.2 ++ r' →
      m.2 = n.2 ∧ r = r')
    (hr : Ends r) (hr' : Ends r') (h : memberChars m ++ r = memberChars n ++ r') :
    m = n ∧ r = r' := by
  simp only [memberChars, List.append_assoc, List.cons_append] at h
  obtain ⟨hkey, hrest⟩ := eq_of_stringChars_append h
  obtain ⟨hvalue, hr⟩ := hread r r' hr hr' (List.cons.inj hrest).2
  exact ⟨Prod.ext hkey hvalue, hr⟩

private theorem eq_of_objectChars_append {ms ns : List (String × Json)}
    (hread : ∀ m ∈ ms, ∀ n ∈ ns, ∀ r r', Ends r → Ends r' →
      compactChars m.2 ++ r = compactChars n.2 ++ r' → m.2 = n.2 ∧ r = r')
    (h : compactChars (.object ms) ++ r = compactChars (.object ns) ++ r') :
    ms = ns ∧ r = r' := by
  simp only [compactChars, compactMembers_eq_map, List.cons_append, List.append_assoc,
    List.nil_append] at h
  exact eq_of_join_append (.inr rfl)
    (fun m hm n hn _ _ hr hr' => eq_of_memberChars_append (hread m hm n hn) hr hr')
    (fun m _ => ⟨'"', _, rfl, by decide⟩) (fun n _ => ⟨'"', _, rfl, by decide⟩)
    (List.cons.inj h).2

/-- A value shows where it ends, so its text begins the text of no other value. -/
theorem IsWhole.eq_of_compactChars_append (hv : v.IsWhole) (hw : w.IsWhole) (hr : Ends r)
    (hr' : Ends r') (h : compactChars v ++ r = compactChars w ++ r') : v = w ∧ r = r' := by
  induction hv generalizing w r r' with
  | null =>
    have hkind := IsWhole.null.kind_eq hw h
    cases hw with
    | null => exact ⟨rfl, List.append_cancel_left h⟩
    | bool | int | string | array | object => cases hkind
  | bool b =>
    have hkind := (IsWhole.bool b).kind_eq hw h
    cases hw with
    | bool b' => cases b <;> cases b' <;> simp_all [compactChars]
    | null | int | string | array | object => cases hkind
  | int i =>
    have hkind := (IsWhole.int i).kind_eq hw h
    cases hw with
    | int i' =>
      obtain ⟨hi, hr⟩ := eq_of_append_eq_of_forall (fun c hc => isIntChar_of_mem_toString hc)
        (fun c hc => isIntChar_of_mem_toString hc) (isIntChar_head?_of_ends hr)
        (isIntChar_head?_of_ends hr') h
      have hsame : i = i' := Int.repr_inj.mp (String.toList_inj.mp hi)
      exact ⟨congrArg Json.int hsame, hr⟩
    | null | bool | string | array | object => cases hkind
  | string s =>
    have hkind := (IsWhole.string s).kind_eq hw h
    cases hw with
    | string s' =>
      obtain ⟨hs, hr⟩ := eq_of_stringChars_append h
      exact ⟨congrArg Json.string hs, hr⟩
    | null | bool | int | array | object => cases hkind
  | array hitems ih =>
    have hkind := (IsWhole.array hitems).kind_eq hw h
    cases hw with
    | array hitems' =>
      obtain ⟨rfl, hr⟩ := eq_of_arrayChars_append hitems hitems'
        (fun v hv w hw r r' hr hr' => ih v hv (hitems' w hw) hr hr') h
      exact ⟨rfl, hr⟩
    | null | bool | int | string | object => cases hkind
  | object hmembers ih =>
    have hkind := (IsWhole.object hmembers).kind_eq hw h
    cases hw with
    | object hmembers' =>
      obtain ⟨rfl, hr⟩ := eq_of_objectChars_append
        (fun m hm n hn r r' hr hr' => ih m hm (hmembers' n hn) hr hr') h
      exact ⟨rfl, hr⟩
    | null | bool | int | string | array => cases hkind

theorem IsWhole.eq_of_compact_eq (hv : v.IsWhole) (hw : w.IsWhole) (h : v.compact = w.compact) :
    v = w := by
  have hends : Ends [] := nofun
  have hchars : compactChars v = compactChars w := String.ofList_injective h
  exact (hv.eq_of_compactChars_append hw hends hends (by rw [hchars])).1

end Values

end RunPlan.Json
