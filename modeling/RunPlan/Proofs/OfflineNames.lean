import RunPlan.Service.Basic
import RunPlan.Proofs.Text.Cutting

/-!
The names that the offline service gives. Main statement: requests are told apart by them as long as
the separators of a name can be told from the text around them; every other name is also the name
that some such name and pairs give.
-/

set_option autoImplicit false

namespace RunPlan.Service

open RunPlan.Text

/-- No `=` stands behind a `_`, so neither is taken for a separator. -/
def IsClear (s : List Char) : Prop := '=' ∉ s.dropWhile (· ≠ '_')

instance (s : List Char) : Decidable (IsClear s) := inferInstanceAs (Decidable (_ ∉ _))

/-- A key and a value of which nothing is taken for a separator. -/
structure IsClearPair (pair : String × String) : Prop where
  key_plain : '_' ∉ pair.1.toList ∧ '=' ∉ pair.1.toList
  value_clear : IsClear pair.2.toList

/-- A name and pairs of which nothing is taken for a separator. -/
structure AreClear (name : String) (pairs : List (String × String)) : Prop where
  name_clear : IsClear name.toList
  pairs_clear : ∀ pair ∈ pairs, IsClearPair pair

def joined (name : String) (pairs : List (String × String)) : String :=
  String.intercalate "_" (name :: pairs.map fun (k, v) => k ++ "=" ++ v)

section Clear

variable {s front back : List Char}

private theorem IsClear.notMem_of_append (h : IsClear (front ++ '_' :: back)) : '=' ∉ back := by
  induction front with
  | nil => exact fun hmem => h (List.mem_cons_of_mem _ hmem)
  | cons c front ih =>
    by_cases hc : c = '_'
    · subst hc
      exact fun hmem => h (by simp [hmem])
    · refine ih ?_
      rwa [IsClear, List.cons_append, List.dropWhile_cons_of_pos (by simpa using hc)] at h

private theorem isClear_cons_iff_of_ne {c : Char} (hc : c ≠ '_') :
    IsClear (c :: s) ↔ IsClear s := by
  rw [IsClear, List.dropWhile_cons_of_pos (by simpa using hc), IsClear]

private theorem isClear_cons_iff : IsClear ('_' :: s) ↔ '=' ∉ s := by
  rw [IsClear, List.dropWhile_cons_of_neg (by simp)]
  simp

theorem IsClear.of_append (h : IsClear (front ++ '=' :: back)) :
    '_' ∉ front ∧ IsClear back := by
  induction front with
  | nil => exact ⟨List.not_mem_nil, (isClear_cons_iff_of_ne (by decide)).mp h⟩
  | cons c front ih =>
    by_cases hc : c = '_'
    · subst hc
      exact absurd (by simp) (isClear_cons_iff.mp h)
    · obtain ⟨hfront, hback⟩ := ih ((isClear_cons_iff_of_ne hc).mp h)
      exact ⟨by simp [hfront, Ne.symm hc], hback⟩

end Clear

def tail (pairs : List (String × String)) : List Char :=
  pairs.flatMap fun pair => '_' :: (pair.1.toList ++ '=' :: pair.2.toList)

theorem tail_cons (pair : String × String) (pairs : List (String × String)) :
    tail (pair :: pairs) =
      '_' :: (pair.1.toList ++ '=' :: (pair.2.toList ++ tail pairs)) := by
  simp [tail]

private theorem toList_joined (name : String) (pairs : List (String × String)) :
    (joined name pairs).toList = name.toList ++ tail pairs := by
  induction pairs generalizing name with
  | nil => simp [joined, tail]
  | cons pair pairs ih =>
    have hrest := ih (pair.1 ++ "=" ++ pair.2)
    rw [joined] at hrest
    rw [joined, List.map_cons, String.intercalate_cons_cons, String.toList_append, hrest, tail_cons]
    simp

private theorem offlineName_eq_joined (r : NameRequest) :
    offlineName r = joined r.name r.vars.entries :=
  rfl

section Injective

variable {front front' part : List Char} {pairs pairs' : List (String × String)}

private theorem eq_nil_of_tail_eq_append (hclear : IsClear (front ++ part))
    (hpairs : ∀ pair ∈ pairs, IsClearPair pair) (h : tail pairs = part ++ tail pairs') :
    part = [] := by
  cases part with
  | nil => rfl
  | cons c part =>
    cases pairs with
    | nil => cases h
    | cons pair pairs =>
      rw [tail_cons, List.cons_append, List.cons.injEq] at h
      obtain ⟨rfl, h⟩ := h
      have hpart : '=' ∉ part := hclear.notMem_of_append
      cases pairs' with
      | nil =>
        rw [show tail [] = [] from rfl, List.append_nil] at h
        exact absurd (by simp [← h]) hpart
      | cons pair' pairs' =>
        have hkey := (hpairs pair List.mem_cons_self).key_plain.1
        rw [tail_cons pair'] at h
        exact absurd h.symm (append_cons_ne (by decide) hpart hkey _ _)

private theorem eq_of_append_tail_eq (hfront : IsClear front) (hfront' : IsClear front')
    (hpairs : ∀ pair ∈ pairs, IsClearPair pair) (hpairs' : ∀ pair ∈ pairs', IsClearPair pair)
    (h : front ++ tail pairs = front' ++ tail pairs') :
    front = front' ∧ tail pairs = tail pairs' := by
  rcases List.append_eq_append_iff.mp h with ⟨part, rfl, htail⟩ | ⟨part, rfl, htail⟩
  · obtain rfl := eq_nil_of_tail_eq_append hfront' hpairs htail
    exact ⟨(List.append_nil _).symm, htail⟩
  · obtain rfl := eq_nil_of_tail_eq_append hfront hpairs' htail
    exact ⟨List.append_nil _, htail.symm⟩

private theorem eq_of_tail_eq (hpairs : ∀ pair ∈ pairs, IsClearPair pair)
    (hpairs' : ∀ pair ∈ pairs', IsClearPair pair) (h : tail pairs = tail pairs') :
    pairs = pairs' := by
  induction pairs generalizing pairs' with
  | nil =>
    cases pairs' with
    | nil => rfl
    | cons pair' pairs' => cases h
  | cons pair pairs ih =>
    cases pairs' with
    | nil => cases h
    | cons pair' pairs' =>
      obtain ⟨hpair, hpairs⟩ := List.forall_mem_cons.mp hpairs
      obtain ⟨hpair', hpairs'⟩ := List.forall_mem_cons.mp hpairs'
      rw [tail_cons, tail_cons, List.cons.injEq] at h
      obtain ⟨hkey, hrest⟩ :=
        eq_of_append_cons_eq hpair.key_plain.2 hpair'.key_plain.2 h.2
      obtain ⟨hvalue, hrest⟩ :=
        eq_of_append_tail_eq hpair.value_clear hpair'.value_clear hpairs hpairs' hrest
      have hsame : pair = pair' :=
        Prod.ext (String.toList_inj.mp hkey) (String.toList_inj.mp hvalue)
      rw [hsame, ih hpairs hpairs' hrest]

end Injective

/-- Every text is one of a clear name and clear pairs: each `_` whose next separator is an `=`
starts a pair. -/
theorem exists_clear_reading (s : List Char) : ∃ front pairs, IsClear front ∧
    (∀ pair ∈ pairs, IsClearPair pair) ∧ s = front ++ tail pairs := by
  induction s with
  | nil => exact ⟨[], [], by decide, nofun, rfl⟩
  | cons c s ih =>
    obtain ⟨front, pairs, hfront, hpairs, rfl⟩ := ih
    by_cases hc : c = '_'
    · subst hc
      by_cases hmem : '=' ∈ front
      · obtain ⟨key, value, rfl, hkey⟩ := exists_cut_of_mem hmem
        obtain ⟨hplain, hvalue⟩ := hfront.of_append
        refine ⟨[], (String.ofList key, String.ofList value) :: pairs, by decide, ?_, ?_⟩
        · rw [List.forall_mem_cons]
          exact ⟨⟨by simpa using ⟨hplain, hkey⟩, by simpa using hvalue⟩, hpairs⟩
        · rw [tail_cons]
          simp
      · exact ⟨'_' :: front, pairs, isClear_cons_iff.mpr hmem, hpairs, rfl⟩
    · exact ⟨c :: front, pairs, (isClear_cons_iff_of_ne hc).mpr hfront, hpairs, rfl⟩

/-- Requests of which nothing is taken for a separator have the same offline name only if they are
the same. Every other request has the offline name of one of these, or one that reads as clear pairs
of which two have the same key. -/
theorem offlineName_tells_clear_apart :
    (∀ r r' : NameRequest, AreClear r.name r.vars.entries → AreClear r'.name r'.vars.entries →
      (offlineName r = offlineName r' ↔ r = r')) ∧
    ∀ r : NameRequest,
      (∃ r' : NameRequest, AreClear r'.name r'.vars.entries ∧ offlineName r' = offlineName r) ∨
      ∃ name pairs, AreClear name pairs ∧ joined name pairs = offlineName r ∧
        ¬ (pairs.map Prod.fst).Nodup := by
  refine ⟨fun r r' hr hr' => ⟨fun h => ?_, congrArg offlineName⟩, fun r => ?_⟩
  · have htext := congrArg String.toList h
    rw [offlineName_eq_joined, offlineName_eq_joined, toList_joined, toList_joined] at htext
    obtain ⟨hname, htail⟩ := eq_of_append_tail_eq hr.name_clear hr'.name_clear hr.pairs_clear
      hr'.pairs_clear htext
    have hvars := eq_of_tail_eq hr.pairs_clear hr'.pairs_clear htail
    obtain ⟨name, vars⟩ := r
    obtain ⟨name', vars'⟩ := r'
    rw [NameRequest.mk.injEq]
    exact ⟨String.toList_inj.mp hname, OrderedMap.ext hvars⟩
  · obtain ⟨front, pairs, hfront, hpairs, htext⟩ := exists_clear_reading (offlineName r).toList
    have hclear : AreClear (String.ofList front) pairs := ⟨by simpa using hfront, hpairs⟩
    have hjoined : joined (String.ofList front) pairs = offlineName r := by
      rw [← String.toList_inj, toList_joined, htext, String.toList_ofList]
    by_cases hkeys : (pairs.map Prod.fst).Nodup
    · exact Or.inl ⟨⟨String.ofList front, pairs, hkeys⟩, hclear, hjoined⟩
    · exact Or.inr ⟨_, pairs, hclear, hjoined, hkeys⟩

/-- A request with separators in its name and in a value, none of which is taken for one. -/
def Sample.clear : NameRequest := ⟨"a_b", ⟨[("k", "x=y_z")], by decide⟩⟩

def Sample.shorter : NameRequest := ⟨"a", ⟨[("k", "x=y_z")], by decide⟩⟩

theorem offlineName_tells_samples_apart :
    AreClear Sample.clear.name Sample.clear.vars.entries ∧
      AreClear Sample.shorter.name Sample.shorter.vars.entries ∧
      offlineName Sample.clear ≠ offlineName Sample.shorter := by
  have hpairs : ∀ pair ∈ [("k", "x=y_z")], IsClearPair pair := by
    intro pair hpair
    rw [List.mem_singleton.mp hpair]
    exact ⟨by decide, by decide⟩
  have hclear : AreClear Sample.clear.name Sample.clear.vars.entries := ⟨by decide, hpairs⟩
  have hshorter : AreClear Sample.shorter.name Sample.shorter.vars.entries := ⟨by decide, hpairs⟩
  refine ⟨hclear, hshorter, fun h => ?_⟩
  have hsame := (offlineName_tells_clear_apart.1 _ _ hclear hshorter).mp h
  exact absurd (congrArg NameRequest.name hsame) (by decide)

/-- A name that looks like a name and a pair is taken for them. -/
theorem not_forall_eq_of_offlineName_eq :
    ¬ ∀ r r' : NameRequest, offlineName r = offlineName r' → r = r' := by
  intro hall
  have hsame := hall ⟨"a_b=c", ∅⟩ ⟨"a", ⟨[("b", "c")], by decide⟩⟩ (by decide +kernel)
  exact absurd (congrArg NameRequest.name hsame) (by decide)

end RunPlan.Service
