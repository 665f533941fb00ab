import RunPlan.Proofs.Definition.Combinations
import RunPlan.Proofs.Template.FixedPoint

/-!
The descriptors that a definition expands to. Main statement: there is one for each combination of
the values of each group, in order; it binds what its combination binds and then the other keys of
the file, all evaluated, and the first combination that fails ends the expansion with its error.
-/

set_option autoImplicit false

namespace RunPlan.Definition

open RunPlan.Yaml RunPlan.Template

/-- The variables of a group: the names in their text form, each with the texts that its value
lists. -/
def IsGroup (group : Value) (vars : OrderedMap String (List String)) : Prop :=
  ∃ entries pairs, group = .mapping entries ∧
    List.Forall₂ (fun e p => p.1 = e.1.textOrEmpty ∧ e.2.textList? = some p.2) entries pairs ∧
    OrderedMap.Collects pairs vars

/-- The candidates that a definition offers: the combinations of its groups, group by group, or a
single one that binds nothing. -/
inductive Offers (definition : Mapping) : List Variables → Prop
  | ungrouped (h : definition.getText? Key.groups = none ∨
      definition.getText? Key.groups = some .null) : Offers definition [∅]
  | grouped {groups : List (Value × Value)} {varsOf : List (OrderedMap String (List String))}
      {found : List (List Variables)} (h : definition.getText? Key.groups = some (.mapping groups))
      (hgroups : List.Forall₂ (fun e vars => IsGroup e.2 vars) groups varsOf)
      (hfound : List.Forall₂ Combines varsOf found) :
      Offers definition (if found.flatten = [] then [∅] else found.flatten)

/-- The keys of a definition other than its groups, with their values, both in their text form.
What has no text is left out. -/
def otherTexts (definition : Mapping) : List (String × String) :=
  (definition.filterMap fun e =>
    e.1.text?.bind fun key => e.2.text?.map fun value => (key, value)).filter (·.1 ≠ Key.groups)

/-- The variables of a candidate, and behind them the other keys of the definition that the
candidate does not bind. -/
structure Completes (definition : Mapping) (candidate vars : Variables) : Prop where
  keys : vars.keys = candidate.keys ++
    ((otherTexts definition).map Prod.fst).eraseDups.filter (· ∉ candidate.keys)
  own : ∀ name value, candidate.get? name = some value → vars.get? name = some value
  taken : ∀ name, name ∉ candidate.keys →
    vars.get? name = (otherTexts definition).reverse.lookup name

/-- The same variables with their templates rendered. -/
structure Settles (vars final : Variables) : Prop where
  keys : final.keys = vars.keys
  plain : ∀ name value, vars.get? name = some value → isTemplated value = false →
    final.get? name = some value
  rendered : ∀ name value, vars.get? name = some value → isTemplated value = true →
    ∃ now nodes text, Turn vars name now ∧ compile value = .ok nodes ∧
      render nodes now = .ok text ∧ final.get? name = some text
  settled : ∀ name value, final.get? name = some value → isTemplated value = false

section Candidates

private theorem readValues_eq_ok {name : String} {entries : List (Value × Value)}
    {pairs : List (String × List String)} (h : readValues name entries = .ok pairs) :
    List.Forall₂ (fun e p => p.1 = e.1.textOrEmpty ∧ e.2.textList? = some p.2) entries pairs := by
  induction entries generalizing pairs with
  | nil =>
    cases h
    exact List.Forall₂.nil
  | cons e entries ih =>
    obtain ⟨key, value⟩ := e
    rw [readValues] at h
    cases hvalues : value.textList? with
    | none =>
      rw [hvalues] at h
      cases h
    | some values =>
      rw [hvalues] at h
      obtain ⟨rest, hrest, rfl⟩ := map_eq_ok_iff.mp h
      exact List.Forall₂.cons ⟨rfl, hvalues⟩ (ih hrest)

theorem isGroup_of_readGroup {name group : Value} {vars : OrderedMap String (List String)}
    (h : readGroup name group = .ok vars) : IsGroup group vars := by
  cases group with
  | mapping entries =>
    obtain ⟨pairs, hpairs, rfl⟩ := map_eq_ok_iff.mp h
    exact ⟨entries, pairs, rfl, readValues_eq_ok hpairs, OrderedMap.collects_ofList pairs⟩
  | null | bool | number | string | sequence | tagged => cases h

theorem readGroups_eq_ok_iff {groups : List (Value × Value)} {candidates : List Variables} :
    readGroups groups = .ok candidates ↔
      ∃ varsOf, List.Forall₂ (fun e vars => readGroup e.1 e.2 = .ok vars) groups varsOf ∧
        candidates = varsOf.flatMap combinations := by
  induction groups generalizing candidates with
  | nil =>
    simp only [List.forall₂_nil_left_iff, exists_eq_left, List.flatMap_nil, readGroups]
    exact ⟨fun h => (Except.ok.inj h).symm, fun h => congrArg Except.ok h.symm⟩
  | cons e groups ih =>
    obtain ⟨name, group⟩ := e
    simp only [readGroups, bind_eq_ok_iff, ih, List.forall₂_cons_left_iff]
    constructor
    · rintro ⟨vars, hvars, _, ⟨varsOf, hvarsOf, rfl⟩, h⟩
      cases h
      exact ⟨_, ⟨vars, varsOf, hvars, hvarsOf, rfl⟩, rfl⟩
    · rintro ⟨_, ⟨vars, varsOf, hvars, hvarsOf, rfl⟩, rfl⟩
      exact ⟨vars, hvars, _, ⟨varsOf, hvarsOf, rfl⟩, rfl⟩

private theorem offers_of_candidates {definition : Mapping} {cs : List Variables}
    (h : candidates definition = .ok cs) : Offers definition cs := by
  rw [candidates] at h
  cases hgroups : definition.getText? Key.groups with
  | none =>
    rw [hgroups] at h
    cases h
    exact .ungrouped (Or.inl hgroups)
  | some value =>
    rw [hgroups] at h
    cases value with
    | null =>
      cases h
      exact .ungrouped (Or.inr hgroups)
    | mapping groups =>
      obtain ⟨found, hfound, rfl⟩ := map_eq_ok_iff.mp h
      obtain ⟨varsOf, hvarsOf, rfl⟩ := readGroups_eq_ok_iff.mp hfound
      have hcombine : List.Forall₂ Combines varsOf (varsOf.map combinations) :=
        List.forall₂_map_right_iff.mpr (List.forall₂_same.mpr fun vars _ =>
          combines_combinations vars)
      simp only [List.isEmpty_iff, List.flatMap_def]
      exact .grouped hgroups (hvarsOf.imp fun _ _ => isGroup_of_readGroup) hcombine
    | bool | number | string | sequence | tagged => cases h

end Candidates

section Descriptors

variable {definition : Mapping} {candidate vars final : Variables} {d : Descriptor}

private theorem collects_globals (definition : Mapping) :
    OrderedMap.Collects (otherTexts definition) (globals definition) := by
  have hglobals : globals definition = OrderedMap.ofList (otherTexts definition) := by
    rw [globals, otherTexts, List.filter_filterMap]
    refine congrArg OrderedMap.ofList (List.filterMap_congr fun e _ => ?_)
    obtain ⟨key, value⟩ := e
    cases hkey : key.text? with
    | none => simp [hkey]
    | some name =>
      cases hvalue : value.text? with
      | none => simp [hkey, hvalue]
      | some text =>
        by_cases hname : name = Key.groups <;> simp [hkey, hvalue, hname, Option.filter]
  rw [hglobals]
  exact OrderedMap.collects_ofList _

theorem completes_complete (definition : Mapping) (candidate : Variables) :
    Completes definition candidate (complete (globals definition) candidate) := by
  have hfill : complete (globals definition) candidate =
      OrderedMap.fill (globals definition).entries candidate := rfl
  have hcollects := collects_globals definition
  rw [hfill]
  constructor
  · rw [OrderedMap.keys_fill (globals definition).nodup, ← hcollects.keys]
    rfl
  · intro name value hvalue
    rw [OrderedMap.get?_fill, hvalue, Option.some_or]
  · intro name hname
    rw [OrderedMap.get?_fill, (OrderedMap.get?_eq_none_iff candidate name).mpr hname,
      Option.none_or]
    exact hcollects.value name

theorem settles_of_evaluate (h : evaluate vars = .ok final) : Settles vars final where
  keys := keys_evaluateNames h
  plain := by
    intro name value hvalue ht
    rw [get?_evaluateNames_of_settled h, hvalue]
    intro value' hvalue'
    rw [hvalue, Option.some.injEq] at hvalue'
    rwa [← hvalue']
  rendered := by
    intro name value hvalue ht
    obtain ⟨now, text, hturn, htext, hfinal⟩ := exists_turn_of_evaluate h hvalue ht
    obtain ⟨nodes, hnodes, hrender, -⟩ := renderValue_eq_ok_iff.mp htext
    exact ⟨now, nodes, text, hturn, hnodes, hrender, hfinal⟩
  settled := by
    intro name value hvalue
    refine isTemplated_eq_false_of_mem h ?_ hvalue
    rw [← keys_evaluateNames h, ← OrderedMap.contains_iff, OrderedMap.contains, hvalue]
    rfl

theorem evaluate_of_describe (h : describe vars = .ok d) : evaluate vars = .ok d.vars := by
  rw [describe] at h
  cases hfinal : evaluate vars with
  | error halt =>
    rw [hfinal] at h
    cases h
  | ok final =>
    rw [hfinal] at h
    simp only [Descriptor.ofVariables] at h
    split at h
    · split at h <;> cases h
      rfl
    · cases h

/-- A definition expands to one descriptor for each of its candidates, completed by the other keys
of the file and evaluated. It fails with the error of the first candidate that cannot be. -/
theorem descriptors_enumerate_candidates (definition : Mapping) :
    (∀ ds, descriptors definition = .ok ds → ∃ cs, candidates definition = .ok cs ∧
      Offers definition cs ∧
      List.Forall₂ (fun candidate (d : Descriptor) =>
        (∃ vars, Completes definition candidate vars ∧ Settles vars d.vars) ∧
        Key.dataSource ∈ d.vars.keys ∧ Key.queryNames ∈ d.vars.keys) cs ds) ∧
    ∀ cs, candidates definition = .ok cs → ∀ e, descriptors definition = .error e ↔
      ∃ before candidate after, cs = before ++ candidate :: after ∧
        (∀ c ∈ before, ∃ d, describe (complete (globals definition) c) = .ok d) ∧
        describe (complete (globals definition) candidate) = .error e := by
  constructor
  · intro ds h
    obtain ⟨cs, hcs, h⟩ := bind_eq_ok_iff.mp h
    refine ⟨cs, hcs, offers_of_candidates hcs, (mapM_eq_ok_iff.mp h).imp ?_⟩
    intro candidate d hd
    have hsettles := settles_of_evaluate (evaluate_of_describe hd)
    exact ⟨⟨_, completes_complete definition candidate, hsettles⟩,
      (OrderedMap.contains_iff _ _).mp d.hasDataSource,
      (OrderedMap.contains_iff _ _).mp d.hasQueryNames⟩
  · intro cs hcs e
    have hdescriptors : descriptors definition =
        cs.mapM fun candidate => describe (complete (globals definition) candidate) := by
      rw [descriptors, hcs]
      rfl
    rw [hdescriptors, mapM_eq_error_iff]

end Descriptors

/-- A definition with a group of four combinations and one of a single combination. -/
def Sample.sizes : Mapping :=
  [(.string "data-source", .string "d"), (.string "format", .string "csv"),
    (.string "variables", .mapping
      [(.string "small", .mapping [(.string "size", .string "1, 2"),
        (.string "format", .sequence [.string "txt", .string "orc"])]),
      (.string "large", .mapping [(.string "size", .string "10")])]),
    (.string "query-names", .string "q$\x7bsize\x7d")]

theorem descriptors_sample_enumerate_candidates :
    ∃ ds cs, descriptors Sample.sizes = .ok ds ∧ ds.length = 5 ∧ Offers Sample.sizes cs ∧
      List.Forall₂ (fun candidate (d : Descriptor) =>
        (∃ vars, Completes Sample.sizes candidate vars ∧ Settles vars d.vars) ∧
        Key.dataSource ∈ d.vars.keys ∧ Key.queryNames ∈ d.vars.keys) cs ds := by
  have hlength : (descriptors Sample.sizes).toOption.map List.length = some 5 := by decide +kernel
  obtain ⟨ds, hds, hfive⟩ := Option.map_eq_some_iff.mp hlength
  have hok : descriptors Sample.sizes = .ok ds := eq_ok_of_toOption hds
  obtain ⟨cs, -, hoffers, hall⟩ := (descriptors_enumerate_candidates Sample.sizes).1 ds hok
  exact ⟨ds, cs, hok, hfive, hoffers, hall⟩

end RunPlan.Definition
