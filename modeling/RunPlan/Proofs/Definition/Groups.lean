import RunPlan.Proofs.Definition.Expansion

/-!
What the groups of variables contribute to a definition. Main statements: the descriptors come from
the groups, group by group, and each binds the variables of its group; a group contributes none
exactly if one of its variables lists no value, and where no group contributes any there is one
descriptor that comes from none of them.
-/

set_option autoImplicit false

namespace RunPlan.Definition

open RunPlan.Yaml

/-- The descriptors of candidates, completed by the other keys of a definition. -/
def describeAll (definition : Mapping) (candidates : List Variables) :
    Except LoadError (List Descriptor) :=
  candidates.mapM fun candidate => describe (complete (globals definition) candidate)

/-- The descriptors that a group contributes to a definition: those of its combinations. -/
def contribution (definition : Mapping) (name group : Value) :
    Except LoadError (List Descriptor) := do
  let vars ← readGroup name group
  describeAll definition (combinations vars)

/-- The descriptors `block` are what a group contributes, and each of them binds its variables.
There is none exactly if one of the variables lists no value. -/
structure Contributes (definition : Mapping) (e : Value × Value) (block : List Descriptor) :
    Prop where
  given : contribution definition e.1 e.2 = .ok block
  declared : ∃ vars, IsGroup e.2 vars ∧
    (∀ d ∈ block, ∀ name ∈ vars.keys, name ∈ d.vars.keys) ∧
    (block = [] ↔ ∃ name, vars.get? name = some [])

variable {definition : Mapping} {groups : List (Value × Value)} {candidate : Variables}
  {vars : OrderedMap String (List String)} {d : Descriptor} {ds block : List Descriptor}

private theorem mem_keys_of_describe
    (h : describe (complete (globals definition) candidate) = .ok d)
    {name : String} (hname : name ∈ candidate.keys) : name ∈ d.vars.keys := by
  rw [(settles_of_evaluate (evaluate_of_describe h)).keys,
    (completes_complete definition candidate).keys]
  exact List.mem_append_left _ hname

private theorem contributes_of_readGroup {e : Value × Value} (hvars : readGroup e.1 e.2 = .ok vars)
    (hblock : describeAll definition (combinations vars) = .ok block) :
    Contributes definition e block where
  given := bind_eq_ok_iff.mpr ⟨vars, hvars, hblock⟩
  declared := by
    have hall := mapM_eq_ok_iff.mp hblock
    refine ⟨vars, isGroup_of_readGroup hvars, ?_, ?_⟩
    · have hkeys : ∀ candidate ∈ combinations vars, candidate.keys = vars.keys :=
        fun _ => keys_of_mem_combinations
      refine forall_mem_of_forall₂
        ((List.forall₂_and_left (combinations vars) block).mpr ⟨hkeys, hall⟩) ?_
      rintro candidate d ⟨hcandidate, hdescribe⟩ name hname
      exact mem_keys_of_describe hdescribe (hcandidate ▸ hname)
    · rw [← combinations_eq_nil_iff, ← List.length_eq_zero_iff, ← hall.length_eq,
        List.length_eq_zero_iff]

private theorem exists_described {found fallback : List Variables}
    (h : describeAll definition (if found.isEmpty then fallback else found) = .ok ds) :
    ∃ described, describeAll definition found = .ok described ∧
      (described ≠ [] → ds = described) ∧
      (described = [] → describeAll definition fallback = .ok ds) := by
  cases found with
  | nil => exact ⟨[], rfl, fun hne => absurd rfl hne, fun _ => h⟩
  | cons candidate found =>
    refine ⟨ds, h, fun _ => rfl, ?_⟩
    rintro rfl
    cases mapM_eq_ok_iff.mp h

/-- The descriptors of a definition with groups are those that its groups contribute, in order. If
none contributes any, there is the descriptor of the candidate that binds nothing. -/
theorem descriptors_come_from_groups
    (hgroups : definition.getText? Key.groups = some (.mapping groups))
    (h : descriptors definition = .ok ds) :
    ∃ blocks, List.Forall₂ (Contributes definition) groups blocks ∧
      (blocks.flatten ≠ [] → ds = blocks.flatten) ∧
      (blocks.flatten = [] → describeAll definition [∅] = .ok ds) := by
  obtain ⟨cs, hcs, hds⟩ := bind_eq_ok_iff.mp h
  rw [candidates, hgroups] at hcs
  obtain ⟨found, hfound, rfl⟩ := map_eq_ok_iff.mp hcs
  obtain ⟨varsOf, hvarsOf, rfl⟩ := readGroups_eq_ok_iff.mp hfound
  obtain ⟨described, hdescribed, hsome, hnone⟩ := exists_described hds
  obtain ⟨blocks, hblocks, rfl⟩ := mapM_flatMap_eq_ok_iff.mp hdescribed
  refine ⟨blocks, ?_, hsome, hnone⟩
  clear h hcs hfound hds hdescribed hsome hnone hgroups
  induction hvarsOf generalizing blocks with
  | nil =>
    cases hblocks
    exact List.Forall₂.nil
  | cons hvars _ ih =>
    cases hblocks with
    | cons hblock hblocks =>
      exact List.Forall₂.cons (contributes_of_readGroup hvars hblock) (ih _ hblocks)

/-- A definition with a group of two combinations and one whose variable lists no value. -/
def Sample.halfEmpty : Mapping :=
  [(.string "data-source", .string "d"), (.string "query-names", .string "q"),
    (.string "variables", .mapping
      [(.string "g", .mapping [(.string "a", .string " , ")]),
      (.string "h", .mapping [(.string "b", .string "1, 2")])])]

theorem descriptors_sample_come_from_groups :
    ∃ groups ds blocks, Sample.halfEmpty.getText? Key.groups = some (.mapping groups) ∧
      descriptors Sample.halfEmpty = .ok ds ∧ ds.length = 2 ∧
      List.Forall₂ (Contributes Sample.halfEmpty) groups blocks ∧ ds = blocks.flatten := by
  have hlength : (descriptors Sample.halfEmpty).toOption.map List.length = some 2 := by
    decide +kernel
  obtain ⟨ds, hds, htwo⟩ := Option.map_eq_some_iff.mp hlength
  have hok : descriptors Sample.halfEmpty = .ok ds := eq_ok_of_toOption hds
  obtain ⟨blocks, hblocks, hsome, hnone⟩ := descriptors_come_from_groups rfl hok
  refine ⟨_, ds, blocks, rfl, hok, htwo, hblocks, hsome fun hempty => ?_⟩
  have hone : [(∅ : Variables)].length = ds.length :=
    (mapM_eq_ok_iff.mp (hnone hempty)).length_eq
  rw [htwo] at hone
  cases hone

/-- A definition whose only group has one variable, which lists nothing but a null. -/
def Sample.nullItem : Mapping :=
  [(.string "data-source", .string "d"), (.string "query-names", .string "q"),
    (.string "variables", .mapping [(.string "g", .mapping [(.string "a", .sequence [.null])])])]

/-- Not every group of a definition that expands contributes a descriptor. -/
theorem not_forall_groups_contribute :
    ¬ ∀ (definition : Mapping) groups ds,
      definition.getText? Key.groups = some (.mapping groups) → groups ≠ [] →
      descriptors definition = .ok ds →
      ∃ blocks : List (List Descriptor), ds = blocks.flatten ∧
        List.Forall₂ (fun e block => block ≠ [] ∧ ∀ d ∈ block, ∀ entries, e.2 = .mapping entries →
          ∀ v ∈ entries, v.1.textOrEmpty ∈ d.vars.keys) groups blocks := by
  intro hall
  have hunbound : (descriptors Sample.nullItem).toOption.map
      (fun ds => ds.map fun d => d.vars.keys.contains "a") = some [false] := by
    decide +kernel
  obtain ⟨ds, hds, hkeys⟩ := Option.map_eq_some_iff.mp hunbound
  obtain ⟨blocks, rfl, hblocks⟩ := hall Sample.nullItem _ ds rfl (List.cons_ne_nil _ _)
    (eq_ok_of_toOption hds)
  obtain ⟨block, rest, ⟨hne, hbinds⟩, hrest, rfl⟩ := List.forall₂_cons_left_iff.mp hblocks
  cases hrest
  obtain ⟨d, more, rfl⟩ := List.exists_cons_of_ne_nil hne
  have hbound : "a" ∈ d.vars.keys :=
    hbinds d List.mem_cons_self _ rfl _ (List.mem_singleton_self _)
  simp [hbound] at hkeys

end RunPlan.Definition
