import RunPlan.Definition.Expansion
import RunPlan.Proofs.OrderedMap
import Mathlib.Algebra.BigOperators.Ring.List
import Mathlib.Algebra.Ring.Nat
import Mathlib.Data.List.Forall2

/-!
The combinations of the values of a group. Main statements: they are the choices of one position in
the values of each variable, in the lexicographic order of the positions, and there are as many as
the product of the numbers of values; there is none exactly if a variable lists no value.
-/

set_option autoImplicit false

namespace RunPlan.Definition

/-- One position within the values of each variable. -/
def Within (vars : List (String × List String)) (places : List Nat) : Prop :=
  List.Forall₂ (fun v p => p < v.2.length) vars places

def pick (vars : List (String × List String)) (places : List Nat) : List (String × String) :=
  vars.zipWith (fun v p => (v.1, v.2[p]?.getD "")) places

def positions : List (String × List String) → List (List Nat)
  | [] => [[]]
  | v :: vars =>
    (List.range v.2.length).flatMap fun p => (positions vars).map fun places => p :: places

/-- Candidates that bind the variables of a group, one for each choice of positions, in the
lexicographic order of the positions. -/
structure Combines (group : OrderedMap String (List String)) (candidates : List Variables) :
    Prop where
  ordered : ∃ choices : List (List Nat), choices.Pairwise (· < ·) ∧
    (∀ places, places ∈ choices ↔ Within group.entries places) ∧
    candidates.map OrderedMap.entries = choices.map (pick group.entries)
  length : candidates.length = (group.values.map List.length).prod
  unbound : group.entries = [] → candidates = [∅]

private theorem mem_positions_iff {vars : List (String × List String)} {places : List Nat} :
    places ∈ positions vars ↔ Within vars places := by
  induction vars generalizing places with
  | nil =>
    rw [positions, List.mem_singleton, Within, List.forall₂_nil_left_iff]
  | cons v vars ih =>
    simp only [positions, List.mem_flatMap, List.mem_range, List.mem_map, ih]
    rw [Within, List.forall₂_cons_left_iff]
    constructor
    · rintro ⟨p, hp, rest, hrest, rfl⟩
      exact ⟨p, rest, hp, hrest, rfl⟩
    · rintro ⟨p, rest, hp, hrest, rfl⟩
      exact ⟨p, hp, rest, hrest, rfl⟩

private theorem pairwise_positions (vars : List (String × List String)) :
    (positions vars).Pairwise (· < ·) := by
  induction vars with
  | nil => exact List.pairwise_singleton _ _
  | cons v vars ih =>
    rw [positions, List.pairwise_flatMap]
    constructor
    · intro p _
      rw [List.pairwise_map]
      exact ih.imp fun h => List.cons_lt_cons_iff.mpr (Or.inr ⟨rfl, h⟩)
    · refine List.pairwise_lt_range.imp fun hpq xs hxs ys hys => ?_
      obtain ⟨rest, -, rfl⟩ := List.mem_map.mp hxs
      obtain ⟨rest', -, rfl⟩ := List.mem_map.mp hys
      exact List.cons_lt_cons_iff.mpr (Or.inl hpq)

private theorem length_positions (vars : List (String × List String)) :
    (positions vars).length = (vars.map fun v => v.2.length).prod := by
  induction vars with
  | nil => rfl
  | cons v vars ih =>
    rw [positions, List.length_flatMap, List.map_cons, List.prod_cons, ← ih]
    simp only [List.length_map, List.map_const', List.length_range, List.sum_replicate_nat]

private theorem map_range_getD (values : List String) :
    (List.range values.length).map (fun p => values[p]?.getD "") = values := by
  refine List.ext_getElem (by simp) fun p hp hp' => ?_
  simp [hp']

private theorem choices_eq_map_pick (vars : List (String × List String)) :
    choices vars = (positions vars).map (pick vars) := by
  induction vars with
  | nil => rfl
  | cons v vars ih =>
    obtain ⟨name, values⟩ := v
    have hvalues : choices ((name, values) :: vars) =
        ((List.range values.length).map fun p => values[p]?.getD "").flatMap fun value =>
          (choices vars).map fun choice => (name, value) :: choice := by
      rw [map_range_getD, choices]
    rw [hvalues, List.flatMap_map, positions, List.map_flatMap]
    refine List.flatMap_congr fun p _ => ?_
    rw [ih, List.map_map, List.map_map]
    rfl

private theorem map_fst_of_mem_choices {vars : List (String × List String)}
    {choice : List (String × String)} (h : choice ∈ choices vars) :
    choice.map Prod.fst = vars.map Prod.fst := by
  induction vars generalizing choice with
  | nil =>
    rw [choices, List.mem_singleton] at h
    subst h
    rfl
  | cons v vars ih =>
    obtain ⟨name, values⟩ := v
    simp only [choices, List.mem_flatMap, List.mem_map] at h
    obtain ⟨value, -, rest, hrest, rfl⟩ := h
    rw [List.map_cons, List.map_cons, ih hrest]

private theorem entries_combinations (group : OrderedMap String (List String)) :
    (combinations group).map OrderedMap.entries = choices group.entries := by
  rw [combinations, List.map_map]
  have hentries : ∀ choice ∈ choices group.entries,
      (OrderedMap.entries ∘ OrderedMap.ofList) choice = id choice := by
    intro choice hchoice
    refine OrderedMap.entries_ofList ?_
    rw [map_fst_of_mem_choices hchoice]
    exact group.nodup
  rw [List.map_congr_left hentries, List.map_id]

theorem combines_combinations (group : OrderedMap String (List String)) :
    Combines group (combinations group) where
  ordered := by
    refine ⟨positions group.entries, pairwise_positions _, fun _ => mem_positions_iff, ?_⟩
    rw [entries_combinations, choices_eq_map_pick]
  length := by
    have hentries := congrArg List.length (entries_combinations group)
    rw [List.length_map] at hentries
    rw [hentries, choices_eq_map_pick, List.length_map, length_positions, OrderedMap.values,
      List.map_map]
    rfl
  unbound := by
    intro h
    rw [combinations, h]
    rfl

theorem keys_of_mem_combinations {group : OrderedMap String (List String)} {candidate : Variables}
    (h : candidate ∈ combinations group) : candidate.keys = group.keys := by
  refine map_fst_of_mem_choices ?_
  rw [← entries_combinations]
  exact List.mem_map_of_mem h

theorem combinations_eq_nil_iff {group : OrderedMap String (List String)} :
    combinations group = [] ↔ ∃ name, group.get? name = some [] := by
  rw [← List.length_eq_zero_iff, (combines_combinations group).length, List.prod_eq_zero_iff,
    List.mem_map]
  simp only [OrderedMap.get?_eq_some_iff, List.length_eq_zero_iff, exists_eq_right]
  rw [OrderedMap.values, List.mem_map]
  constructor
  · rintro ⟨⟨name, values⟩, hmem, rfl⟩
    exact ⟨name, hmem⟩
  · rintro ⟨name, hmem⟩
    exact ⟨(name, []), hmem, rfl⟩

end RunPlan.Definition
