import RunPlan.Proofs.Template.Reads

/-!
The names that a template uses as variables. Main statement: whatever the variables hold, a
rendering looks at no variable but those that the template names outside the loops that bind the
name.
-/

set_option autoImplicit false

namespace RunPlan.Template

/-- A name that is used inside loops, unless it is the item of one of them. -/
def freeName (bound : List String) (name : String) : List String :=
  if name ∈ bound then [] else [name]

mutual

/-- The names that a node uses in interpolations, conditions and list sources, without those that
a loop binds there: the loops around the node, which bind `bound`, and those inside it. -/
def Node.freeNames (bound : List String) : Node → List String
  | .text _ => []
  | .interpolation name _ => freeName bound name
  | .choice branches otherwise => freeNamesBranches bound branches ++ freeNamesAll bound otherwise
  | .loop source item body => freeName bound source ++ freeNamesAll (item :: bound) body

def freeNamesAll (bound : List String) : List Node → List String
  | [] => []
  | n :: ns => n.freeNames bound ++ freeNamesAll bound ns

def freeNamesBranches (bound : List String) : List (Condition × List Node) → List String
  | [] => []
  | (condition, body) :: rest =>
    freeName bound condition.name ++ (freeNamesAll bound body ++ freeNamesBranches bound rest)

end

section Reads

variable {vars : Variables} {r : Read}

private theorem Scope.mem_freeName_of_mem_read {items : List (String × String)} {r' : Read}
    (h : r ∈ Scope.read ⟨items, vars⟩ r') : r.name ∈ freeName (items.map Prod.fst) r'.name := by
  obtain ⟨rfl, hlookup⟩ := Scope.mem_read_iff.mp h
  have hfree : r.name ∉ items.map Prod.fst := by
    intro hmem
    obtain ⟨⟨name, value⟩, hitem, hname⟩ := List.mem_map.mp hmem
    have hne := List.lookup_eq_none_iff.mp hlookup (name, value) hitem
    simp [← hname] at hne
  rw [freeName, if_neg hfree]
  exact List.mem_singleton_self _

mutual

private theorem Node.mem_freeNames_of_mem_reads (items : List (String × String)) (n : Node)
    (h : r ∈ n.reads ⟨items, vars⟩) : r.name ∈ n.freeNames (items.map Prod.fst) := by
  match n with
  | .text s =>
    rw [Node.reads] at h
    cases h
  | .interpolation name default? =>
    rw [Node.reads] at h
    exact Scope.mem_freeName_of_mem_read h
  | .choice branches otherwise =>
    rw [Node.freeNames, List.mem_append]
    have hparts : r ∈ (readsBranches ⟨items, vars⟩ branches).1 ∨
        r ∈ readsAll ⟨items, vars⟩ otherwise := by
      rw [Node.reads] at h
      dsimp only at h
      split at h
      · exact Or.inl h
      · exact List.mem_append.mp h
    exact hparts.imp (mem_freeNamesBranches_of_mem_reads items branches)
      (mem_freeNamesAll_of_mem_reads items otherwise)
  | .loop source item body =>
    rw [Node.reads, List.mem_append] at h
    rw [Node.freeNames, List.mem_append]
    refine h.imp Scope.mem_freeName_of_mem_read fun h => ?_
    obtain ⟨value, -, hbody⟩ := List.mem_flatMap.mp h
    exact mem_freeNamesAll_of_mem_reads ((item, value) :: items) body hbody

private theorem mem_freeNamesAll_of_mem_reads (items : List (String × String)) (ns : List Node)
    (h : r ∈ readsAll ⟨items, vars⟩ ns) : r.name ∈ freeNamesAll (items.map Prod.fst) ns := by
  match ns with
  | [] =>
    rw [readsAll] at h
    cases h
  | n :: ns =>
    rw [readsAll, List.mem_append] at h
    rw [freeNamesAll, List.mem_append]
    exact h.imp (Node.mem_freeNames_of_mem_reads items n) (mem_freeNamesAll_of_mem_reads items ns)

private theorem mem_freeNamesBranches_of_mem_reads (items : List (String × String))
    (branches : List (Condition × List Node))
    (h : r ∈ (readsBranches ⟨items, vars⟩ branches).1) :
    r.name ∈ freeNamesBranches (items.map Prod.fst) branches := by
  match branches with
  | [] =>
    rw [readsBranches] at h
    cases h
  | (condition, body) :: rest =>
    rw [freeNamesBranches, List.mem_append, List.mem_append]
    rw [readsBranches] at h
    dsimp only at h
    split at h
    · exact (List.mem_append.mp h).imp Scope.mem_freeName_of_mem_read fun h =>
        Or.inl (mem_freeNamesAll_of_mem_reads items body h)
    · exact (List.mem_append.mp h).imp Scope.mem_freeName_of_mem_read fun h =>
        Or.inr (mem_freeNamesBranches_of_mem_reads items rest h)
    · exact Or.inl (Scope.mem_freeName_of_mem_read h)

end

end Reads

theorem render_eq_of_freeNames {nodes : List Node} {vars vars' : Variables}
    (h : ∀ name ∈ freeNamesAll [] nodes, vars.get? name = vars'.get? name) :
    render nodes vars = render nodes vars' := by
  refine renderAll_eq_of_reads [] nodes fun r hr => ?_
  exact h r.name (mem_freeNamesAll_of_mem_reads [] nodes hr)

end RunPlan.Template
