import RunPlan.Template.Compile
import RunPlan.Proofs.Template.FreeNames

/-!
Uses of a name outside the loops that bind it. Main statement: a rendering depends on no other
names, so variables that agree where a template uses them freely give the same text or the same
fault.
-/

set_option autoImplicit false

namespace RunPlan.Template

/-- A node uses a name at a place where none of its loops binds it: it shows the name, tests it, or
goes through its items. The source of a loop stands outside that loop, and a use counts whether or
not a rendering comes to it. -/
inductive Node.UsesFreely (name : String) : Node → Prop
  | shown (default? : Option String) : UsesFreely name (.interpolation name default?)
  | tested {condition : Condition} {body otherwise : List Node}
      {branches : List (Condition × List Node)} (hbranch : (condition, body) ∈ branches)
      (hname : condition.name = name) : UsesFreely name (.choice branches otherwise)
  | inBranch {condition : Condition} {body otherwise : List Node} {n : Node}
      {branches : List (Condition × List Node)} (hbranch : (condition, body) ∈ branches)
      (hn : n ∈ body) (huse : UsesFreely name n) : UsesFreely name (.choice branches otherwise)
  | inOtherwise {otherwise : List Node} {n : Node} (branches : List (Condition × List Node))
      (hn : n ∈ otherwise) (huse : UsesFreely name n) : UsesFreely name (.choice branches otherwise)
  | listed (item : String) (body : List Node) : UsesFreely name (.loop name item body)
  | inLoop {item : String} {body : List Node} {n : Node} (source : String) (hitem : name ≠ item)
      (hn : n ∈ body) (huse : UsesFreely name n) : UsesFreely name (.loop source item body)

section Uses

variable {name : String}

private theorem Node.not_usesFreely_text {s : String} : ¬ (Node.text s).UsesFreely name := by
  intro h
  cases h

private theorem Node.usesFreely_interpolation_iff {shown : String} {default? : Option String} :
    (Node.interpolation shown default?).UsesFreely name ↔ shown = name := by
  constructor
  · intro h
    cases h
    rfl
  · rintro rfl
    exact .shown default?

private theorem Node.usesFreely_choice_iff {branches : List (Condition × List Node)}
    {otherwise : List Node} : (Node.choice branches otherwise).UsesFreely name ↔
      (∃ branch ∈ branches, branch.1.name = name ∨ ∃ n ∈ branch.2, n.UsesFreely name) ∨
        ∃ n ∈ otherwise, n.UsesFreely name := by
  constructor
  · intro h
    cases h with
    | tested hbranch hname => exact Or.inl ⟨_, hbranch, Or.inl hname⟩
    | inBranch hbranch hn huse => exact Or.inl ⟨_, hbranch, Or.inr ⟨_, hn, huse⟩⟩
    | inOtherwise _ hn huse => exact Or.inr ⟨_, hn, huse⟩
  · rintro (⟨⟨condition, body⟩, hbranch, hname | ⟨n, hn, huse⟩⟩ | ⟨n, hn, huse⟩)
    · exact .tested hbranch hname
    · exact .inBranch hbranch hn huse
    · exact .inOtherwise branches hn huse

private theorem Node.usesFreely_loop_iff {source item : String} {body : List Node} :
    (Node.loop source item body).UsesFreely name ↔
      source = name ∨ (∃ n ∈ body, n.UsesFreely name) ∧ name ≠ item := by
  constructor
  · intro h
    cases h with
    | listed => exact Or.inl rfl
    | inLoop _ hitem hn huse => exact Or.inr ⟨⟨_, hn, huse⟩, hitem⟩
  · rintro (rfl | ⟨⟨n, hn, huse⟩, hitem⟩)
    · exact .listed item body
    · exact .inLoop source hitem hn huse

private theorem mem_freeName_iff {bound : List String} {used : String} :
    name ∈ freeName bound used ↔ used = name ∧ name ∉ bound := by
  by_cases hbound : used ∈ bound
  · rw [freeName, if_pos hbound]
    simp only [List.not_mem_nil, false_iff, not_and, not_not]
    rintro rfl
    exact hbound
  · rw [freeName, if_neg hbound, List.mem_singleton]
    constructor
    · rintro rfl
      exact ⟨rfl, hbound⟩
    · exact fun h => h.1.symm

mutual

/-- The free names of a node are those that it uses freely, as far as no loop around it binds
them. -/
theorem Node.mem_freeNames_iff (bound : List String) (n : Node) :
    name ∈ n.freeNames bound ↔ n.UsesFreely name ∧ name ∉ bound := by
  match n with
  | .text s => simp only [Node.freeNames, List.not_mem_nil, Node.not_usesFreely_text, false_and]
  | .interpolation shown default? =>
    rw [Node.freeNames, mem_freeName_iff, Node.usesFreely_interpolation_iff]
  | .choice branches otherwise =>
    rw [Node.freeNames, List.mem_append, mem_freeNamesBranches_iff bound branches,
      mem_freeNamesAll_iff bound otherwise, Node.usesFreely_choice_iff, or_and_right]
  | .loop source item body =>
    -- the item is bound in the body only, so the source is asked about the loops around alone
    rw [Node.freeNames, List.mem_append, mem_freeName_iff,
      mem_freeNamesAll_iff (item :: bound) body, Node.usesFreely_loop_iff, List.mem_cons, not_or,
      or_and_right, and_assoc]

private theorem mem_freeNamesAll_iff (bound : List String) (ns : List Node) :
    name ∈ freeNamesAll bound ns ↔ (∃ n ∈ ns, n.UsesFreely name) ∧ name ∉ bound := by
  match ns with
  | [] => simp only [freeNamesAll, List.not_mem_nil, false_and, exists_false]
  | n :: ns =>
    rw [freeNamesAll, List.mem_append, Node.mem_freeNames_iff bound n,
      mem_freeNamesAll_iff bound ns, List.exists_mem_cons_iff, or_and_right]

private theorem mem_freeNamesBranches_iff (bound : List String)
    (branches : List (Condition × List Node)) :
    name ∈ freeNamesBranches bound branches ↔
      (∃ branch ∈ branches, branch.1.name = name ∨ ∃ n ∈ branch.2, n.UsesFreely name) ∧
        name ∉ bound := by
  match branches with
  | [] => simp only [freeNamesBranches, List.not_mem_nil, false_and, exists_false]
  | (condition, body) :: rest =>
    rw [freeNamesBranches, List.mem_append, List.mem_append, mem_freeName_iff,
      mem_freeNamesAll_iff bound body, mem_freeNamesBranches_iff bound rest,
      List.exists_mem_cons_iff, or_and_right, or_and_right, or_assoc]

end

instance (n : Node) : Decidable (n.UsesFreely name) :=
  decidable_of_iff (name ∈ n.freeNames []) (by simp [Node.mem_freeNames_iff])

end Uses

/-- The item of a loop is not free inside the loop, and its source is. -/
example : ¬ (Node.loop "n" "a" [.interpolation "a" none]).UsesFreely "a" ∧
    (Node.loop "a" "a" [.interpolation "a" none]).UsesFreely "a" := by decide

/-- Variables that agree on every name that a template uses freely give the same text, or the same
fault. -/
theorem render_reads_free_names {nodes : List Node} {vars vars' : Variables}
    (h : ∀ n ∈ nodes, ∀ name, n.UsesFreely name → vars.get? name = vars'.get? name) :
    render nodes vars = render nodes vars' := by
  refine render_eq_of_freeNames fun name hfree => ?_
  obtain ⟨⟨n, hn, huse⟩, -⟩ := (mem_freeNamesAll_iff [] nodes).mp hfree
  exact h n hn name huse

/-- A template that lists hosts, and in one mode shows a variable behind them. -/
def Sample.listing : String :=
  "<#list hosts as host>$\x7bhost\x7d;</#list><#if mode == \"full\">$\x7brest\x7d</#if>"

def Sample.listingNodes : List Node :=
  [.loop "hosts" "host" [.interpolation "host" none, .text ";"],
    .choice [(.equals "mode" "full", [.interpolation "rest" none])] []]

def Sample.withHost (mode : String) : Variables :=
  .ofList [("host", "x"), ("hosts", "a, b"), ("mode", mode)]

/-- The same variables for the template: the item's name is undefined, and one more is not used. -/
def Sample.withoutHost (mode : String) : Variables :=
  .ofList [("more", "y"), ("mode", mode), ("hosts", "a, b")]

private theorem Sample.compile_listing : compile Sample.listing = .ok Sample.listingNodes := by
  have htokens : tokenize Sample.listing.toList =
      .ok [.listStart "hosts as host".toList, .interpolation "host".toList, .text [';'], .listEnd,
        .ifStart "mode == \"full\"".toList, .interpolation "rest".toList, .ifEnd] := by
    decide +kernel
  rw [compile, htokens]
  rfl

private theorem Sample.get?_eq_of_usesFreely (mode : String) {n : Node}
    (hn : n ∈ Sample.listingNodes)
    {name : String} (huse : n.UsesFreely name) :
    (Sample.withHost mode).get? name = (Sample.withoutHost mode).get? name := by
  have hfree : name ∈ freeNamesAll [] Sample.listingNodes :=
    (mem_freeNamesAll_iff [] _).mpr ⟨⟨n, hn, huse⟩, List.not_mem_nil⟩
  have hnames : freeNamesAll [] Sample.listingNodes = ["hosts", "mode", "rest"] := by decide
  rw [hnames] at hfree
  simp only [List.mem_cons, List.not_mem_nil, or_false] at hfree
  rcases hfree with rfl | rfl | rfl <;> rfl

theorem render_sample_reads_free_names :
    compile Sample.listing = .ok Sample.listingNodes ∧
      (Sample.withHost "brief").get? "host" ≠ (Sample.withoutHost "brief").get? "host" ∧
      (∀ mode, ∀ n ∈ Sample.listingNodes, ∀ name, n.UsesFreely name →
        (Sample.withHost mode).get? name = (Sample.withoutHost mode).get? name) ∧
      render Sample.listingNodes (Sample.withHost "brief") = .ok "a;b;" ∧
      render Sample.listingNodes (Sample.withoutHost "brief") = .ok "a;b;" ∧
      render Sample.listingNodes (Sample.withHost "full") = .error (.undefined "rest") ∧
      render Sample.listingNodes (Sample.withoutHost "full") = .error (.undefined "rest") := by
  have hagree : ∀ mode, ∀ n ∈ Sample.listingNodes, ∀ name, n.UsesFreely name →
      (Sample.withHost mode).get? name = (Sample.withoutHost mode).get? name :=
    fun mode _ hn _ huse => Sample.get?_eq_of_usesFreely mode hn huse
  have hhost : (Sample.withHost "brief").get? "host" ≠
      (Sample.withoutHost "brief").get? "host" := by
    decide +kernel
  have htext : render Sample.listingNodes (Sample.withHost "brief") = .ok "a;b;" := by
    decide +kernel
  have hfault : render Sample.listingNodes (Sample.withHost "full") =
      .error (.undefined "rest") := by
    decide +kernel
  have hbrief := render_reads_free_names (hagree "brief")
  have hfull := render_reads_free_names (hagree "full")
  exact ⟨Sample.compile_listing, hhost, hagree, htext, hbrief ▸ htext, hfault, hfull ▸ hfault⟩

end RunPlan.Template
