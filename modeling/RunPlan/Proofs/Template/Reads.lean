import RunPlan.Template.Render
import RunPlan.Proofs.Outcome

/-!
Which variables a rendering looks at. Main statements: a rendering depends on no other variables,
and the value of every variable that is shown stands in the text that comes out.
-/

set_option autoImplicit false

namespace RunPlan.Template

/-- A look at the value of a variable: to show it, to test it, or to go through its items. -/
inductive Read
  | shown (name : String)
  | tested (name : String)
  | listed (name : String)
  deriving DecidableEq, Repr

def Read.name : Read → String
  | .shown name => name
  | .tested name => name
  | .listed name => name

def Read.isControl : Read → Bool
  | .shown _ => false
  | .tested _ => true
  | .listed _ => true

def Condition.name : Condition → String
  | .truthy name => name
  | .falsy name => name
  | .equals name _ => name
  | .differs name _ => name

def Scope.read (scope : Scope) (r : Read) : List Read :=
  if (scope.items.lookup r.name).isSome then [] else [r]

mutual

def Node.reads (scope : Scope) : Node → List Read
  | .text _ => []
  | .interpolation name _ => scope.read (.shown name)
  | .choice branches otherwise =>
    let (reads, done) := readsBranches scope branches
    if done then reads else reads ++ readsAll scope otherwise
  | .loop source item body =>
    scope.read (.listed source) ++
      (((scope.get? source).map Text.splitList).getD []).flatMap fun v =>
        readsAll (scope.push item v) body

def readsAll (scope : Scope) : List Node → List Read
  | [] => []
  | n :: ns => n.reads scope ++ readsAll scope ns

/-- The looks at variables while a branch is chosen and rendered, and whether there is one. -/
def readsBranches (scope : Scope) : List (Condition × List Node) → List Read × Bool
  | [] => ([], false)
  | (condition, body) :: rest =>
    let tests := scope.read (.tested condition.name)
    match condition.holds scope with
    | .ok true => (tests ++ readsAll scope body, true)
    | .ok false =>
      let (reads, done) := readsBranches scope rest
      (tests ++ reads, done)
    | .error _ => (tests, true)

end

section Congruence

variable {items : List (String × String)} {vars vars' : Variables}

private theorem Scope.get?_eq_of_read {r : Read}
    (h : ∀ r' ∈ Scope.read ⟨items, vars⟩ r, vars.get? r'.name = vars'.get? r'.name) :
    Scope.get? ⟨items, vars⟩ r.name = Scope.get? ⟨items, vars'⟩ r.name := by
  rw [Scope.get?, Scope.get?]
  cases hitem : items.lookup r.name with
  | some value => rfl
  | none =>
    have hr : r ∈ Scope.read ⟨items, vars⟩ r := by simp [Scope.read, hitem]
    rw [Option.none_or, Option.none_or, h r hr]

private theorem Condition.holds_eq_of_read {c : Condition}
    (h : ∀ r ∈ Scope.read ⟨items, vars⟩ (.tested c.name), vars.get? r.name = vars'.get? r.name) :
    c.holds ⟨items, vars⟩ = c.holds ⟨items, vars'⟩ := by
  have hget : Scope.get? ⟨items, vars⟩ c.name = Scope.get? ⟨items, vars'⟩ c.name :=
    Scope.get?_eq_of_read h
  cases c <;> simp only [Condition.name] at hget <;>
    simp only [Condition.holds, Scope.truthy, Scope.get, hget]

private theorem readsBranches_of_none {scope : Scope} {branches : List (Condition × List Node)}
    (h : renderBranches scope branches = .ok none) : (readsBranches scope branches).2 = false := by
  induction branches with
  | nil => rfl
  | cons branch rest ih =>
    obtain ⟨condition, body⟩ := branch
    rw [renderBranches] at h
    rw [readsBranches]
    cases hc : condition.holds scope with
    | error e =>
      rw [hc] at h
      cases h
    | ok holds =>
      rw [hc] at h
      cases holds with
      | false => exact ih h
      | true =>
        have hbody : (renderAll scope body).map some = .ok none := h
        cases hr : renderAll scope body <;> rw [hr] at hbody <;> cases hbody

mutual

private theorem Node.render_eq_of_reads (items : List (String × String)) (n : Node)
    (h : ∀ r ∈ n.reads ⟨items, vars⟩, vars.get? r.name = vars'.get? r.name) :
    n.render ⟨items, vars⟩ = n.render ⟨items, vars'⟩ := by
  match n with
  | .text s => rfl
  | .interpolation name default? =>
    have hget : Scope.get? ⟨items, vars⟩ name = Scope.get? ⟨items, vars'⟩ name :=
      Scope.get?_eq_of_read h
    simp only [Node.render, hget]
  | .choice branches otherwise =>
    rw [Node.reads] at h
    have hbranches := renderBranches_eq_of_reads items branches fun r hr => h r (by
      dsimp only
      split
      · exact hr
      · exact List.mem_append_left _ hr)
    rw [Node.render, Node.render, ← hbranches]
    cases hnone : renderBranches ⟨items, vars⟩ branches with
    | error e => rfl
    | ok text? =>
      cases text? with
      | some text => rfl
      | none =>
        refine renderAll_eq_of_reads items otherwise fun r hr => h r ?_
        dsimp only
        rw [readsBranches_of_none hnone]
        exact List.mem_append_right _ hr
  | .loop source item body =>
    rw [Node.reads] at h
    have hget : Scope.get? ⟨items, vars⟩ source = Scope.get? ⟨items, vars'⟩ source :=
      Scope.get?_eq_of_read fun r hr => h r (List.mem_append_left _ hr)
    rw [Node.render, Node.render, Scope.get, Scope.get, ← hget]
    cases hvalue : Scope.get? ⟨items, vars⟩ source with
    | none => rfl
    | some value =>
      have hparts : (Text.splitList value).mapM
          (fun v => renderAll (Scope.push ⟨items, vars⟩ item v) body) =
          (Text.splitList value).mapM
            fun v => renderAll (Scope.push ⟨items, vars'⟩ item v) body := by
        refine mapM_congr_of_mem fun v hv => ?_
        refine renderAll_eq_of_reads ((item, v) :: items) body fun r hr => h r ?_
        refine List.mem_append_right _ (List.mem_flatMap.mpr ⟨v, ?_, hr⟩)
        simpa [hvalue] using hv
      exact congrArg (fun parts => parts >>= fun ps => Except.ok (String.join ps)) hparts

theorem renderAll_eq_of_reads (items : List (String × String)) (ns : List Node)
    (h : ∀ r ∈ readsAll ⟨items, vars⟩ ns, vars.get? r.name = vars'.get? r.name) :
    renderAll ⟨items, vars⟩ ns = renderAll ⟨items, vars'⟩ ns := by
  match ns with
  | [] => rfl
  | n :: ns =>
    rw [readsAll] at h
    rw [renderAll, renderAll,
      Node.render_eq_of_reads items n fun r hr => h r (List.mem_append_left _ hr),
      renderAll_eq_of_reads items ns fun r hr => h r (List.mem_append_right _ hr)]

private theorem renderBranches_eq_of_reads (items : List (String × String))
    (branches : List (Condition × List Node))
    (h : ∀ r ∈ (readsBranches ⟨items, vars⟩ branches).1, vars.get? r.name = vars'.get? r.name) :
    renderBranches ⟨items, vars⟩ branches = renderBranches ⟨items, vars'⟩ branches := by
  match branches with
  | [] => rfl
  | (condition, body) :: rest =>
    rw [readsBranches] at h
    have hholds : condition.holds ⟨items, vars⟩ = condition.holds ⟨items, vars'⟩ := by
      refine Condition.holds_eq_of_read fun r hr => h r ?_
      dsimp only
      split
      · exact List.mem_append_left _ hr
      · exact List.mem_append_left _ hr
      · exact hr
    rw [renderBranches, renderBranches, ← hholds]
    cases hc : condition.holds ⟨items, vars⟩ with
    | error e => rfl
    | ok holds =>
      rw [hc] at h
      cases holds with
      | false =>
        exact renderBranches_eq_of_reads items rest fun r hr => h r (List.mem_append_right _ hr)
      | true =>
        show (renderAll _ body).map some = (renderAll _ body).map some
        rw [renderAll_eq_of_reads items body fun r hr => h r (List.mem_append_right _ hr)]

end

end Congruence

section Shown

variable {vars : Variables}

theorem Scope.mem_read_iff {scope : Scope} {r r' : Read} :
    r' ∈ scope.read r ↔ r' = r ∧ scope.items.lookup r.name = none := by
  rw [Scope.read]
  cases scope.items.lookup r.name <;> simp

private theorem shown_notMem_read {scope : Scope} {name : String} {r : Read}
    (h : r.isControl = true) : .shown name ∉ scope.read r := by
  intro hmem
  obtain ⟨rfl, -⟩ := Scope.mem_read_iff.mp hmem
  cases h

private theorem shown_notMem_of_none {scope : Scope} {name : String}
    {branches : List (Condition × List Node)} (h : renderBranches scope branches = .ok none) :
    .shown name ∉ (readsBranches scope branches).1 := by
  induction branches with
  | nil => simp [readsBranches]
  | cons branch rest ih =>
    obtain ⟨condition, body⟩ := branch
    rw [renderBranches] at h
    rw [readsBranches]
    have htest : .shown name ∉ scope.read (.tested condition.name) := shown_notMem_read rfl
    cases hc : condition.holds scope with
    | error e =>
      rw [hc] at h
      cases h
    | ok holds =>
      rw [hc] at h
      cases holds with
      | false =>
        intro hmem
        rcases List.mem_append.mp hmem with hmem | hmem
        · exact htest hmem
        · exact ih h hmem
      | true =>
        obtain ⟨text, -, htext⟩ := map_eq_ok_iff.mp h
        cases htext

private theorem readsBranches_of_some {scope : Scope} {text : String}
    {branches : List (Condition × List Node)}
    (h : renderBranches scope branches = .ok (some text)) :
    (readsBranches scope branches).2 = true := by
  induction branches with
  | nil => cases h
  | cons branch rest ih =>
    obtain ⟨condition, body⟩ := branch
    rw [renderBranches] at h
    rw [readsBranches]
    cases hc : condition.holds scope with
    | error e => rfl
    | ok holds =>
      rw [hc] at h
      cases holds with
      | false => exact ih h
      | true => rfl

private theorem infix_flatMap_of_mem {parts : List String} {part : String} (h : part ∈ parts) :
    part.toList <:+: parts.flatMap String.toList := by
  obtain ⟨before, after, rfl⟩ := List.append_of_mem h
  rw [List.flatMap_append, List.flatMap_cons, ← List.append_assoc]
  exact List.infix_append ..

mutual

private theorem Node.infix_of_shown (items : List (String × String)) (n : Node)
    {name text value : String}
    (h : n.render ⟨items, vars⟩ = .ok text) (hr : .shown name ∈ n.reads ⟨items, vars⟩)
    (hv : vars.get? name = some value) : value.toList <:+: text.toList := by
  match n with
  | .text s => simp [Node.reads] at hr
  | .interpolation shown default? =>
    rw [Node.reads] at hr
    obtain ⟨hname, hitem⟩ := Scope.mem_read_iff.mp hr
    cases hname
    have hget : Scope.get? ⟨items, vars⟩ name = some value := by
      have hitem' : items.lookup name = none := hitem
      rw [Scope.get?, hitem', hv, Option.none_or]
    simp only [Node.render, hget, Except.ok.injEq] at h
    subst h
    exact List.infix_rfl
  | .choice branches otherwise =>
    rw [Node.render] at h
    rw [Node.reads] at hr
    obtain ⟨text?, hbranches, h⟩ := bind_eq_ok_iff.mp h
    cases text? with
    | some text' =>
      cases h
      simp only [readsBranches_of_some hbranches, if_true] at hr
      exact renderBranches_infix_of_shown items branches hbranches hr hv
    | none =>
      simp only [readsBranches_of_none hbranches, Bool.false_eq_true, if_false] at hr
      rcases List.mem_append.mp hr with hr | hr
      · exact absurd hr (shown_notMem_of_none hbranches)
      · exact renderAll_infix_of_shown items otherwise h hr hv
  | .loop source item body =>
    rw [Node.render] at h
    rw [Node.reads] at hr
    obtain ⟨list, hlist, h⟩ := bind_eq_ok_iff.mp h
    obtain ⟨parts, hparts, h⟩ := bind_eq_ok_iff.mp h
    cases h
    rcases List.mem_append.mp hr with hr | hr
    · exact absurd hr (shown_notMem_read rfl)
    · obtain ⟨v, hmem, hr⟩ := List.mem_flatMap.mp hr
      have hsplit : v ∈ Text.splitList list := by
        cases hget : Scope.get? ⟨items, vars⟩ source with
        | none => simp [Scope.get, hget] at hlist
        | some list' =>
          simp only [Scope.get, hget, Except.ok.injEq] at hlist
          subst hlist
          simpa [hget] using hmem
      obtain ⟨part, hpart, hbody⟩ := exists_mem_of_mapM_eq_ok hparts hsplit
      have hbodyPart := renderAll_infix_of_shown ((item, v) :: items) body hbody hr hv
      rw [String.toList_join]
      exact hbodyPart.trans (infix_flatMap_of_mem hpart)

theorem renderAll_infix_of_shown (items : List (String × String)) (ns : List Node)
    {name text value : String} (h : renderAll ⟨items, vars⟩ ns = .ok text)
    (hr : .shown name ∈ readsAll ⟨items, vars⟩ ns) (hv : vars.get? name = some value) :
    value.toList <:+: text.toList := by
  match ns with
  | [] => simp [readsAll] at hr
  | n :: ns =>
    rw [renderAll] at h
    rw [readsAll] at hr
    obtain ⟨first, hfirst, h⟩ := bind_eq_ok_iff.mp h
    obtain ⟨rest, hrest, h⟩ := bind_eq_ok_iff.mp h
    cases h
    rw [String.toList_append]
    rcases List.mem_append.mp hr with hr | hr
    · exact (Node.infix_of_shown items n hfirst hr hv).trans (List.prefix_append _ _).isInfix
    · exact (renderAll_infix_of_shown items ns hrest hr hv).trans (List.suffix_append _ _).isInfix

private theorem renderBranches_infix_of_shown (items : List (String × String))
    (branches : List (Condition × List Node)) {name text value : String}
    (h : renderBranches ⟨items, vars⟩ branches = .ok (some text))
    (hr : .shown name ∈ (readsBranches ⟨items, vars⟩ branches).1)
    (hv : vars.get? name = some value) : value.toList <:+: text.toList := by
  match branches with
  | [] => cases h
  | (condition, body) :: rest =>
    rw [renderBranches] at h
    rw [readsBranches] at hr
    have htest : .shown name ∉ Scope.read ⟨items, vars⟩ (.tested condition.name) :=
      shown_notMem_read rfl
    cases hc : condition.holds ⟨items, vars⟩ with
    | error e =>
      rw [hc] at h
      cases h
    | ok holds =>
      rw [hc] at h hr
      cases holds with
      | false =>
        rcases List.mem_append.mp hr with hr | hr
        · exact absurd hr htest
        · exact renderBranches_infix_of_shown items rest h hr hv
      | true =>
        obtain ⟨text', hbody, htext⟩ := map_eq_ok_iff.mp h
        cases htext
        rcases List.mem_append.mp hr with hr | hr
        · exact absurd hr htest
        · exact renderAll_infix_of_shown items body hbody hr hv

end

end Shown

end RunPlan.Template
