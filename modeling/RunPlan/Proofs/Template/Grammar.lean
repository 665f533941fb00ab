import RunPlan.Template.Compile
import RunPlan.Proofs.Outcome

/-!
The grammar of templates. A token sequence is a template where it is the yield of a block: texts,
interpolations and directives one after the other, each directive with the blocks inside it. Main
statement: nesting accepts exactly the yields of blocks whose expressions can be read on their own,
a sequence is the yield of one block at most, and what comes out is the node tree of that block.
-/

set_option autoImplicit false

namespace RunPlan.Template

mutual

/-- A block as it is written. -/
inductive Block
  | done
  | text (cs : List Char) (rest : Block)
  | interpolation (expression : List Char) (rest : Block)
  | choice (condition : List Char) (body : Block) (tail : Tail) (rest : Block)
  | loop (header : List Char) (body : Block) (rest : Block)

/-- What follows the first body of a conditional part, up to its end. -/
inductive Tail
  | elseIf (condition : List Char) (body : Block) (tail : Tail)
  | otherwise (body : Block)
  | close

end

mutual

def Block.tokens : Block → List Token
  | .done => []
  | .text cs rest => .text cs :: rest.tokens
  | .interpolation e rest => .interpolation e :: rest.tokens
  | .choice c body tail rest => .ifStart c :: (body.tokens ++ (tail.tokens ++ rest.tokens))
  | .loop h body rest => .listStart h :: (body.tokens ++ .listEnd :: rest.tokens)

def Tail.tokens : Tail → List Token
  | .elseIf c body tail => .elseIf c :: (body.tokens ++ tail.tokens)
  | .otherwise body => .otherwise :: (body.tokens ++ [.ifEnd])
  | .close => [.ifEnd]

end

mutual

/-- The node tree of a block, or the fault of its first expression that cannot be read. -/
def Block.nodes : Block → Except Fault (List Node)
  | .done => .ok []
  | .text cs rest => do
    let nodes ← rest.nodes
    return .text (String.ofList cs) :: nodes
  | .interpolation e rest => do
    let node ← readInterpolation e
    let nodes ← rest.nodes
    return node :: nodes
  | .choice c body tail rest => do
    let condition ← readCondition c
    let first ← body.nodes
    let (branches, otherwise) ← tail.branches
    let nodes ← rest.nodes
    return .choice ((condition, first) :: branches) otherwise :: nodes
  | .loop h body rest => do
    let (source, item) ← readListHeader h
    let inner ← body.nodes
    let nodes ← rest.nodes
    return .loop source item inner :: nodes

/-- The further branches of a conditional part, and what is rendered where no branch is. -/
def Tail.branches : Tail → Except Fault (List (Condition × List Node) × List Node)
  | .elseIf c body tail => do
    let condition ← readCondition c
    let inner ← body.nodes
    let (branches, otherwise) ← tail.branches
    return ((condition, inner) :: branches, otherwise)
  | .otherwise body => body.nodes.map fun inner => ([], inner)
  | .close => .ok ([], [])

end

/-- Whether the expression inside a token can be read, whatever stands around the token. -/
def Token.IsReadable : Token → Prop
  | .interpolation e => ∃ node, readInterpolation e = .ok node
  | .ifStart c => ∃ condition, readCondition c = .ok condition
  | .elseIf c => ∃ condition, readCondition c = .ok condition
  | .listStart h => ∃ header, readListHeader h = .ok header
  | .text _ | .otherwise | .ifEnd | .listEnd => True

section Nesting

mutual

/-- The tokens of a block put its nodes behind those that stand before it, and nothing else. -/
theorem nest_block (b : Block) (rest : List Token) (stack : List Frame) (nodes : List Node) :
    nest (b.tokens ++ rest) stack nodes =
      b.nodes >>= fun inner => nest rest stack (nodes ++ inner) := by
  match b with
  | .done =>
    show nest rest stack nodes = nest rest stack (nodes ++ [])
    rw [List.append_nil]
  | .text cs later =>
    simp only [Block.tokens, Block.nodes, List.cons_append, nest, nest_block later, bind_assoc,
      pure_bind, List.append_assoc, List.nil_append]
  | .interpolation e later =>
    simp only [Block.tokens, Block.nodes, List.cons_append, nest, nest_block later, bind_assoc,
      pure_bind, List.append_assoc, List.nil_append]
  | .choice c body tail later =>
    simp only [Block.tokens, Block.nodes, List.cons_append, nest, nest_block body, nest_tail tail,
      nest_block later, bind_assoc, pure_bind, List.append_assoc, List.nil_append]
  | .loop h body later =>
    simp only [Block.tokens, Block.nodes, List.cons_append, nest, nest_block body,
      nest_block later, bind_assoc, pure_bind, List.append_assoc, List.nil_append]

private theorem nest_tail (t : Tail) (rest : List Token) (stack : List Frame)
    (done : List (Condition × List Node)) (condition : Condition) (outer nodes : List Node) :
    nest (t.tokens ++ rest) (.branch done condition outer :: stack) nodes =
      t.branches >>= fun found =>
        nest rest stack (outer ++ [.choice (done ++ (condition, nodes) :: found.1) found.2]) := by
  match t with
  | .elseIf c body tail =>
    simp only [Tail.tokens, Tail.branches, List.cons_append, nest, nest_block body, nest_tail tail,
      bind_assoc, pure_bind, List.append_assoc, List.nil_append]
  | .otherwise body =>
    simp only [Tail.tokens, Tail.branches, List.cons_append, nest, nest_block body,
      List.append_assoc]
    cases body.nodes <;> rfl
  | .close => rfl

end

/-- What is still to come of an open directive, behind the block that is being read. -/
inductive Ends : Frame → List Token → Prop
  | branch {done condition outer} (tail : Tail) : Ends (.branch done condition outer) tail.tokens
  | otherwise {branches outer} : Ends (.otherwise branches outer) [.ifEnd]
  | loop {header source item outer} : Ends (.loop header source item outer) [.listEnd]

/-- What is still to come where directives are open: the rest of a block, the end of the innermost
directive, and the same for the directives around it. -/
inductive Closes : List Frame → List Token → Prop
  | outermost (b : Block) : Closes [] b.tokens
  | within {f : Frame} {stack : List Frame} {ending rest : List Token} (b : Block)
      (hending : Ends f ending) (hrest : Closes stack rest) :
      Closes (f :: stack) (b.tokens ++ (ending ++ rest))

private theorem Closes.ending {f : Frame} {stack : List Frame} {ending rest : List Token}
    (hrest : Closes stack rest) (hending : Ends f ending) :
    Closes (f :: stack) (ending ++ rest) :=
  .within .done hending hrest

private theorem Closes.prepend {stack : List Frame} {ts : List Token} (h : Closes stack ts)
    (front : List Token) (f : Block → Block) (hf : ∀ b, (f b).tokens = front ++ b.tokens) :
    Closes stack (front ++ ts) := by
  cases h with
  | outermost b =>
    rw [← hf]
    exact .outermost (f b)
  | within b hending hrest =>
    rw [← List.append_assoc, ← hf]
    exact .within (f b) hending hrest

theorem closes_of_nest {ts : List Token} {stack : List Frame} {nodes result : List Node}
    (h : nest ts stack nodes = .ok result) : Closes stack ts := by
  induction ts, stack, nodes using nest.induct with
  | case1 nodes => exact .outermost .done
  | case2 f stack nodes => cases h
  | case3 cs ts stack nodes ih =>
    exact (ih h).prepend [.text cs] (.text cs) fun _ => rfl
  | case4 e ts stack nodes ih =>
    obtain ⟨node, -, h⟩ := bind_eq_ok_iff.mp h
    exact (ih node h).prepend [.interpolation e] (.interpolation e) fun _ => rfl
  | case5 c ts stack nodes ih =>
    obtain ⟨condition, -, h⟩ := bind_eq_ok_iff.mp h
    cases ih condition h with
    | within b hending hrest =>
      cases hending with
      | branch tail =>
        rw [← List.append_assoc, ← List.cons_append]
        refine hrest.prepend _ (.choice c b tail) fun later => ?_
        simp only [Block.tokens, List.cons_append, List.append_assoc]
  | case6 header ts stack nodes ih =>
    obtain ⟨⟨source, item⟩, -, h⟩ := bind_eq_ok_iff.mp h
    cases ih source item h with
    | within b hending hrest =>
      cases hending with
      | loop =>
        rw [← List.append_assoc, ← List.cons_append]
        refine hrest.prepend _ (.loop header b) fun later => ?_
        simp only [Block.tokens, List.cons_append, List.append_assoc, List.nil_append]
  | case7 c ts done condition outer stack nodes ih =>
    obtain ⟨next, -, h⟩ := bind_eq_ok_iff.mp h
    cases ih next h with
    | within b hending hrest =>
      cases hending with
      | branch tail =>
        have hends : Ends (.branch done condition outer) (Tail.elseIf c b tail).tokens := .branch _
        simpa only [Tail.tokens, List.cons_append, List.append_assoc] using hrest.ending hends
  | case8 ts done condition outer stack nodes ih =>
    cases ih h with
    | within b hending hrest =>
      cases hending with
      | otherwise =>
        have hends : Ends (.branch done condition outer) (Tail.otherwise b).tokens := .branch _
        simpa only [Tail.tokens, List.cons_append, List.append_assoc] using hrest.ending hends
  | case9 ts done condition outer stack nodes ih =>
    exact (ih h).ending (.branch .close)
  | case10 ts branches outer stack nodes ih => exact (ih h).ending .otherwise
  | case11 ts header source item outer stack nodes ih => exact (ih h).ending .loop
  | case12 =>
    rw [nest] at h
    · cases h
    all_goals assumption

end Nesting

section Readable

mutual

private theorem Block.exists_nodes_iff (b : Block) :
    (∃ nodes, b.nodes = .ok nodes) ↔ ∀ t ∈ b.tokens, t.IsReadable := by
  match b with
  | .done => simp [Block.nodes, Block.tokens]
  | .text cs later =>
    rw [Block.nodes, Block.tokens, List.forall_mem_cons, ← later.exists_nodes_iff]
    exact exists_bind_pure_eq_ok_iff.trans (iff_of_eq (true_and _)).symm
  | .interpolation e later =>
    rw [Block.nodes, Block.tokens, List.forall_mem_cons, ← later.exists_nodes_iff]
    exact exists_bind_eq_ok_iff fun _ => exists_bind_pure_eq_ok_iff
  | .choice c body tail later =>
    rw [Block.nodes, Block.tokens, List.forall_mem_cons, List.forall_mem_append,
      List.forall_mem_append, ← body.exists_nodes_iff, ← tail.exists_branches_iff,
      ← later.exists_nodes_iff]
    exact exists_bind_eq_ok_iff fun _ => exists_bind_eq_ok_iff fun _ =>
      exists_bind_eq_ok_iff fun _ => exists_bind_pure_eq_ok_iff
  | .loop h body later =>
    rw [Block.nodes, Block.tokens, List.forall_mem_cons, List.forall_mem_append,
      List.forall_mem_cons, ← body.exists_nodes_iff, ← later.exists_nodes_iff]
    refine exists_bind_eq_ok_iff fun _ => exists_bind_eq_ok_iff fun _ => ?_
    exact exists_bind_pure_eq_ok_iff.trans (iff_of_eq (true_and _)).symm

private theorem Tail.exists_branches_iff (t : Tail) :
    (∃ found, t.branches = .ok found) ↔ ∀ u ∈ t.tokens, u.IsReadable := by
  match t with
  | .elseIf c body tail =>
    rw [Tail.branches, Tail.tokens, List.forall_mem_cons, List.forall_mem_append,
      ← body.exists_nodes_iff, ← tail.exists_branches_iff]
    exact exists_bind_eq_ok_iff fun _ => exists_bind_eq_ok_iff fun _ => exists_bind_pure_eq_ok_iff
  | .otherwise body =>
    rw [Tail.branches, Tail.tokens, List.forall_mem_cons, List.forall_mem_append,
      ← body.exists_nodes_iff]
    refine exists_bind_pure_eq_ok_iff.trans ?_
    simp [Token.IsReadable]
  | .close => simp [Tail.branches, Tail.tokens, Token.IsReadable]

end

end Readable

section Unambiguous

/-- Whether a block cannot go on with these tokens. -/
def Stops : List Token → Prop
  | [] | .elseIf _ :: _ | .otherwise :: _ | .ifEnd :: _ | .listEnd :: _ => True
  | .text _ :: _ | .interpolation _ :: _ | .ifStart _ :: _ | .listStart _ :: _ => False

theorem Tail.stops (t : Tail) (rest : List Token) : Stops (t.tokens ++ rest) := by
  cases t <;> trivial

mutual

/-- A block ends where its tokens stop, so it can be told from them. -/
theorem Block.eq_of_tokens (b b' : Block) {rest rest' : List Token} (hrest : Stops rest)
    (hrest' : Stops rest') (h : b.tokens ++ rest = b'.tokens ++ rest') : b = b' ∧ rest = rest' := by
  match b with
  | .done =>
    cases b' with
    | done => exact ⟨rfl, h⟩
    | text | interpolation | choice | loop =>
      rw [Block.tokens, List.nil_append] at h
      subst h
      cases hrest
  | .text cs later =>
    cases b' with
    | text cs' later' =>
      obtain ⟨hcs, h⟩ := List.cons.inj h
      obtain ⟨rfl, rfl⟩ := later.eq_of_tokens later' hrest hrest' h
      cases hcs
      exact ⟨rfl, rfl⟩
    | done =>
      subst h
      cases hrest'
    | interpolation | choice | loop => cases h
  | .interpolation e later =>
    cases b' with
    | interpolation e' later' =>
      obtain ⟨he, h⟩ := List.cons.inj h
      obtain ⟨rfl, rfl⟩ := later.eq_of_tokens later' hrest hrest' h
      cases he
      exact ⟨rfl, rfl⟩
    | done =>
      subst h
      cases hrest'
    | text | choice | loop => cases h
  | .choice c body tail later =>
    cases b' with
    | choice c' body' tail' later' =>
      simp only [Block.tokens, List.cons_append, List.append_assoc] at h
      obtain ⟨hc, h⟩ := List.cons.inj h
      obtain ⟨rfl, htail⟩ := body.eq_of_tokens body' (tail.stops _) (tail'.stops _) h
      obtain ⟨rfl, hlater⟩ := tail.eq_of_tokens tail' htail
      obtain ⟨rfl, rfl⟩ := later.eq_of_tokens later' hrest hrest' hlater
      cases hc
      exact ⟨rfl, rfl⟩
    | done =>
      subst h
      cases hrest'
    | text | interpolation | loop => cases h
  | .loop header body later =>
    cases b' with
    | loop header' body' later' =>
      simp only [Block.tokens, List.cons_append, List.append_assoc] at h
      obtain ⟨hheader, h⟩ := List.cons.inj h
      have hstops : ∀ ts, Stops (.listEnd :: ts) := fun _ => trivial
      obtain ⟨rfl, hend⟩ := body.eq_of_tokens body' (hstops _) (hstops _) h
      obtain ⟨rfl, rfl⟩ := later.eq_of_tokens later' hrest hrest' (List.cons.inj hend).2
      cases hheader
      exact ⟨rfl, rfl⟩
    | done =>
      subst h
      cases hrest'
    | text | interpolation | choice => cases h

private theorem Tail.eq_of_tokens (t t' : Tail) {rest rest' : List Token}
    (h : t.tokens ++ rest = t'.tokens ++ rest') : t = t' ∧ rest = rest' := by
  match t with
  | .elseIf c body tail =>
    cases t' with
    | elseIf c' body' tail' =>
      simp only [Tail.tokens, List.cons_append, List.append_assoc] at h
      obtain ⟨hc, h⟩ := List.cons.inj h
      obtain ⟨rfl, htail⟩ := body.eq_of_tokens body' (tail.stops _) (tail'.stops _) h
      obtain ⟨rfl, rfl⟩ := tail.eq_of_tokens tail' htail
      cases hc
      exact ⟨rfl, rfl⟩
    | otherwise | close => cases h
  | .otherwise body =>
    cases t' with
    | otherwise body' =>
      simp only [Tail.tokens, List.cons_append, List.append_assoc] at h
      obtain ⟨-, h⟩ := List.cons.inj h
      have hstops : ∀ ts, Stops (.ifEnd :: ts) := fun _ => trivial
      obtain ⟨rfl, hend⟩ := body.eq_of_tokens body' (hstops _) (hstops _) h
      exact ⟨rfl, (List.cons.inj hend).2⟩
    | elseIf | close => cases h
  | .close =>
    cases t' with
    | close => exact ⟨rfl, (List.cons.inj h).2⟩
    | elseIf | otherwise => cases h

end

private theorem Block.tokens_injective : Function.Injective Block.tokens := by
  intro b b' h
  have hstops : Stops [] := trivial
  exact (b.eq_of_tokens b' hstops hstops (congrArg (· ++ []) h)).1

end Unambiguous

/-- Nesting accepts the yields of blocks whose expressions can be read, each on its own, and no
other tokens. Such a block is unique, and its node tree is what a template with these tokens is
compiled to. -/
theorem nest_accepts_grammar (tokens : List Token) :
    ((∃ nodes, nest tokens [] [] = .ok nodes) ↔
      (∃ block : Block, block.tokens = tokens) ∧ ∀ t ∈ tokens, t.IsReadable) ∧
    (∀ block : Block, block.tokens = tokens →
      nest tokens [] [] = block.nodes ∧ ∀ other : Block, other.tokens = tokens → other = block) ∧
    ∀ source, tokenize source.toList = .ok tokens → compile source = nest tokens [] [] := by
  have htree : ∀ block : Block, block.tokens = tokens → nest tokens [] [] = block.nodes := by
    rintro block rfl
    have hnest := nest_block block [] [] []
    rw [List.append_nil] at hnest
    rw [hnest]
    cases block.nodes <;> rfl
  refine ⟨⟨?_, ?_⟩, ?_, ?_⟩
  · rintro ⟨nodes, hnodes⟩
    cases closes_of_nest hnodes with
    | outermost block =>
      rw [htree block rfl] at hnodes
      exact ⟨⟨block, rfl⟩, block.exists_nodes_iff.mp ⟨nodes, hnodes⟩⟩
  · rintro ⟨⟨block, rfl⟩, hreadable⟩
    rw [htree block rfl]
    exact block.exists_nodes_iff.mpr hreadable
  · intro block hblock
    refine ⟨htree block hblock, fun other hother => ?_⟩
    exact Block.tokens_injective (hother.trans hblock.symm)
  · intro source hsource
    rw [compile, hsource]
    rfl

/-- A conditional part inside another one; there is one `else`, and it stands in the inner one. -/
def Sample.nested : Block :=
  .choice ['a']
    (.choice ['b'] (.text ['x'] .done) (.otherwise (.text ['y'] .done)) .done) .close .done

theorem nest_sample_accepts_grammar :
    Sample.nested.tokens = [.ifStart ['a'], .ifStart ['b'], .text ['x'], .otherwise, .text ['y'],
      .ifEnd, .ifEnd] ∧
    nest Sample.nested.tokens [] [] = .ok [.choice
      [(.truthy "a", [.choice [(.truthy "b", [.text "x"])] [.text "y"]])] []] := by
  obtain ⟨-, htree, -⟩ := nest_accepts_grammar Sample.nested.tokens
  obtain ⟨hnodes, -⟩ := htree Sample.nested rfl
  refine ⟨rfl, ?_⟩
  rw [hnodes]
  rfl

end RunPlan.Template
