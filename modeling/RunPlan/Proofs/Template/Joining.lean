import RunPlan.Template.Render
import RunPlan.Proofs.Template.Grammar
import RunPlan.Proofs.Template.Tokens

/-!
Templates that stand one after the other. Main statement: unless a marker begins in the first and
ends in the second, two templates together are a template again, and it renders to what the first
renders to, followed by what the second does; the first of them that fails is the one whose fault
comes out.
-/

set_option autoImplicit false

namespace RunPlan.Template

section Blocks

theorem Block.nest_tokens (b : Block) : nest b.tokens [] [] = b.nodes := by
  have hnest := nest_block b [] [] []
  rw [List.append_nil] at hnest
  rw [hnest]
  cases b.nodes <;> rfl

theorem exists_block_of_nest {ts : List Token} {nodes : List Node}
    (h : nest ts [] [] = .ok nodes) : ∃ b : Block, b.tokens = ts ∧ b.nodes = .ok nodes := by
  cases closes_of_nest h with
  | outermost b => exact ⟨b, rfl, b.nest_tokens.symm.trans h⟩

/-- Two blocks one after the other, where texts that meet become one. -/
def Block.glue : Block → Block → Block
  | .done, b => b
  | .text cs .done, .text ds rest => .text (cs ++ ds) rest
  | .text cs rest, b => .text cs (rest.glue b)
  | .interpolation e rest, b => .interpolation e (rest.glue b)
  | .choice c body tail rest, b => .choice c body tail (rest.glue b)
  | .loop h body rest, b => .loop h body (rest.glue b)

private theorem Tail.exists_tokens_eq (t : Tail) : ∃ front, t.tokens = front ++ [.ifEnd] := by
  cases t with
  | elseIf c body tail =>
    obtain ⟨front, hfront⟩ := tail.exists_tokens_eq
    exact ⟨.elseIf c :: (body.tokens ++ front), by rw [Tail.tokens, hfront]; simp⟩
  | otherwise body => exact ⟨.otherwise :: body.tokens, rfl⟩
  | close => exact ⟨[], rfl⟩

private theorem Block.tokens_glue (b b' : Block) :
    (b.glue b').tokens = Token.glue b.tokens b'.tokens := by
  induction b, b' using Block.glue.induct with
  | case1 b' => rfl
  | case2 cs ds later => rfl
  | case3 cs later b' hmeet ih =>
    rw [glue, tokens, tokens, ih]
    · cases later with
      | done =>
        have hhead : ∀ u ∈ b'.tokens.head?, u.isText = false := by
          cases b' with
          | text ds rest => exact absurd rfl (hmeet ds rest rfl)
          | _ => simp [tokens, Token.isText]
        exact (Token.glue_singleton_of_not_text _ hhead).symm
      | _ => exact (Token.glue_cons_cons ..).symm
    · exact hmeet
  | case4 e later b' ih =>
    rw [glue, tokens, tokens, ih]
    exact (Token.glue_cons_of_not_text rfl _ _).symm
  | case5 c body tail later b' ih =>
    obtain ⟨front, hfront⟩ := tail.exists_tokens_eq
    have hend := Token.glue_append_cons (t := .ifEnd) rfl (.ifStart c :: (body.tokens ++ front))
      later.tokens b'.tokens
    rw [glue, tokens, tokens, ih, hfront]
    simpa using hend.symm
  | case6 header body later b' ih =>
    have hend := Token.glue_append_cons (t := .listEnd) rfl (.listStart header :: body.tokens)
      later.tokens b'.tokens
    rw [glue, tokens, tokens, ih]
    simpa using hend.symm

end Blocks

section Rendering

/-- The nodes render to what the others render to, one after the other, in every scope. -/
def RendersBoth (joined ns ns' : List Node) : Prop :=
  ∀ scope, renderAll scope joined =
    renderAll scope ns >>= fun text => (renderAll scope ns').map (text ++ ·)

theorem RendersBoth.nil (ns : List Node) : RendersBoth ns [] ns := by
  intro scope
  show renderAll scope ns = (renderAll scope ns).map ("" ++ ·)
  cases renderAll scope ns with
  | error e => rfl
  | ok text => exact congrArg Except.ok String.empty_append.symm

theorem RendersBoth.cons {joined ns ns' : List Node} (h : RendersBoth joined ns ns') (n : Node) :
    RendersBoth (n :: joined) (n :: ns) ns' := by
  intro scope
  rw [renderAll, renderAll, h scope]
  simp only [bind_assoc, pure_bind]
  congr 1
  funext first
  congr 1
  funext text
  cases renderAll scope ns' with
  | error e => rfl
  | ok text' => exact congrArg Except.ok String.append_assoc.symm

theorem RendersBoth.text (s t : String) (ns : List Node) :
    RendersBoth (.text (s ++ t) :: ns) [.text s] (.text t :: ns) := by
  intro scope
  rw [renderAll, renderAll, renderAll, renderAll, Node.render, Node.render, Node.render]
  cases renderAll scope ns with
  | error e => rfl
  | ok text =>
    show Except.ok ((s ++ t) ++ text) = Except.ok ((s ++ "") ++ (t ++ text))
    rw [String.append_empty, String.append_assoc]

private theorem Block.exists_nodes_glue {b b' : Block} {ns ns' : List Node} (h : b.nodes = .ok ns)
    (h' : b'.nodes = .ok ns') :
    ∃ joined, (b.glue b').nodes = .ok joined ∧ RendersBoth joined ns ns' := by
  induction b, b' using Block.glue.induct generalizing ns ns' with
  | case1 b' =>
    cases h
    exact ⟨ns', h', .nil ns'⟩
  | case2 cs ds later =>
    cases h
    obtain ⟨ms, hms, h'⟩ := bind_eq_ok_iff.mp h'
    cases h'
    refine ⟨.text (String.ofList (cs ++ ds)) :: ms, ?_, ?_⟩
    · rw [glue, nodes, hms]
      rfl
    · rw [String.ofList_append]
      exact .text _ _ ms
  | case3 cs later b' hmeet ih =>
    obtain ⟨ms, hms, h⟩ := bind_eq_ok_iff.mp h
    cases h
    obtain ⟨joined, hjoined, hrender⟩ := ih hms h'
    refine ⟨.text (String.ofList cs) :: joined, ?_, hrender.cons _⟩
    rw [glue, nodes, hjoined]
    · rfl
    · exact hmeet
  | case4 e later b' ih =>
    obtain ⟨node, hnode, h⟩ := bind_eq_ok_iff.mp h
    obtain ⟨ms, hms, h⟩ := bind_eq_ok_iff.mp h
    cases h
    obtain ⟨joined, hjoined, hrender⟩ := ih hms h'
    refine ⟨node :: joined, ?_, hrender.cons _⟩
    rw [glue, nodes, hnode, hjoined]
    rfl
  | case5 c body tail later b' ih =>
    obtain ⟨condition, hcondition, h⟩ := bind_eq_ok_iff.mp h
    obtain ⟨first, hfirst, h⟩ := bind_eq_ok_iff.mp h
    obtain ⟨found, hfound, h⟩ := bind_eq_ok_iff.mp h
    obtain ⟨ms, hms, h⟩ := bind_eq_ok_iff.mp h
    cases h
    obtain ⟨joined, hjoined, hrender⟩ := ih hms h'
    refine ⟨_ :: joined, ?_, hrender.cons _⟩
    rw [glue, nodes, hcondition, hfirst, hfound, hjoined]
    rfl
  | case6 header body later b' ih =>
    obtain ⟨names, hnames, h⟩ := bind_eq_ok_iff.mp h
    obtain ⟨inner, hinner, h⟩ := bind_eq_ok_iff.mp h
    obtain ⟨ms, hms, h⟩ := bind_eq_ok_iff.mp h
    cases h
    obtain ⟨joined, hjoined, hrender⟩ := ih hms h'
    refine ⟨_ :: joined, ?_, hrender.cons _⟩
    rw [glue, nodes, hnames, hinner, hjoined]
    rfl

end Rendering

/-- Two templates together are a template, unless a marker begins in the one and ends in the other.
It renders to what the first renders to, followed by what the second does, and fails exactly if one
of them fails, with the fault of the first if that fails. -/
theorem compile_append (front back : String) (nodes nodes' : List Node)
    (hfront : compile front = .ok nodes) (hback : compile back = .ok nodes')
    (hjunction : ∀ m : Marker, ¬ m.Straddles front.toList back.toList) :
    ∃ joined, compile (front ++ back) = .ok joined ∧ ∀ vars : Variables,
      (render joined vars = do
        let text ← render nodes vars
        let text' ← render nodes' vars
        return text ++ text') ∧
      ((∃ fault, render joined vars = .error fault) ↔
        (∃ fault, render nodes vars = .error fault) ∨ ∃ fault, render nodes' vars = .error fault) ∧
      ∀ fault, render nodes vars = .error fault → render joined vars = .error fault := by
  obtain ⟨ts, hts, hnodes⟩ := bind_eq_ok_iff.mp hfront
  obtain ⟨us, hus, hnodes'⟩ := bind_eq_ok_iff.mp hback
  obtain ⟨b, rfl, hb⟩ := exists_block_of_nest hnodes
  obtain ⟨b', rfl, hb'⟩ := exists_block_of_nest hnodes'
  obtain ⟨joined, hjoined, hrender⟩ := Block.exists_nodes_glue hb hb'
  refine ⟨joined, ?_, fun vars => ?_⟩
  · have htokens : tokenize (front ++ back).toList = .ok (b.glue b').tokens := by
      rw [String.toList_append, tokenize_append hts hjunction, hus, Block.tokens_glue]
      rfl
    rw [compile, htokens]
    exact (b.glue b').nest_tokens.trans hjoined
  · have heq : render joined vars =
        render nodes vars >>= fun text => (render nodes' vars).map (text ++ ·) := hrender ⟨[], vars⟩
    rw [heq]
    cases render nodes vars with
    | error e => exact ⟨rfl, by simp [bind, Except.bind], fun _ h => h⟩
    | ok text =>
      cases render nodes' vars with
      | error e' => exact ⟨rfl, by simp [bind, Except.bind, Except.map], fun _ h => by cases h⟩
      | ok text' => exact ⟨rfl, by simp [bind, Except.bind, Except.map], fun _ h => by cases h⟩

theorem compile_append_samples :
    ∃ joined, compile ("<#if a>x</#if>-$" ++ "b$\x7bc\x7d") = .ok joined ∧
      render joined (.ofList [("a", "1"), ("c", "2")]) = .ok "x-$b2" := by
  have hfront : compile "<#if a>x</#if>-$" =
      .ok [.choice [(.truthy "a", [.text "x"])] [], .text "-$"] := by
    have htokens : tokenize "<#if a>x</#if>-$".toList =
        .ok [.ifStart ['a'], .text ['x'], .ifEnd, .text ['-', '$']] := by decide +kernel
    rw [compile, htokens]
    rfl
  have hback : compile "b$\x7bc\x7d" = .ok [.text "b", .interpolation "c" none] := by
    have htokens : tokenize "b$\x7bc\x7d".toList = .ok [.text ['b'], .interpolation ['c']] := by
      decide +kernel
    rw [compile, htokens]
    rfl
  obtain ⟨joined, hjoined, hrender⟩ := compile_append _ _ _ _ hfront hback fun m =>
    Marker.not_straddles (by cases m <;> simp [Marker.opening]) _
  refine ⟨joined, hjoined, ?_⟩
  rw [(hrender _).1]
  rfl

end RunPlan.Template
