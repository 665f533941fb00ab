import RunPlan.Proofs.Template.FixedPoint
import RunPlan.Proofs.Template.InOrder
import Mathlib.Logic.Relation

/-!
References from template to template. Main statement: where an evaluation succeeds, a variable that
a template shows unconditionally, and that holds a template itself, stands before the variable of
that template; so variables that show each other in a cycle can never be evaluated.
-/

set_option autoImplicit false

namespace RunPlan.Template

/-- A template shows a variable that holds a template too, outside all conditional parts and loops,
with or without a text for the case that the variable is undefined. What a template shows is told
from its nodes; one that does not compile, and so is never evaluated, may be taken to show
anything. -/
structure Shows (vars : Variables) (name other : String) : Prop where
  interpolates : ∃ value, vars.get? name = some value ∧ isTemplated value = true ∧
    ∀ nodes, compile value = .ok nodes → ∃ default?, .interpolation other default? ∈ nodes
  templated : ∃ value, vars.get? other = some value ∧ isTemplated value = true

private theorem shown_mem_readsAll {vars : Variables} {nodes : List Node} {name : String}
    {default? : Option String} (h : .interpolation name default? ∈ nodes) :
    .shown name ∈ readsAll ⟨[], vars⟩ nodes := by
  induction nodes with
  | nil => cases h
  | cons node nodes ih =>
    rw [readsAll]
    rcases List.mem_cons.mp h with rfl | h
    · exact List.mem_append_left _ (Scope.mem_read_iff.mpr ⟨rfl, rfl⟩)
    · exact List.mem_append_right _ (ih h)

section Order

variable {vars final : Variables} {name other : String}

private theorem before_of_shows (hfinal : evaluate vars = .ok final) (h : Shows vars name other) :
    Before vars other name := by
  obtain ⟨value, hvalue, ht, hshown⟩ := h.interpolates
  obtain ⟨now, text, hturn, htext, -⟩ := exists_turn_of_evaluate hfinal hvalue ht
  obtain ⟨nodes, hnodes, hrender, hsettled⟩ := renderValue_eq_ok_iff.mp htext
  obtain ⟨default?, hmem⟩ := hshown nodes hnodes
  have hpending : ¬ Pending vars name other :=
    not_pending_of_shown hturn hrender hsettled (shown_mem_readsAll hmem)
  rw [Before, ← not_le]
  exact fun hle => hpending ⟨hle, h.templated⟩

private theorem before_of_transGen (hfinal : evaluate vars = .ok final)
    (h : Relation.TransGen (Shows vars) name other) : Before vars other name := by
  induction h with
  | single hshows => exact before_of_shows hfinal hshows
  | tail _ hshows ih => exact lt_trans (before_of_shows hfinal hshows) ih

end Order

private theorem Shows.of_perm {vars vars' : Variables} (hperm : vars.entries.Perm vars'.entries)
    {name other : String} (h : Shows vars name other) : Shows vars' name other := by
  have hget := OrderedMap.get?_eq_of_perm hperm
  exact ⟨by simpa only [hget] using h.interpolates, by simpa only [hget] using h.templated⟩

/-- Where an evaluation succeeds, the templates that a template shows unconditionally stand before
it. Variables that show each other in a cycle cannot be evaluated, in whatever order they stand. -/
theorem evaluate_follows_order (vars : Variables) :
    (∀ final, evaluate vars = .ok final →
      ∀ name other, Shows vars name other → Before vars other name) ∧
    ∀ name, Relation.TransGen (Shows vars) name name → ∀ vars' : Variables,
      vars.entries.Perm vars'.entries → ∃ halt, evaluate vars' = .error halt := by
  refine ⟨fun final hfinal name other h => before_of_shows hfinal h, ?_⟩
  intro name hcycle vars' hperm
  cases heval : evaluate vars' with
  | error halt => exact ⟨halt, rfl⟩
  | ok final =>
    have hcycle' := hcycle.lift id fun _ _ h => Shows.of_perm hperm h
    exact absurd (before_of_transGen heval hcycle') (lt_irrefl _)

/-- Variables of which the second shows the first, and the first shows the third. -/
def Sample.chained : Variables :=
  .ofList [("a", "$\x7bc\x7d"), ("b", "$\x7ba!\x7d-x"), ("c", "1")]

def Sample.cyclic : Variables :=
  .ofList [("a", "$\x7bb\x7d"), ("b", "$\x7ba!\x7d-x"), ("c", "1")]

private theorem Sample.compile_fallback :
    compile "$\x7ba!\x7d-x" = .ok [.interpolation "a" (some ""), .text "-x"] := by
  have htokens : tokenize "$\x7ba!\x7d-x".toList =
      .ok [.interpolation ['a', '!'], .text ['-', 'x']] := by decide +kernel
  rw [compile, htokens]
  rfl

private theorem Sample.compile_plain : compile "$\x7bb\x7d" = .ok [.interpolation "b" none] := by
  have htokens : tokenize "$\x7bb\x7d".toList = .ok [.interpolation ['b']] := by decide +kernel
  rw [compile, htokens]
  rfl

private theorem Shows.of_compile {vars : Variables} {name other value value' : String}
    {nodes : List Node} {default? : Option String} (hvalue : vars.get? name = some value)
    (ht : isTemplated value = true) (hnodes : compile value = .ok nodes)
    (hmem : .interpolation other default? ∈ nodes) (hvalue' : vars.get? other = some value')
    (ht' : isTemplated value' = true) : Shows vars name other := by
  refine ⟨⟨value, hvalue, ht, fun nodes' hnodes' => ?_⟩, value', hvalue', ht'⟩
  rw [hnodes, Except.ok.injEq] at hnodes'
  subst hnodes'
  exact ⟨default?, hmem⟩

private theorem Sample.shows_chained : Shows Sample.chained "b" "a" := by
  have ha : Sample.chained.get? "a" = some "$\x7bc\x7d" := by decide +kernel
  have hb : Sample.chained.get? "b" = some "$\x7ba!\x7d-x" := by decide +kernel
  exact .of_compile hb (by decide +kernel) compile_fallback List.mem_cons_self ha
    (by decide +kernel)

private theorem Sample.shows_cyclic : Relation.TransGen (Shows Sample.cyclic) "a" "a" := by
  have ha : Sample.cyclic.get? "a" = some "$\x7bb\x7d" := by decide +kernel
  have hb : Sample.cyclic.get? "b" = some "$\x7ba!\x7d-x" := by decide +kernel
  have hta : isTemplated "$\x7bb\x7d" = true := by decide +kernel
  have htb : isTemplated "$\x7ba!\x7d-x" = true := by decide +kernel
  have hab : Shows Sample.cyclic "a" "b" :=
    .of_compile ha hta compile_plain List.mem_cons_self hb htb
  have hba : Shows Sample.cyclic "b" "a" :=
    .of_compile hb htb compile_fallback List.mem_cons_self ha hta
  exact .tail (.single hab) hba

theorem evaluate_samples_follow_order :
    (∃ final, evaluate Sample.chained = .ok final) ∧ Before Sample.chained "a" "b" ∧
      ∃ halt, evaluate Sample.cyclic = .error halt := by
  obtain ⟨final, hfinal⟩ : ∃ final, evaluate Sample.chained = .ok final :=
    exists_eq_ok_of_isSome (by decide +kernel)
  refine ⟨⟨final, hfinal⟩, ?_, ?_⟩
  · exact (evaluate_follows_order Sample.chained).1 final hfinal "b" "a" Sample.shows_chained
  · exact (evaluate_follows_order Sample.cyclic).2 "a" Sample.shows_cyclic _ (List.Perm.refl _)

end RunPlan.Template
