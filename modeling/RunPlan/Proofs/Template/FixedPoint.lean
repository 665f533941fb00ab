import RunPlan.Proofs.OrderedMap
import RunPlan.Proofs.Template.Evaluation
import RunPlan.Proofs.Template.Reads

/-!
How far evaluated variables agree with their templates. Main statements: what a variable shows is
final when it is shown, and a template renders against the final values to the value it got, unless
a condition or a loop looked at a value that was still a template.
-/

set_option autoImplicit false

namespace RunPlan.Template

/-- The variables as they stand when the turn of a variable comes. -/
def Turn (vars : Variables) (name : String) (now : Variables) : Prop :=
  evaluateNames vars (vars.keys.take (vars.keys.idxOf name)) = .ok now

/-- A variable that holds a template and does not stand before another, so that it is not evaluated
when the turn of the other comes. -/
def Pending (vars : Variables) (name other : String) : Prop :=
  vars.keys.idxOf name ≤ vars.keys.idxOf other ∧
    ∃ value, vars.get? other = some value ∧ isTemplated value = true

/-- How a variable that holds a template gets its final value. -/
structure Evaluated (vars final : Variables) (name value : String) (now : Variables)
    (nodes : List Node) (text : String) : Prop where
  turn : Turn vars name now
  compiled : compile value = .ok nodes
  rendered : render nodes now = .ok text
  kept : final.get? name = some text
  pending : ∀ other, Pending vars name other → now.get? other = vars.get? other
  settled : ∀ other, ¬ Pending vars name other → now.get? other = final.get? other
  shown : ∀ other, .shown other ∈ readsAll ⟨[], now⟩ nodes → ¬ Pending vars name other

section Turns

variable {vars now final : Variables} {name other value : String}

private theorem keys_eq (h : name ∈ vars.keys) :
    vars.keys = vars.keys.take (vars.keys.idxOf name) ++
      name :: vars.keys.drop (vars.keys.idxOf name + 1) := by
  have hlt : vars.keys.idxOf name < vars.keys.length := List.idxOf_lt_length_iff.mpr h
  have hdrop := List.drop_eq_getElem_cons hlt
  rw [List.getElem_idxOf] at hdrop
  rw [← hdrop, List.take_append_drop]

private theorem get?_of_pending (hturn : Turn vars name now) (h : Pending vars name other) :
    now.get? other = vars.get? other := by
  obtain ⟨hle, value, hvalue, -⟩ := h
  refine get?_evaluateNames_of_notMem hturn fun hmem => ?_
  have hlt := (List.mem_take_iff_idxOf_lt (OrderedMap.mem_keys_of_get? hvalue)).mp hmem
  omega

private theorem pending_of_turn (hturn : Turn vars name now) (hvalue : now.get? other = some value)
    (ht : isTemplated value = true) : Pending vars name other := by
  have hmem : other ∉ vars.keys.take (vars.keys.idxOf name) := by
    intro hmem
    rw [isTemplated_eq_false_of_mem hturn hmem hvalue] at ht
    cases ht
  rw [get?_evaluateNames_of_notMem hturn hmem] at hvalue
  rw [List.mem_take_iff_idxOf_lt (OrderedMap.mem_keys_of_get? hvalue), not_lt] at hmem
  exact ⟨hmem, value, hvalue, ht⟩

private theorem get?_of_not_pending (hkey : name ∈ vars.keys) (hturn : Turn vars name now)
    (hfinal : evaluate vars = .ok final) (h : ¬ Pending vars name other) :
    now.get? other = final.get? other := by
  have hsettled : ∀ value, now.get? other = some value → isTemplated value = false := by
    intro value hvalue
    cases ht : isTemplated value with
    | false => rfl
    | true => exact absurd (pending_of_turn hturn hvalue ht) h
  rw [evaluate, keys_eq hkey] at hfinal
  obtain ⟨now', hnow', hrest⟩ := evaluateNames_append_eq_ok_iff.mp hfinal
  rw [hturn] at hnow'
  cases hnow'
  exact (get?_evaluateNames_of_settled hrest hsettled).symm

/-- A template is rendered at its turn, and what comes out is final. -/
theorem exists_turn_of_evaluate (hfinal : evaluate vars = .ok final)
    (hvalue : vars.get? name = some value) (ht : isTemplated value = true) :
    ∃ now text, Turn vars name now ∧ renderValue now name value = .ok text ∧
      final.get? name = some text := by
  have hkeys := keys_eq (OrderedMap.mem_keys_of_get? hvalue)
  have hnodup : vars.keys.Nodup := vars.nodup
  rw [hkeys] at hnodup
  rw [evaluate, hkeys] at hfinal
  obtain ⟨now, hturn, -, hstep⟩ := exists_step_of_evaluateNames hnodup hfinal
  rcases hstep with ⟨value', text, hvalue', -, htext, hkept⟩ | ⟨hplain, -⟩
  · rw [hvalue, Option.some.injEq] at hvalue'
    subst hvalue'
    exact ⟨now, text, hturn, htext, hkept⟩
  · rw [hplain value hvalue] at ht
    cases ht

/-- What a rendering shows is no template, since no template may come out. -/
theorem not_pending_of_shown {nodes : List Node} {text : String} (hturn : Turn vars name now)
    (hrender : render nodes now = .ok text) (htext : isTemplated text = false)
    (hr : .shown other ∈ readsAll ⟨[], now⟩ nodes) : ¬ Pending vars name other := by
  intro hpending
  obtain ⟨-, value, hvalue, ht⟩ := id hpending
  rw [← get?_of_pending hturn hpending] at hvalue
  have hpart := renderAll_infix_of_shown [] nodes hrender hr hvalue
  rw [isTemplated_of_part hpart ht] at htext
  cases htext

end Turns

/-- An evaluated template shows final values only. Rendered against the final variables it gives
the value of its variable again, if no condition and no loop looked at a pending variable. -/
theorem evaluate_fixed_point {vars final : Variables} (hfinal : evaluate vars = .ok final)
    {name value : String} (hvalue : vars.get? name = some value)
    (ht : isTemplated value = true) :
    ∃ now nodes text, Evaluated vars final name value now nodes text ∧
      ((∀ r ∈ readsAll ⟨[], now⟩ nodes, r.isControl = true → ¬ Pending vars name r.name) →
        render nodes final = .ok text) := by
  have hkey := OrderedMap.mem_keys_of_get? hvalue
  obtain ⟨now, text, hturn, htext, hkept⟩ := exists_turn_of_evaluate hfinal hvalue ht
  obtain ⟨nodes, hnodes, hrender, hsettled⟩ := renderValue_eq_ok_iff.mp htext
  have hevaluated : Evaluated vars final name value now nodes text :=
    { turn := hturn
      compiled := hnodes
      rendered := hrender
      kept := hkept
      pending := fun _ h => get?_of_pending hturn h
      settled := fun _ h => get?_of_not_pending hkey hturn hfinal h
      shown := fun _ h => not_pending_of_shown hturn hrender hsettled h }
  refine ⟨now, nodes, text, hevaluated, fun hcontrol => ?_⟩
  have hreads : ∀ r ∈ readsAll ⟨[], now⟩ nodes, now.get? r.name = final.get? r.name := by
    intro r hr
    refine hevaluated.settled r.name ?_
    cases r with
    | shown other => exact hevaluated.shown other hr
    | tested other => exact hcontrol _ hr rfl
    | listed other => exact hcontrol _ hr rfl
  rw [← hrender]
  exact (renderAll_eq_of_reads [] nodes hreads).symm

def Sample.show : String := "$\x7bc\x7d"

def Sample.test : String := "<#if b == \"1\">yes<#else>no</#if>" ++ Sample.show

/-- Variables of which the first tests the second while that is still a template. -/
def Sample.vars : Variables := .ofList [("a", Sample.test), ("b", Sample.show), ("c", "1")]

def Sample.final : Variables := .ofList [("a", "no1"), ("b", "1"), ("c", "1")]

private theorem Sample.evaluate_vars : evaluate Sample.vars = .ok Sample.final := by
  refine eq_ok_of_toOption ?_
  decide +kernel

theorem evaluate_sample_fixed_point :
    evaluate Sample.vars = .ok Sample.final ∧ Sample.vars.get? "b" = some Sample.show ∧
      isTemplated Sample.show = true ∧
      ∃ now nodes, Evaluated Sample.vars Sample.final "b" Sample.show now nodes "1" ∧
        render nodes Sample.final = .ok "1" := by
  have hvalue : Sample.vars.get? "b" = some Sample.show := by decide +kernel
  have ht : isTemplated Sample.show = true := by decide +kernel
  have htokens : tokenize Sample.show.toList = .ok [.interpolation ['c']] := by decide +kernel
  have hcompile : compile Sample.show = .ok [.interpolation "c" none] := by
    rw [compile, htokens]
    rfl
  have htext : Sample.final.get? "b" = some "1" := by decide +kernel
  obtain ⟨now, nodes, text, hevaluated, hfixed⟩ :=
    evaluate_fixed_point Sample.evaluate_vars hvalue ht
  have hnodes := hevaluated.compiled
  rw [hcompile, Except.ok.injEq] at hnodes
  rw [hevaluated.kept, Option.some.injEq] at htext
  subst hnodes htext
  refine ⟨Sample.evaluate_vars, hvalue, ht, now, _, hevaluated, hfixed fun r hr hcontrol => ?_⟩
  simp only [readsAll, Node.reads, List.append_nil, Scope.mem_read_iff] at hr
  rw [hr.1] at hcontrol
  cases hcontrol

/-- The condition on what is looked at cannot be left out: the test of the first sample variable
fails on a template, and it would hold of the final value. -/
theorem not_evaluate_fixed_point_of_tested :
    ¬ ∀ vars final : Variables, evaluate vars = .ok final → ∀ name value : String,
      vars.get? name = some value → isTemplated value = true →
      ∃ nodes text, compile value = .ok nodes ∧ render nodes final = .ok text ∧
        final.get? name = some text := by
  intro h
  obtain ⟨nodes, text, hnodes, hrender, hget⟩ := h Sample.vars Sample.final Sample.evaluate_vars "a"
    Sample.test (by decide +kernel) (by decide +kernel)
  have hkept : Sample.final.get? "a" = some "no1" := by decide +kernel
  have hfinal : ((compile Sample.test).toOption.bind fun nodes =>
      (render nodes Sample.final).toOption) = some "yes1" := by
    decide +kernel
  rw [hget, Option.some.injEq] at hkept
  rw [hnodes] at hfinal
  have htext : text = "yes1" := by
    rw [← Option.some.injEq, ← hfinal]
    show some text = (render nodes Sample.final).toOption
    rw [hrender]
    rfl
  rw [hkept] at htext
  exact absurd htext (by decide)

end RunPlan.Template
