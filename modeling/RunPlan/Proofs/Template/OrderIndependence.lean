import RunPlan.Proofs.Template.FixedPoint
import RunPlan.Proofs.Template.FreeNames

/-!
Evaluation without a say of the order. Main statement: variables whose templates name only variables
that hold no template are evaluated to the same values in every order, or in none.
-/

set_option autoImplicit false

namespace RunPlan.Template

/-- The templates name, in interpolations, conditions and list sources, only variables that are
undefined or hold no template. A name that a loop binds does not count where it is bound, and
neither does a template that does not compile. -/
def Independent (vars : Variables) : Prop :=
  ∀ name value nodes, vars.get? name = some value → isTemplated value = true →
    compile value = .ok nodes → ∀ other ∈ freeNamesAll [] nodes, ∀ value',
      vars.get? other = some value' → isTemplated value' = false

section Order

variable {vars vars' now final : Variables} {name value : String} {front : List String}

private theorem renderValue_eq_of_freeNames
    (h : ∀ nodes, compile value = .ok nodes → ∀ other ∈ freeNamesAll [] nodes,
      vars.get? other = vars'.get? other) :
    renderValue vars name value = renderValue vars' name value := by
  cases hnodes : compile value with
  | error fault => simp only [renderValue, hnodes, Except.mapError, bind, Except.bind]
  | ok nodes =>
    have hrender : render nodes vars = render nodes vars' :=
      render_eq_of_freeNames (h nodes hnodes)
    simp only [renderValue, hnodes, hrender, Except.mapError, bind, Except.bind]

private theorem Independent.renderValue_eq (hind : Independent vars)
    (hnow : evaluateNames vars front = .ok now) (hvalue : vars.get? name = some value)
    (ht : isTemplated value = true) : renderValue now name value = renderValue vars name value := by
  refine renderValue_eq_of_freeNames fun nodes hnodes other hother => ?_
  exact get?_evaluateNames_of_settled hnow (hind name value nodes hvalue ht hnodes other hother)

private theorem Independent.get?_evaluate (hind : Independent vars)
    (hfinal : evaluate vars = .ok final)
    (hvalue : vars.get? name = some value) (ht : isTemplated value = true) :
    ∃ text, renderValue vars name value = .ok text ∧ final.get? name = some text := by
  obtain ⟨now, text, hturn, htext, hkept⟩ := exists_turn_of_evaluate hfinal hvalue ht
  rw [hind.renderValue_eq hturn hvalue ht] at htext
  exact ⟨text, htext, hkept⟩

private theorem Independent.exists_evaluate_iff (hind : Independent vars) :
    (∃ final, evaluate vars = .ok final) ↔ ∀ name value, vars.get? name = some value →
      isTemplated value = true → ∃ text, renderValue vars name value = .ok text := by
  constructor
  · rintro ⟨final, hfinal⟩ name value hvalue ht
    obtain ⟨text, htext, -⟩ := hind.get?_evaluate hfinal hvalue ht
    exact ⟨text, htext⟩
  · intro h
    cases heval : evaluate vars with
    | ok final => exact ⟨final, rfl⟩
    | error halt =>
      obtain ⟨front, name, back, hkeys, hfront, hstep⟩ := exists_of_evaluateNames_eq_error heval
      obtain ⟨value, hvalue, ht, hfails⟩ := evaluateVariable_eq_error_iff.mp hstep
      have hnodup : (front ++ name :: back).Nodup := hkeys ▸ vars.nodup
      have hname : name ∉ front := fun hmem =>
        (List.nodup_cons.mp (List.nodup_middle.mp hnodup)).1 (List.mem_append_left _ hmem)
      rw [get?_evaluateNames_of_notMem hfront hname] at hvalue
      obtain ⟨text, htext⟩ := h name value hvalue ht
      rw [hind.renderValue_eq hfront hvalue ht, htext] at hfails
      cases hfails

theorem Independent.congr (hind : Independent vars)
    (hget : ∀ name, vars.get? name = vars'.get? name) : Independent vars' := by
  intro name value nodes hvalue ht hnodes other hother value' hvalue'
  rw [← hget] at hvalue hvalue'
  exact hind name value nodes hvalue ht hnodes other hother value' hvalue'

end Order

/-- The order of independent variables does not matter: they can be evaluated in every order or in
none, and their values come out the same. -/
theorem evaluate_perm {vars vars' : Variables} (hind : Independent vars)
    (hperm : vars.entries.Perm vars'.entries) :
    ((∃ final, evaluate vars = .ok final) ↔ ∃ final', evaluate vars' = .ok final') ∧
    ∀ final final', evaluate vars = .ok final → evaluate vars' = .ok final' →
      ∀ name, final.get? name = final'.get? name := by
  have hget : ∀ name, vars.get? name = vars'.get? name := OrderedMap.get?_eq_of_perm hperm
  have hind' : Independent vars' := hind.congr hget
  have hrender : ∀ name value, renderValue vars name value = renderValue vars' name value :=
    fun name value => renderValue_eq_of_freeNames fun _ _ other _ => hget other
  refine ⟨?_, fun final final' hfinal hfinal' name => ?_⟩
  · rw [hind.exists_evaluate_iff, hind'.exists_evaluate_iff]
    simp only [hget, hrender]
  · by_cases hplain : ∀ value, vars.get? name = some value → isTemplated value = false
    · rw [get?_evaluateNames_of_settled hfinal hplain, hget,
        get?_evaluateNames_of_settled hfinal' (by rwa [← hget])]
    · push Not at hplain
      obtain ⟨value, hvalue, ht⟩ := hplain
      rw [ne_eq, Bool.not_eq_false] at ht
      have hvalue' : vars'.get? name = some value := by rw [← hget, hvalue]
      obtain ⟨text, htext, hkept⟩ := hind.get?_evaluate hfinal hvalue ht
      obtain ⟨text', htext', hkept'⟩ := hind'.get?_evaluate hfinal' hvalue' ht
      rw [hrender, htext', Except.ok.injEq] at htext
      rw [hkept, hkept', htext]

/-- Variables of which the second binds the name of the first in a loop. -/
def Sample.independent : Variables :=
  .ofList [("a", "$\x7bn\x7d"), ("b", "<#list n as a>$\x7ba\x7d;</#list>"), ("n", "1, 2")]

def Sample.reordered : Variables :=
  .ofList [("n", "1, 2"), ("b", "<#list n as a>$\x7ba\x7d;</#list>"), ("a", "$\x7bn\x7d")]

private theorem Sample.independent_independent : Independent Sample.independent := by
  have hplain : compile "$\x7bn\x7d" = .ok [.interpolation "n" none] := by
    have htokens : tokenize "$\x7bn\x7d".toList = .ok [.interpolation ['n']] := by decide +kernel
    rw [compile, htokens]
    rfl
  have hloop : compile "<#list n as a>$\x7ba\x7d;</#list>" =
      .ok [.loop "n" "a" [.interpolation "a" none, .text ";"]] := by
    have htokens : tokenize "<#list n as a>$\x7ba\x7d;</#list>".toList =
        .ok [.listStart "n as a".toList, .interpolation ['a'], .text [';'], .listEnd] := by
      decide +kernel
    rw [compile, htokens]
    rfl
  have hn : ∀ value, Sample.independent.get? "n" = some value → isTemplated value = false := by
    intro value hvalue
    have hget : Sample.independent.get? "n" = some "1, 2" := by decide +kernel
    rw [hget, Option.some.injEq] at hvalue
    subst hvalue
    decide +kernel
  have hentries : Sample.independent.entries = [("a", "$\x7bn\x7d"),
      ("b", "<#list n as a>$\x7ba\x7d;</#list>"), ("n", "1, 2")] := by decide +kernel
  intro name value nodes hvalue ht hnodes other hother
  have hfree : other = "n" := by
    rw [OrderedMap.get?_eq_some_iff, hentries] at hvalue
    simp only [List.mem_cons, List.not_mem_nil, or_false, Prod.mk.injEq] at hvalue
    rcases hvalue with ⟨-, rfl⟩ | ⟨-, rfl⟩ | ⟨-, rfl⟩
    · rw [hplain, Except.ok.injEq] at hnodes
      subst hnodes
      simpa [freeNamesAll, Node.freeNames, freeName] using hother
    · rw [hloop, Except.ok.injEq] at hnodes
      subst hnodes
      simpa [freeNamesAll, Node.freeNames, freeName] using hother
    · exact absurd ht (by decide +kernel)
  rw [hfree]
  exact hn

theorem evaluate_sample_perm :
    Independent Sample.independent ∧
      Sample.independent.entries.Perm Sample.reordered.entries ∧
      ∃ final final', evaluate Sample.independent = .ok final ∧
        evaluate Sample.reordered = .ok final' ∧ ∀ name, final.get? name = final'.get? name := by
  have hperm : Sample.independent.entries.Perm Sample.reordered.entries := by decide +kernel
  obtain ⟨hsuccess, hvalues⟩ := evaluate_perm Sample.independent_independent hperm
  obtain ⟨final, hfinal⟩ : ∃ final, evaluate Sample.independent = .ok final :=
    exists_eq_ok_of_isSome (by decide +kernel)
  obtain ⟨final', hfinal'⟩ := hsuccess.mp ⟨final, hfinal⟩
  exact ⟨Sample.independent_independent, hperm, final, final', hfinal, hfinal',
    hvalues final final' hfinal hfinal'⟩

end RunPlan.Template
