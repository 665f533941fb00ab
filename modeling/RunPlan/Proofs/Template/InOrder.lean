import RunPlan.Proofs.OrderedMap
import RunPlan.Proofs.Template.Evaluation

/-!
Evaluation in the order of the map. Main statement: an evaluation gives the variables their final
values one after the other, each template rendered against the final values before it and the
original ones behind; it ends with all values final and without templates, or it stops at the first
variable whose template fails and leaves that one and those behind it as they were.
-/

set_option autoImplicit false

namespace RunPlan.Template

/-- One variable stands before another in the order of the map. -/
def Before (vars : Variables) (name other : String) : Prop :=
  vars.keys.idxOf name < vars.keys.idxOf other

/-- The variables at the turn of a name, when `after` is what the evaluation makes of them: those
before the name as in `after`, the name and those behind it as they were. -/
structure Midway (vars after : Variables) (name : String) (now : Variables) : Prop where
  keys : now.keys = vars.keys
  earlier : ∀ other, Before vars other name → now.get? other = after.get? other
  later : ∀ other, ¬ Before vars other name → now.get? other = vars.get? other

/-- A variable has its final value: its own if that is no template, else what its template renders
to at its turn. -/
inductive HasFinalValue (vars after : Variables) (name : String) : Prop
  | plain {value : String} (original : vars.get? name = some value)
      (hplain : isTemplated value = false) (kept : after.get? name = some value)
  | rendered {value text : String} {now : Variables} {nodes : List Node}
      (original : vars.get? name = some value) (templated : isTemplated value = true)
      (turn : Midway vars after name now) (compiled : compile value = .ok nodes)
      (renders : render nodes now = .ok text) (settled : isTemplated text = false)
      (replaced : after.get? name = some text)

/-- Why the template of a variable gives no value, and the error that tells it. -/
inductive Fails (vars : Variables) (name value : String) : LoadError → Prop
  | malformed {fault : Fault} (h : compile value = .error fault) :
      Fails vars name value (.templateFailure value fault)
  | unrendered {nodes : List Node} {fault : Fault} (compiled : compile value = .ok nodes)
      (h : render nodes vars = .error fault) : Fails vars name value (.templateFailure value fault)
  | recursive {nodes : List Node} {text : String} (compiled : compile value = .ok nodes)
      (renders : render nodes vars = .ok text) (h : isTemplated text = true) :
      Fails vars name value (.recursiveSubstitution name value)

/-- An evaluation that came to its end. -/
structure Completed (vars final : Variables) : Prop where
  keys : final.keys = vars.keys
  values : ∀ name ∈ vars.keys, HasFinalValue vars final name
  settled : ∀ name value, final.get? name = some value → isTemplated value = false
  again : evaluate final = .ok final

/-- An evaluation that stopped at a variable, whose template fails against the variables as they
were left. -/
structure Stopped (vars : Variables) (halt : Halt) (name value : String) : Prop where
  keys : halt.vars.keys = vars.keys
  original : vars.get? name = some value
  templated : isTemplated value = true
  earlier : ∀ other, Before vars other name → HasFinalValue vars halt.vars other
  later : ∀ other, ¬ Before vars other name → halt.vars.get? other = vars.get? other
  failed : Fails halt.vars name value halt.error

private theorem fails_of_renderValue {vars : Variables} {name value : String} {error : LoadError}
    (h : renderValue vars name value = .error error) : Fails vars name value error := by
  cases hnodes : compile value with
  | error fault =>
    simp only [renderValue, hnodes, Except.mapError, bind, Except.bind, Except.error.injEq] at h
    subst h
    exact .malformed hnodes
  | ok nodes =>
    cases hrender : render nodes vars with
    | error fault =>
      simp only [renderValue, hnodes, hrender, Except.mapError, bind, Except.bind,
        Except.error.injEq] at h
      subst h
      exact .unrendered hnodes hrender
    | ok text =>
      cases ht : isTemplated text with
      | true =>
        simp only [renderValue, hnodes, hrender, ht, Except.mapError, bind, Except.bind,
          if_true] at h
        cases h
        exact .recursive hnodes hrender ht
      | false =>
        have hok : renderValue vars name value = .ok text :=
          renderValue_eq_ok_iff.mpr ⟨nodes, hnodes, hrender, ht⟩
        rw [hok] at h
        cases h

section Order

variable {vars now after : Variables} {name other value : String} {front back names : List String}

private theorem before_iff_mem (hkeys : vars.keys = front ++ name :: back) :
    Before vars other name ↔ other ∈ front := by
  have hnodup : vars.keys.Nodup := vars.nodup
  rw [hkeys] at hnodup
  have hname : name ∉ front := fun hmem =>
    (List.nodup_cons.mp (List.nodup_middle.mp hnodup)).1 (List.mem_append_left _ hmem)
  rw [Before, hkeys, List.idxOf_append_of_notMem hname, List.idxOf_cons_self]
  by_cases hother : other ∈ front
  · have hlt := List.idxOf_lt_length_iff.mpr hother
    rw [List.idxOf_append_of_mem hother]
    exact ⟨fun _ => hother, fun _ => hlt⟩
  · rw [List.idxOf_append_of_notMem hother]
    exact ⟨fun h => by omega, fun h => absurd h hother⟩

private theorem midway_of_evaluateNames (hkeys : vars.keys = front ++ name :: back)
    (hnow : evaluateNames vars front = .ok now) (hafter : evaluateNames now names = .ok after)
    (hnames : ∀ other ∈ front, other ∉ names) : Midway vars after name now := by
  refine ⟨keys_evaluateNames hnow, fun other hother => ?_, fun other hother => ?_⟩
  · rw [before_iff_mem hkeys] at hother
    exact (get?_evaluateNames_of_notMem hafter (hnames other hother)).symm
  · rw [before_iff_mem hkeys] at hother
    exact get?_evaluateNames_of_notMem hnow hother

private theorem hasFinalValue_of_evaluateNames (hkeys : vars.keys = front ++ back)
    (hafter : evaluateNames vars front = .ok after) (hname : name ∈ front) :
    HasFinalValue vars after name := by
  obtain ⟨earlier, later, rfl⟩ := List.append_of_mem hname
  rw [List.append_assoc, List.cons_append] at hkeys
  have hnodup : (earlier ++ name :: later).Nodup := by
    have hkeysNodup : vars.keys.Nodup := vars.nodup
    rw [hkeys, ← List.cons_append, ← List.append_assoc] at hkeysNodup
    exact (List.nodup_append.mp hkeysNodup).1
  obtain ⟨now, hnow, hrest, hstep⟩ := exists_step_of_evaluateNames hnodup hafter
  rcases hstep with ⟨value, text, hvalue, ht, htext, hkept⟩ | ⟨hplain, hkept⟩
  · obtain ⟨nodes, hnodes, hrender, hsettled⟩ := renderValue_eq_ok_iff.mp htext
    have hturn : Midway vars after name now :=
      midway_of_evaluateNames hkeys hnow hrest fun other hother hmem =>
        (List.nodup_append.mp hnodup).2.2 other hother other hmem rfl
    exact .rendered hvalue ht hturn hnodes hrender hsettled hkept
  · have hkey : name ∈ vars.keys := by
      rw [hkeys]
      exact List.mem_append_right _ List.mem_cons_self
    rw [← OrderedMap.contains_iff, OrderedMap.contains] at hkey
    obtain ⟨value, hvalue⟩ := Option.isSome_iff_exists.mp hkey
    exact .plain hvalue (hplain value hvalue) (hkept.trans hvalue)

end Order

/-- An evaluation goes through the map in order: it gives every variable its final value, or it
stops at the first one whose template fails. -/
theorem evaluate_in_order (vars : Variables) :
    match evaluate vars with
    | .ok final => Completed vars final
    | .error halt => ∃ name value, Stopped vars halt name value := by
  cases heval : evaluate vars with
  | ok final =>
    have hkeys : final.keys = vars.keys := keys_evaluateNames heval
    have hsettled : ∀ name value, final.get? name = some value → isTemplated value = false := by
      intro name value hvalue
      refine isTemplated_eq_false_of_mem heval ?_ hvalue
      rw [← hkeys]
      exact OrderedMap.mem_keys_of_get? hvalue
    exact
      { keys := hkeys
        values := fun name hname =>
          hasFinalValue_of_evaluateNames (List.append_nil _).symm heval hname
        settled := hsettled
        again := evaluateNames_of_settled hsettled }
  | error halt =>
    obtain ⟨front, name, back, hkeys, hfront, hstep⟩ := exists_of_evaluateNames_eq_error heval
    obtain ⟨value, hvalue, ht, hfails⟩ := evaluateVariable_eq_error_iff.mp hstep
    have hlater : ∀ other, ¬ Before vars other name → halt.vars.get? other = vars.get? other := by
      intro other hother
      rw [before_iff_mem hkeys] at hother
      exact get?_evaluateNames_of_notMem hfront hother
    refine ⟨name, value, ?_⟩
    exact
      { keys := keys_evaluateNames hfront
        original := by rw [← hlater name (lt_irrefl _), hvalue]
        templated := ht
        earlier := fun other hother =>
          hasFinalValue_of_evaluateNames hkeys hfront ((before_iff_mem hkeys).mp hother)
        later := hlater
        failed := fails_of_renderValue hfails }

end RunPlan.Template
