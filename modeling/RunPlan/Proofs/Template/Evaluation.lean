import RunPlan.Template.Evaluation
import RunPlan.Proofs.Outcome
import RunPlan.Proofs.Text.Cutting
import Mathlib.Data.List.Nodup

/-!
Evaluating variables one after the other. Main statements: a text holds a template exactly where
`${`, at least one character and `}` stand in it; a step changes no value but that of its own
variable, and no value that holds no template.
-/

set_option autoImplicit false

namespace RunPlan.Template

open RunPlan.Text

private theorem isTemplated_iff {value : String} :
    isTemplated value = true ↔ ∃ before inside after, inside ≠ [] ∧
      value.toList = before ++ ['$', '\x7b'] ++ (inside ++ '\x7d' :: after) := by
  have hne : ['$', '\x7b'] ≠ ([] : List Char) := List.cons_ne_nil _ _
  rw [isTemplated]
  constructor
  · intro h
    cases hcut : cutAt ['$', '\x7b'] value.toList with
    | none =>
      rw [hcut] at h
      cases h
    | some pieces =>
      obtain ⟨before, rest⟩ := pieces
      rw [hcut] at h
      cases rest with
      | nil => cases h
      | cons c rest =>
        have hmem : '\x7d' ∈ rest := by simpa using h
        obtain ⟨inside, after, rfl⟩ := List.append_of_mem hmem
        exact ⟨before, c :: inside, after, List.cons_ne_nil _ _, eq_of_cutAt hcut⟩
  · rintro ⟨before, inside, after, hinside, hvalue⟩
    obtain ⟨before', rest, hcut, lead, hrest⟩ := exists_cutAt_of_eq hne hvalue
    rw [hcut, ← hrest]
    have hmem : '\x7d' ∈ (lead ++ (inside ++ '\x7d' :: after)).drop 1 := by
      cases lead with
      | nil =>
        cases inside with
        | nil => exact absurd rfl hinside
        | cons c inside => simp
      | cons c lead => simp
    simpa using hmem

theorem isTemplated_of_part {part value : String} (h : part.toList <:+: value.toList)
    (hpart : isTemplated part = true) : isTemplated value = true := by
  obtain ⟨before, inside, after, hinside, heq⟩ := isTemplated_iff.mp hpart
  obtain ⟨lead, rest, hvalue⟩ := h
  refine isTemplated_iff.mpr ⟨lead ++ before, inside, after ++ rest, hinside, ?_⟩
  rw [← hvalue, heq]
  simp only [List.append_assoc, List.cons_append]

theorem renderValue_eq_ok_iff {vars : Variables} {name value text : String} :
    renderValue vars name value = .ok text ↔
      ∃ nodes, compile value = .ok nodes ∧ render nodes vars = .ok text ∧
        isTemplated text = false := by
  rw [renderValue, bind_eq_ok_iff]
  simp only [mapError_eq_ok_iff, bind_eq_ok_iff]
  refine exists_congr fun nodes => and_congr_right fun _ => ?_
  constructor
  · rintro ⟨rendered, hrendered, h⟩
    cases ht : isTemplated rendered with
    | true =>
      rw [ht] at h
      cases h
    | false =>
      rw [ht] at h
      cases h
      exact ⟨hrendered, ht⟩
  · rintro ⟨hrendered, ht⟩
    refine ⟨text, hrendered, ?_⟩
    rw [ht]
    rfl

private theorem evaluateVariable_cases {vars vars' : Variables} {name : String}
    (h : evaluateVariable vars name = .ok vars') :
    (∃ value text, vars.get? name = some value ∧ isTemplated value = true ∧
      renderValue vars name value = .ok text ∧ vars' = vars.insert name text) ∨
    ((∀ value, vars.get? name = some value → isTemplated value = false) ∧ vars' = vars) := by
  rw [evaluateVariable] at h
  cases hvalue : vars.get? name with
  | none =>
    rw [hvalue] at h
    cases h
    refine Or.inr ⟨?_, rfl⟩
    intro value hv
    cases hv
  | some value =>
    rw [hvalue] at h
    cases ht : isTemplated value with
    | true =>
      simp only [ht, if_true] at h
      obtain ⟨text, htext, rfl⟩ := map_eq_ok_iff.mp h
      exact Or.inl ⟨value, text, rfl, ht, htext, rfl⟩
    | false =>
      simp only [ht, Bool.false_eq_true, if_false, Except.ok.injEq] at h
      subst h
      refine Or.inr ⟨?_, rfl⟩
      intro value' hv
      cases hv
      exact ht

private theorem evaluateNames_cons_eq_ok_iff {vars final : Variables} {name : String}
    {names : List String} :
    evaluateNames vars (name :: names) = .ok final ↔
      ∃ vars', evaluateVariable vars name = .ok vars' ∧ evaluateNames vars' names = .ok final := by
  rw [evaluateNames]
  cases evaluateVariable vars name <;> simp

theorem evaluateNames_append_eq_ok_iff {vars final : Variables} {names names' : List String} :
    evaluateNames vars (names ++ names') = .ok final ↔
      ∃ vars', evaluateNames vars names = .ok vars' ∧ evaluateNames vars' names' = .ok final := by
  induction names generalizing vars with
  | nil => simp [evaluateNames]
  | cons name names ih =>
    simp only [List.cons_append, evaluateNames_cons_eq_ok_iff, ih]
    constructor
    · rintro ⟨vars', hstep, vars'', hnames, hfinal⟩
      exact ⟨vars'', ⟨vars', hstep, hnames⟩, hfinal⟩
    · rintro ⟨vars'', ⟨vars', hstep, hnames⟩, hfinal⟩
      exact ⟨vars', hstep, vars'', hnames, hfinal⟩

theorem evaluateVariable_eq_error_iff {vars : Variables} {name : String} {error : LoadError} :
    evaluateVariable vars name = .error error ↔ ∃ value, vars.get? name = some value ∧
      isTemplated value = true ∧ renderValue vars name value = .error error := by
  rw [evaluateVariable]
  cases hvalue : vars.get? name with
  | none => simp
  | some value =>
    cases ht : isTemplated value with
    | true => simp [ht, map_eq_error_iff]
    | false => simp [ht]

theorem exists_of_evaluateNames_eq_error {vars : Variables} {names : List String} {halt : Halt}
    (h : evaluateNames vars names = .error halt) :
    ∃ front name back, names = front ++ name :: back ∧ evaluateNames vars front = .ok halt.vars ∧
      evaluateVariable halt.vars name = .error halt.error := by
  induction names generalizing vars with
  | nil => cases h
  | cons name names ih =>
    rw [evaluateNames] at h
    cases hstep : evaluateVariable vars name with
    | error error =>
      rw [hstep] at h
      cases h
      exact ⟨[], name, names, rfl, rfl, hstep⟩
    | ok next =>
      rw [hstep] at h
      obtain ⟨front, stop, back, rfl, hfront, hstop⟩ := ih h
      exact ⟨name :: front, stop, back, rfl,
        evaluateNames_cons_eq_ok_iff.mpr ⟨next, hstep, hfront⟩, hstop⟩

section Steps

variable {vars vars' final : Variables} {name other value : String} {names : List String}

private theorem keys_evaluateVariable (h : evaluateVariable vars name = .ok vars') :
    vars'.keys = vars.keys := by
  rcases evaluateVariable_cases h with ⟨value, text, hvalue, -, -, rfl⟩ | ⟨-, rfl⟩
  · have hkey : name ∈ vars.keys := by
      rw [← OrderedMap.contains_iff, OrderedMap.contains, hvalue]
      rfl
    rw [OrderedMap.keys_insert, if_pos hkey]
  · rfl

theorem keys_evaluateNames (h : evaluateNames vars names = .ok final) :
    final.keys = vars.keys := by
  induction names generalizing vars with
  | nil =>
    cases h
    rfl
  | cons name names ih =>
    obtain ⟨vars', hstep, hrest⟩ := evaluateNames_cons_eq_ok_iff.mp h
    rw [ih hrest, keys_evaluateVariable hstep]

private theorem get?_evaluateVariable_of_ne (h : evaluateVariable vars name = .ok vars')
    (hne : name ≠ other) : vars'.get? other = vars.get? other := by
  rcases evaluateVariable_cases h with ⟨_, text, -, -, -, rfl⟩ | ⟨-, rfl⟩
  · exact OrderedMap.get?_insert_of_ne vars text hne
  · rfl

private theorem get?_evaluateVariable_of_settled (h : evaluateVariable vars name = .ok vars')
    (hsettled : ∀ value, vars.get? other = some value → isTemplated value = false) :
    vars'.get? other = vars.get? other := by
  rcases evaluateVariable_cases h with ⟨value, text, hvalue, ht, -, rfl⟩ | ⟨-, rfl⟩
  · refine OrderedMap.get?_insert_of_ne vars text fun hname => ?_
    subst hname
    rw [hsettled value hvalue] at ht
    cases ht
  · rfl

theorem get?_evaluateNames_of_notMem (h : evaluateNames vars names = .ok final)
    (hmem : other ∉ names) : final.get? other = vars.get? other := by
  induction names generalizing vars with
  | nil =>
    cases h
    rfl
  | cons name names ih =>
    obtain ⟨vars', hstep, hrest⟩ := evaluateNames_cons_eq_ok_iff.mp h
    rw [List.mem_cons, not_or] at hmem
    rw [ih hrest hmem.2, get?_evaluateVariable_of_ne hstep fun he => hmem.1 he.symm]

theorem get?_evaluateNames_of_settled (h : evaluateNames vars names = .ok final)
    (hsettled : ∀ value, vars.get? other = some value → isTemplated value = false) :
    final.get? other = vars.get? other := by
  induction names generalizing vars with
  | nil =>
    cases h
    rfl
  | cons name names ih =>
    obtain ⟨vars', hstep, hrest⟩ := evaluateNames_cons_eq_ok_iff.mp h
    have hkeep := get?_evaluateVariable_of_settled hstep hsettled
    rw [ih hrest (by rwa [hkeep]), hkeep]

private theorem isTemplated_eq_false_of_evaluateVariable
    (h : evaluateVariable vars name = .ok vars')
    (hvalue : vars'.get? name = some value) : isTemplated value = false := by
  rcases evaluateVariable_cases h with ⟨_, text, -, -, htext, rfl⟩ | ⟨hsettled, rfl⟩
  · obtain ⟨-, -, -, ht⟩ := renderValue_eq_ok_iff.mp htext
    rw [OrderedMap.get?_insert_self, Option.some.injEq] at hvalue
    rwa [← hvalue]
  · exact hsettled value hvalue

theorem isTemplated_eq_false_of_mem (h : evaluateNames vars names = .ok final)
    (hmem : other ∈ names) (hvalue : final.get? other = some value) :
    isTemplated value = false := by
  induction names generalizing vars with
  | nil => cases hmem
  | cons name names ih =>
    obtain ⟨vars', hstep, hrest⟩ := evaluateNames_cons_eq_ok_iff.mp h
    by_cases hlater : other ∈ names
    · exact ih hrest hlater
    · have hname : other = name := (List.mem_cons.mp hmem).resolve_right hlater
      subst hname
      rw [get?_evaluateNames_of_notMem hrest hlater] at hvalue
      exact isTemplated_eq_false_of_evaluateVariable hstep hvalue

/-- A variable is changed at its own step only: its template is rendered against the variables as
they are by then, and what holds no template is kept. -/
theorem exists_step_of_evaluateNames {back : List String} (hnodup : (names ++ name :: back).Nodup)
    (h : evaluateNames vars (names ++ name :: back) = .ok final) :
    ∃ now, evaluateNames vars names = .ok now ∧ evaluateNames now (name :: back) = .ok final ∧
      ((∃ value text, vars.get? name = some value ∧ isTemplated value = true ∧
          renderValue now name value = .ok text ∧ final.get? name = some text) ∨
        ((∀ value, vars.get? name = some value → isTemplated value = false) ∧
          final.get? name = vars.get? name)) := by
  obtain ⟨now, hnow, hrest⟩ := evaluateNames_append_eq_ok_iff.mp h
  obtain ⟨next, hstep, hback⟩ := evaluateNames_cons_eq_ok_iff.mp hrest
  have hfresh : name ∉ names ++ back := (List.nodup_cons.mp (List.nodup_middle.mp hnodup)).1
  rw [List.mem_append, not_or] at hfresh
  have hbefore : now.get? name = vars.get? name := get?_evaluateNames_of_notMem hnow hfresh.1
  have hafter : final.get? name = next.get? name := get?_evaluateNames_of_notMem hback hfresh.2
  refine ⟨now, hnow, hrest, ?_⟩
  rw [← hbefore, hafter]
  rcases evaluateVariable_cases hstep with ⟨value, text, hvalue, ht, htext, rfl⟩ | ⟨hplain, rfl⟩
  · exact Or.inl ⟨value, text, hvalue, ht, htext, OrderedMap.get?_insert_self _ _ _⟩
  · exact Or.inr ⟨hplain, rfl⟩

theorem evaluateNames_of_settled
    (h : ∀ name value, vars.get? name = some value → isTemplated value = false) :
    evaluateNames vars names = .ok vars := by
  induction names with
  | nil => rfl
  | cons name names ih =>
    refine evaluateNames_cons_eq_ok_iff.mpr ⟨vars, ?_, ih⟩
    rw [evaluateVariable]
    cases hvalue : vars.get? name with
    | none => rfl
    | some value => simp only [h name value hvalue, Bool.false_eq_true, if_false]

end Steps

end RunPlan.Template
