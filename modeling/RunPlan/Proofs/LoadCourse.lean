import RunPlan.Proofs.FileExpansion
import RunPlan.Proofs.LoadCount

/-!
The course of a load that nobody cancels: naming the benchmarks that were chosen, asking for ages,
and leaving out those that ran recently. Main statement: a load takes one of six courses, told by
what was chosen and by what the service answers.
-/

set_option autoImplicit false

namespace RunPlan

open RunPlan.Load RunPlan.Await

namespace Response

variable {α : Type}

/-- A call that ends, with an answer or with an error, and cancels nothing. -/
structure Settles (r : Response α) : Prop where
  cancels : r.cancels = false
  ends : r.reply ≠ .hang

/-- An answer with `n` items. -/
def Gives (n : Nat) (r : Response (List α)) (as : List α) : Prop :=
  r.reply = .answer as ∧ as.length = n

/-- The error that a call for `n` items ends with: the one that the service tells, or that the
answer has another number of items. -/
inductive Fails (path : String) (n : Nat) (r : Response (List α)) : LoadError → Prop
  | failure {e : LoadError} (h : r.reply = .failure e) : Fails path n r e
  | mismatch {as : List α} (h : r.reply = .answer as) (hlength : as.length ≠ n) :
      Fails path n r (.serviceProtocolMismatch path n as.length)

theorem outcomeFor_eq_ok_iff {path : String} {n : Nat} {r : Response (List α)} {as : List α} :
    r.outcomeFor path n = .ok as ↔ r.Gives n as := by
  rw [Gives]
  cases hreply : r.reply with
  | failure e => simp [outcomeFor_of_failure hreply]
  | hang => simp [outcomeFor_of_hang hreply]
  | answer given =>
    rw [outcomeFor_of_answer hreply, Reply.answer.injEq]
    by_cases hlength : given.length = n
    · rw [if_pos hlength, Ending.ok.injEq]
      exact ⟨fun h => ⟨h, h ▸ hlength⟩, And.left⟩
    · rw [if_neg hlength]
      constructor
      · intro h
        cases h
      · rintro ⟨rfl, h⟩
        exact absurd h hlength

theorem Gives.unique {n : Nat} {r : Response (List α)} {as as' : List α} (h : r.Gives n as)
    (h' : r.Gives n as') : as = as' :=
  Reply.answer.inj (h.1.symm.trans h'.1)

theorem not_fails_of_gives {path : String} {n : Nat} {r : Response (List α)} {as : List α}
    {e : LoadError} (h : r.Gives n as) : ¬ r.Fails path n e := by
  rintro (hfailure | ⟨hanswer, hlength⟩)
  · rw [h.1] at hfailure
    cases hfailure
  · rw [h.1, Reply.answer.injEq] at hanswer
    subst hanswer
    exact hlength h.2

theorem Fails.unique {path : String} {n : Nat} {r : Response (List α)} {e e' : LoadError}
    (h : r.Fails path n e) (h' : r.Fails path n e') : e = e' := by
  cases h with
  | failure hreply =>
    cases h' with
    | failure hreply' => exact Reply.failure.inj (hreply.symm.trans hreply')
    | mismatch hreply' => cases hreply.symm.trans hreply'
  | mismatch hreply =>
    cases h' with
    | failure hreply' => cases hreply.symm.trans hreply'
    | mismatch hreply' => rw [Reply.answer.inj (hreply.symm.trans hreply')]

end Response

namespace Service

/-- A service whose calls all settle. -/
structure Settles (service : Service) : Prop where
  names : ∀ requests, (service.uniqueNames requests).Settles
  ages : ∀ names, (service.executionAges names).Settles

/-- The error that a call of the service ends with. -/
def Fails (service : Service) : ServiceCall → LoadError → Prop
  | .names requests => (service.uniqueNames requests).Fails namesPath requests.length
  | .ages names => (service.executionAges names).Fails agesPath names.length

theorem Fails.unique {service : Service} {c : ServiceCall} {e e' : LoadError}
    (h : service.Fails c e) (h' : service.Fails c e') : e = e' := by
  cases c with
  | names requests => exact Response.Fails.unique h h'
  | ages names => exact Response.Fails.unique h h'

end Service

namespace Await

private theorem callFor_cases {α : Type} {r : Response (List α)} (path : String) (n : Nat)
    (c : ServiceCall) (h : r.Settles) :
    (∃ e, r.Fails path n e ∧ (callFor path n c r).Makes (.error e) [c]) ∨
      ∃ as, r.Gives n as ∧ (callFor path n c r).Makes (.ok as) [c] := by
  have hmakes := Makes.callFor path n c h.cancels
  cases hreply : r.reply with
  | hang => exact absurd hreply h.ends
  | failure e =>
    rw [Response.outcomeFor_of_failure hreply] at hmakes
    exact Or.inl ⟨e, .failure hreply, hmakes⟩
  | answer as =>
    rw [Response.outcomeFor_of_answer hreply] at hmakes
    by_cases hlength : as.length = n
    · rw [if_pos hlength] at hmakes
      exact Or.inr ⟨as, ⟨hreply, hlength⟩, hmakes⟩
    · rw [if_neg hlength] at hmakes
      exact Or.inl ⟨_, .mismatch hreply hlength, hmakes⟩

end Await

namespace SummaryTable

private theorem note_yields (table : SummaryTable) (title : String) (bs : List Benchmark) :
    (table.note title bs).Yields (.ok ()) :=
  Yields.bind_ok (Yields.note title) (Yields.forM _ Yields.note _)

end SummaryTable

namespace Loader

open Service Freshness

variable (l : Loader)

/-- The benchmarks of the wanted files that pass the filter by variables. -/
def included (tree : FileTree) (sequenceId : String) : Except LoadError (List Benchmark) := do
  let chosen ← VariableFilter.parse l.patterns l.config.activeVariables?
  let all ← (l.loadAll tree sequenceId).outcome
  return all.filter chosen.accepts

def named (bs : List Benchmark) (names : List String) : List Benchmark :=
  bs.zipWith Benchmark.withUniqueName names

def namesCall (bs : List Benchmark) : ServiceCall := .names (bs.map Benchmark.nameRequest)

/-- Whether ages are asked for once the benchmarks have their names. -/
def ChecksAges (bs : List Benchmark) : Prop :=
  l.config.frequencyCheck = true ∧ ∃ b ∈ bs, b.frequency?.isSome = true

/-- The courses of a load: what was included, the result, and the calls that were made. -/
inductive Course :
    Except LoadError (List Benchmark) → Ending (List Benchmark) → List ServiceCall → Prop
  | failed (e : LoadError) : Course (.error e) (.error e) []
  | nothing : Course (.ok []) (.ok []) []
  | unnamed {bs : List Benchmark} {e : LoadError} (hne : bs ≠ [])
      (hfails : l.service.Fails (namesCall bs) e) : Course (.ok bs) (.error e) [namesCall bs]
  | unchecked {bs : List Benchmark} {names : List String} (hne : bs ≠ [])
      (hnames : (l.service.uniqueNames (bs.map Benchmark.nameRequest)).Gives bs.length names)
      (hages : ¬ l.ChecksAges bs) : Course (.ok bs) (.ok (named bs names)) [namesCall bs]
  | unaged {bs : List Benchmark} {names : List String} {e : LoadError} (hne : bs ≠ [])
      (hnames : (l.service.uniqueNames (bs.map Benchmark.nameRequest)).Gives bs.length names)
      (hages : l.ChecksAges bs) (hfails : l.service.Fails (.ages (asked bs names)) e) :
      Course (.ok bs) (.error e) [namesCall bs, .ages (asked bs names)]
  | checked {bs : List Benchmark} {names : List String} {ages : List Span} (hne : bs ≠ [])
      (hnames : (l.service.uniqueNames (bs.map Benchmark.nameRequest)).Gives bs.length names)
      (hages : l.ChecksAges bs)
      (hgiven : (l.service.executionAges (asked bs names)).Gives (asked bs names).length ages) :
      Course (.ok bs) (.ok (part (named bs names) ages).kept)
        [namesCall bs, .ages (asked bs names)]

variable {l : Loader} {bs : List Benchmark} {names : List String}

theorem exists_of_included_eq_ok {tree : FileTree} {sequenceId : String}
    (h : l.included tree sequenceId = .ok bs) :
    ∃ chosen all, VariableFilter.parse l.patterns l.config.activeVariables? = .ok chosen ∧
      l.allBenchmarks tree sequenceId = .ok all ∧ bs = all.filter chosen.accepts := by
  obtain ⟨chosen, hparse, h⟩ := bind_eq_ok_iff.mp h
  obtain ⟨all, hall, h⟩ := bind_eq_ok_iff.mp h
  cases h
  rw [(loadAll_yields l tree sequenceId).outcome_eq] at hall
  exact ⟨chosen, all, hparse, hall, rfl⟩

private theorem assignUniqueNames_cases (hs : l.service.Settles) (hne : bs ≠ []) :
    (∃ e, l.service.Fails (namesCall bs) e ∧
      (l.service.assignUniqueNames bs).Makes (.error e) [namesCall bs]) ∨
    ∃ names, (l.service.uniqueNames (bs.map Benchmark.nameRequest)).Gives bs.length names ∧
      (l.service.assignUniqueNames bs).Makes (.ok (named bs names)) [namesCall bs] := by
  rw [assignUniqueNames, if_neg (by simpa using hne)]
  rcases callFor_cases namesPath bs.length (namesCall bs)
    (hs.names (bs.map Benchmark.nameRequest)) with ⟨e, hfails, hmakes⟩ | ⟨names, hgives, hmakes⟩
  · refine Or.inl ⟨e, ?_, Makes.bind_error hmakes⟩
    rw [namesCall, Service.Fails, List.length_map]
    exact hfails
  · exact Or.inr ⟨names, hgives, Makes.before hmakes (Makes.pure _)⟩

private theorem filterFresh_makes (h : asked bs names = []) :
    (l.service.filterFresh (named bs names)).Makes (.ok ⟨named bs names, []⟩) [] := by
  have hnames : (liftM (Freshness.names (named bs names)) : Await (List String)).Makes
      (.ok []) [] := by
    rw [named, names_zipWith, h]
    exact Makes.lift_except _
  exact Makes.after hnames (Makes.pure _)

private theorem filterFresh_cases (hs : l.service.Settles) (h : asked bs names ≠ []) :
    (∃ e, l.service.Fails (.ages (asked bs names)) e ∧
      (l.service.filterFresh (named bs names)).Makes (.error e) [.ages (asked bs names)]) ∨
    ∃ ages, (l.service.executionAges (asked bs names)).Gives (asked bs names).length ages ∧
      (l.service.filterFresh (named bs names)).Makes (.ok (part (named bs names) ages))
        [.ages (asked bs names)] := by
  have hnames : (liftM (Freshness.names (named bs names)) : Await (List String)).Makes
      (.ok (asked bs names)) [] := by
    rw [named, names_zipWith]
    exact Makes.lift_except _
  have hisEmpty : (asked bs names).isEmpty = false := by simpa using h
  rcases callFor_cases agesPath (asked bs names).length (.ages (asked bs names))
    (hs.ages (asked bs names)) with ⟨e, hfails, hmakes⟩ | ⟨ages, hgives, hmakes⟩
  · refine Or.inl ⟨e, hfails, Makes.after hnames ?_⟩
    simp only [hisEmpty, Bool.false_eq_true, if_false]
    exact Makes.bind_error hmakes
  · refine Or.inr ⟨ages, hgives, Makes.after hnames ?_⟩
    simp only [hisEmpty, Bool.false_eq_true, if_false]
    exact Makes.before hmakes (Makes.pure _)

private theorem dropFresh_makes (table : SummaryTable) (hlength : names.length = bs.length)
    (h : ¬ l.ChecksAges bs) :
    (l.dropFresh table (named bs names)).Makes (.ok ⟨named bs names, []⟩) [] := by
  rw [dropFresh]
  cases hcheck : l.config.frequencyCheck with
  | false => exact Makes.pure _
  | true =>
    have hnone : asked bs names = [] := (asked_eq_nil_iff hlength).mpr fun b hb =>
      Bool.eq_false_iff.mpr fun hb' => h ⟨hcheck, b, hb, hb'⟩
    exact Makes.after ((filterFresh_makes hnone).cancellable Ending.ok_ne_pending)
      (Makes.after (Makes.lift (table.note_yields _ _)) (Makes.pure _))

private theorem dropFresh_cases (hs : l.service.Settles) (table : SummaryTable)
    (hlength : names.length = bs.length) (h : l.ChecksAges bs) :
    (∃ e, l.service.Fails (.ages (asked bs names)) e ∧
      (l.dropFresh table (named bs names)).Makes (.error e) [.ages (asked bs names)]) ∨
    ∃ ages, (l.service.executionAges (asked bs names)).Gives (asked bs names).length ages ∧
      (l.dropFresh table (named bs names)).Makes (.ok (part (named bs names) ages))
        [.ages (asked bs names)] := by
  obtain ⟨hcheck, b, hb, hfrequency⟩ := h
  have hsome : asked bs names ≠ [] := by
    intro hnone
    rw [(asked_eq_nil_iff hlength).mp hnone b hb] at hfrequency
    cases hfrequency
  rw [dropFresh, hcheck]
  rcases filterFresh_cases hs hsome with ⟨e, hfails, hmakes⟩ | ⟨ages, hgives, hmakes⟩
  · exact Or.inl ⟨e, hfails, Makes.bind_error (hmakes.cancellable Ending.error_ne_pending)⟩
  · exact Or.inr ⟨ages, hgives, Makes.before (hmakes.cancellable Ending.ok_ne_pending)
      (Makes.after (Makes.lift (table.note_yields _ _)) (Makes.pure _))⟩

private theorem finish_course (hs : l.service.Settles) (table : SummaryTable)
    (bs : List Benchmark) :
    ∃ r made, l.Course (.ok bs) (r.map Freshness.kept) made ∧
      (l.finish table bs).Makes r made := by
  have hstart : (liftM checkCancelled : Await Unit).Makes (.ok ()) [] :=
    Makes.lift Yields.checkCancelled
  have hend : ∀ f : Freshness, (do
      table.note "Selected Benchmarks:" f.kept
      return f : Await Freshness).Makes (.ok f) [] :=
    fun f => Makes.after (Makes.lift (table.note_yields _ _)) (Makes.pure f)
  by_cases hne : bs = []
  · subst hne
    have hunchecked : ¬ l.ChecksAges [] := by
      rintro ⟨-, b, hb, -⟩
      cases hb
    have hnamed : (l.service.assignUniqueNames []).Makes (.ok []) [] := Makes.pure _
    have hkept : (l.dropFresh table (named [] [])).Makes (.ok ⟨named [] [], []⟩) [] :=
      dropFresh_makes table rfl hunchecked
    exact ⟨.ok ⟨[], []⟩, _, .nothing, Makes.after hstart
      (Makes.after (hnamed.cancellable Ending.ok_ne_pending) (Makes.after hkept (hend _)))⟩
  rcases assignUniqueNames_cases hs hne with ⟨e, hfails, hmakes⟩ | ⟨names, hnames, hmakes⟩
  · exact ⟨.error e, _, .unnamed hne hfails,
      Makes.after hstart (Makes.bind_error (hmakes.cancellable Ending.error_ne_pending))⟩
  have hcall := hmakes.cancellable Ending.ok_ne_pending
  by_cases hages : l.ChecksAges bs
  · rcases dropFresh_cases hs table hnames.2 hages with
      ⟨e, hfails, hdrop⟩ | ⟨ages, hgiven, hdrop⟩
    · exact ⟨.error e, _, .unaged hne hnames hages hfails,
        Makes.after hstart (Makes.bind_ok hcall (Makes.bind_error hdrop))⟩
    · exact ⟨.ok (part (named bs names) ages), _, .checked hne hnames hages hgiven,
        Makes.after hstart (Makes.bind_ok hcall (Makes.before hdrop (hend _)))⟩
  · exact ⟨.ok ⟨named bs names, []⟩, _, .unchecked hne hnames hages,
      Makes.after hstart (Makes.before hcall
        (Makes.after (dropFresh_makes table hnames.2 hages) (hend _)))⟩

private theorem finish_counted_makes {table : SummaryTable} {r : Ending Freshness}
    {made : List ServiceCall} (h : (l.finish table bs).Makes r made) (excluded : Nat) :
    (do
      let f ← l.finish table bs
      checkCount (bs.length + excluded) excluded f
      return f.kept : Await (List Benchmark)).Makes (r.map Freshness.kept) made := by
  intro t ht
  obtain ⟨log, hrun⟩ := h t ht
  refine ⟨log, ?_⟩
  rw [runFrom_finish_counted, hrun]

variable (l) in
/-- A load that nobody cancels takes one of the courses. -/
theorem load_course (hs : l.service.Settles) (tree : FileTree) (sequenceId : String) :
    ∃ result made, l.Course (l.included tree sequenceId) result made ∧
      (l.load tree sequenceId).Makes result made := by
  rw [included, load, (loadAll_yields l tree sequenceId).outcome_eq]
  cases hparse : VariableFilter.parse l.patterns l.config.activeVariables? with
  | error e => exact ⟨_, _, .failed e, Makes.bind_error (Makes.lift_except (.error e))⟩
  | ok chosen =>
    have hparsed : (liftM (Except.ok chosen : Except LoadError VariableFilter) :
        Await VariableFilter).Makes (.ok chosen) [] := Makes.lift_except _
    have hstart : (liftM checkCancelled : Await Unit).Makes (.ok ()) [] :=
      Makes.lift Yields.checkCancelled
    have hall := Makes.lift (loadAll_yields l tree sequenceId)
    cases hload : l.allBenchmarks tree sequenceId with
    | error e =>
      rw [hload] at hall
      exact ⟨_, _, .failed e, Makes.after hparsed (Makes.after hstart (Makes.bind_error hall))⟩
    | ok all =>
      rw [hload] at hall
      obtain ⟨r, made, hcourse, hmakes⟩ := finish_course hs
        (.ofBenchmarks (all.filter chosen.accepts ++ all.filter fun b => !chosen.accepts b))
        (all.filter chosen.accepts)
      have hcounted := finish_counted_makes hmakes (all.filter fun b => !chosen.accepts b).length
      rw [← List.length_eq_length_filter_add] at hcounted
      refine ⟨_, made, hcourse, Makes.after hparsed (Makes.after hstart (Makes.after hall ?_))⟩
      rw [List.partition_eq_filter_filter]
      exact Makes.after (Makes.lift (SummaryTable.note_yields _ _ _)) hcounted

end Loader

end RunPlan
