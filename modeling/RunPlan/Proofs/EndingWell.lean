import RunPlan.Proofs.Cancellation
import RunPlan.Proofs.Selection

/-!
Loads that end well, whatever the service does meanwhile. Main statements: what a part of a load
must have come through when it ended well, and that a load which ended well was not cancelled before
its call for the unique names, took one of the courses of a load, and was not cancelled by that call
either if ages are checked.
-/

set_option autoImplicit false

namespace RunPlan

open RunPlan.Load RunPlan.Await

private theorem Await.runFrom_callFor_eq_ok_iff {α : Type} {path : String} {n : Nat}
    {c : ServiceCall}
    {r : Response (List α)} {as : List α} {t t' : Trace} :
    (callFor path n c r).runFrom t = (.ok as, t') ↔ r.Gives n as ∧
      t' = { t with calls := t.calls ++ [c], cancelled := t.cancelled || r.cancels } := by
  rw [runFrom_callFor, Prod.mk.injEq, Response.outcomeFor_eq_ok_iff, eq_comm (a := t')]

namespace SummaryTable

theorem runFrom_note (table : SummaryTable) (title : String) (bs : List Benchmark) (t : Trace) :
    (liftM (table.note title bs) : Await Unit).runFrom t =
      (.ok (), { t with log := t.log ++ title :: table.render bs }) := by
  have hlines : ∀ (lines : List String) (t : Trace), (lines.forM Load.note).runFrom t =
      (.ok (), { t with log := t.log ++ lines }) := by
    intro lines
    induction lines with
    | nil =>
      intro t
      rw [List.append_nil]
      rfl
    | cons line lines ih =>
      intro t
      have hline : (Load.note line).runFrom t = (.ok (), { t with log := t.log ++ [line] }) := rfl
      show (Load.note line >>= fun _ => lines.forM Load.note).runFrom t = _
      rw [Load.runFrom_bind_ok hline, ih, List.append_assoc, List.singleton_append]
  have htitle : (Load.note title).runFrom t = (.ok (), { t with log := t.log ++ [title] }) := rfl
  rw [Await.runFrom_lift, note, Load.runFrom_bind_ok htitle, hlines, List.append_assoc,
    List.singleton_append]
  rfl

end SummaryTable

namespace Loader

open Service Freshness

variable {l : Loader} {tree : FileTree} {sequenceId : String} {table : SummaryTable}
  {bs kept : List Benchmark} {f : Freshness} {names : List String} {t t' : Trace}

theorem exists_runFrom_load (h : l.included tree sequenceId = .ok bs) (ht : t.cancelled = false) :
    ∃ table log, (l.load tree sequenceId).runFrom t =
      (((l.finish table bs).runFrom { t with log }).1.map Freshness.kept,
        ((l.finish table bs).runFrom { t with log }).2) := by
  obtain ⟨chosen, all, hparse, hall, rfl⟩ := exists_of_included_eq_ok h
  have hload := loadAll_yields l tree sequenceId
  rw [hall] at hload
  obtain ⟨log, hlog⟩ := hload t ht
  have hlog' : (liftM (l.loadAll tree sequenceId) : Await (List Benchmark)).runFrom t =
      (.ok all, { t with log }) := by
    rw [Await.runFrom_lift, hlog]
    rfl
  rw [load, hparse, runFrom_bind_ok (runFrom_lift_except _ t), runFrom_check_bind ht,
    runFrom_bind_ok hlog', List.partition_eq_filter_filter, runFrom_bind_ok
    (SummaryTable.runFrom_note _ _ _ _), List.length_eq_length_filter_add chosen.accepts]
  exact ⟨_, _, runFrom_finish_counted l _ _ _ _⟩

theorem included_of_load_eq_ok (h : (l.load tree sequenceId).runFrom t = (.ok kept, t')) :
    t.cancelled = false ∧ ∃ bs, l.included tree sequenceId = .ok bs := by
  obtain ⟨chosen, s, hchosen, h⟩ := runFrom_bind_eq_ok_iff.mp h
  obtain ⟨hparse, rfl⟩ := runFrom_lift_except_eq_ok_iff.mp hchosen
  obtain ⟨ht, h⟩ := runFrom_check_bind_eq_ok_iff.mp h
  obtain ⟨all, s, hall, -⟩ := runFrom_bind_eq_ok_iff.mp h
  obtain ⟨log, hlog⟩ := Makes.lift (loadAll_yields l tree sequenceId) t ht
  rw [hlog, Prod.mk.injEq] at hall
  refine ⟨ht, all.filter chosen.accepts, ?_⟩
  rw [included, hparse, (loadAll_yields l tree sequenceId).outcome_eq,
    Ending.ofExcept_eq_ok_iff.mp hall.1]
  rfl

theorem runFrom_assignUniqueNames_eq_ok_iff (hne : bs ≠ []) {named' : List Benchmark} :
    (l.service.assignUniqueNames bs).runFrom t = (.ok named', t') ↔
      ∃ names, (l.service.uniqueNames (bs.map Benchmark.nameRequest)).Gives bs.length names ∧
        named' = named bs names ∧
        t' = { t with calls := t.calls ++ [namesCall bs],
                      cancelled := t.cancelled || l.service.cancels (namesCall bs) } := by
  rw [assignUniqueNames, if_neg (by simpa using hne), runFrom_bind_eq_ok_iff]
  simp only [runFrom_callFor_eq_ok_iff, runFrom_pure_eq_ok_iff]
  constructor
  · rintro ⟨names, s, ⟨hgives, rfl⟩, rfl, rfl⟩
    exact ⟨names, hgives, rfl, rfl⟩
  · rintro ⟨names, hgives, rfl, rfl⟩
    exact ⟨names, _, ⟨hgives, rfl⟩, rfl, rfl⟩

private theorem dropFresh_eq_ok (hlength : names.length = bs.length)
    (h : (l.dropFresh table (named bs names)).runFrom t = (.ok f, t')) :
    (¬ l.ChecksAges bs ∧ f.kept = named bs names ∧ t'.calls = t.calls) ∨
    (l.ChecksAges bs ∧ ∃ ages,
      (l.service.executionAges (asked bs names)).Gives (asked bs names).length ages ∧
      f = part (named bs names) ages ∧ t'.calls = t.calls ++ [.ages (asked bs names)]) := by
  rw [dropFresh] at h
  cases hcheck : l.config.frequencyCheck with
  | false =>
    simp only [hcheck, Bool.not_false, if_true, runFrom_pure_eq_ok_iff] at h
    obtain ⟨rfl, rfl⟩ := h
    refine Or.inl ⟨?_, rfl, rfl⟩
    rintro ⟨hchecks, -⟩
    rw [hcheck] at hchecks
    cases hchecks
  | true =>
    simp only [hcheck, Bool.not_true, Bool.false_eq_true, if_false] at h
    obtain ⟨freshness, s, hfilter, h⟩ := runFrom_bind_eq_ok_iff.mp h
    rw [runFrom_bind_ok (SummaryTable.runFrom_note _ _ _ _), runFrom_pure_eq_ok_iff] at h
    obtain ⟨rfl, rfl⟩ := h
    obtain ⟨-, hfilter⟩ := runFrom_cancellable_eq_ok_iff.mp hfilter
    obtain ⟨names', s', hnames, hfilter⟩ := runFrom_bind_eq_ok_iff.mp hfilter
    rw [runFrom_lift_except_eq_ok_iff, named, names_zipWith, Except.ok.injEq] at hnames
    obtain ⟨rfl, rfl⟩ := hnames
    by_cases hnone : asked bs names = []
    · rw [if_pos (by simpa using hnone), runFrom_pure_eq_ok_iff] at hfilter
      obtain ⟨rfl, rfl⟩ := hfilter
      refine Or.inl ⟨?_, rfl, rfl⟩
      rintro ⟨-, b, hb, hfrequency⟩
      rw [(asked_eq_nil_iff hlength).mp hnone b hb] at hfrequency
      cases hfrequency
    · rw [if_neg (by simpa using hnone)] at hfilter
      obtain ⟨ages, s'', hages, hfilter⟩ := runFrom_bind_eq_ok_iff.mp hfilter
      obtain ⟨hgives, rfl⟩ := runFrom_callFor_eq_ok_iff.mp hages
      obtain ⟨rfl, rfl⟩ := runFrom_pure_eq_ok_iff.mp hfilter
      refine Or.inr ⟨⟨hcheck, ?_⟩, ages, hgives, rfl, rfl⟩
      by_contra hchecks
      refine hnone ((asked_eq_nil_iff hlength).mpr fun b hb => ?_)
      exact Bool.eq_false_iff.mpr fun hfrequency => hchecks ⟨b, hb, hfrequency⟩

private theorem not_cancelled_of_dropFresh_eq_ok (hcheck : l.config.frequencyCheck = true)
    (h : (l.dropFresh table bs).runFrom t = (.ok f, t')) : t.cancelled = false := by
  rw [dropFresh, hcheck] at h
  obtain ⟨freshness, s, hfilter, -⟩ := runFrom_bind_eq_ok_iff.mp h
  exact (runFrom_cancellable_eq_ok_iff.mp hfilter).1

variable (l) in
/-- How a load ended well: nothing cancelled it before its call for the unique names, it took its
course through the calls `made`, and where ages are checked the first call did not cancel it. -/
structure EndedWell (t t' : Trace) (bs kept : List Benchmark) (made : List ServiceCall) : Prop where
  awake : t.cancelled = false
  course : l.Course (.ok bs) (.ok kept) made
  calls : t'.calls = t.calls ++ made
  undisturbed : l.config.frequencyCheck = true → bs ≠ [] → l.service.cancels (namesCall bs) = false

private theorem finish_eq_ok (h : (l.finish table bs).runFrom t = (.ok f, t')) :
    ∃ made, l.EndedWell t t' bs f.kept made := by
  obtain ⟨ht, h⟩ := runFrom_check_bind_eq_ok_iff.mp h
  obtain ⟨named', s, hassign, h⟩ := runFrom_bind_eq_ok_iff.mp h
  obtain ⟨-, hassign⟩ := runFrom_cancellable_eq_ok_iff.mp hassign
  obtain ⟨freshness, s', hdrop, h⟩ := runFrom_bind_eq_ok_iff.mp h
  rw [runFrom_bind_ok (SummaryTable.runFrom_note _ _ _ _), runFrom_pure_eq_ok_iff] at h
  obtain ⟨rfl, rfl⟩ := h
  by_cases hne : bs = []
  · subst hne
    rw [assignUniqueNames, if_pos List.isEmpty_nil, runFrom_pure_eq_ok_iff] at hassign
    obtain ⟨rfl, rfl⟩ := hassign
    have hdrop' : (l.dropFresh table (named [] [])).runFrom t = (.ok freshness, s') := hdrop
    rcases dropFresh_eq_ok rfl hdrop' with
      ⟨-, hkept, hcalls⟩ | ⟨⟨-, b, hb, -⟩, -⟩
    · refine ⟨[], ht, ?_, hcalls.trans (List.append_nil _).symm, fun _ hne => absurd rfl hne⟩
      rw [hkept]
      exact .nothing
    · cases hb
  · obtain ⟨names, hgives, rfl, rfl⟩ := (runFrom_assignUniqueNames_eq_ok_iff hne).mp hassign
    have hquiet : l.config.frequencyCheck = true → bs ≠ [] →
        l.service.cancels (namesCall bs) = false := by
      intro hcheck _
      have hs := not_cancelled_of_dropFresh_eq_ok hcheck hdrop
      exact (Bool.or_eq_false_iff.mp hs).2
    rcases dropFresh_eq_ok hgives.2 hdrop with
      ⟨hchecks, hkept, hcalls⟩ | ⟨hchecks, ages, hages, rfl, hcalls⟩
    · refine ⟨_, ht, ?_, hcalls, hquiet⟩
      rw [hkept]
      exact .unchecked hne hgives hchecks
    · refine ⟨_, ht, .checked hne hgives hchecks hages, ?_, hquiet⟩
      rw [hcalls, List.append_assoc, List.singleton_append]

/-- A load that ends well has expanded its files, and ended as `EndedWell` says. -/
theorem load_eq_ok (h : (l.load tree sequenceId).runFrom t = (.ok kept, t')) :
    ∃ bs made, l.included tree sequenceId = .ok bs ∧ l.EndedWell t t' bs kept made := by
  obtain ⟨ht, bs, hbs⟩ := included_of_load_eq_ok h
  obtain ⟨table, log, hrun⟩ := exists_runFrom_load hbs ht
  rw [hrun, Prod.mk.injEq] at h
  obtain ⟨hkept, rfl⟩ := h
  obtain ⟨f, hf, rfl⟩ := Ending.map_eq_ok_iff.mp hkept
  obtain ⟨made, hmade⟩ := finish_eq_ok (Prod.ext hf rfl)
  exact ⟨bs, made, hbs, ht, hmade.course, hmade.calls, hmade.undisturbed⟩

/-- Where the files expand, a load over a service that answers in full ends well. -/
theorem exists_load_eq_ok (hservice : l.service.AnswersInFull)
    (hincluded : l.included tree sequenceId = .ok bs) (ht : t.cancelled = false) :
    ∃ kept t', (l.load tree sequenceId).runFrom t = (.ok kept, t') := by
  obtain ⟨result, made, hcourse, hmakes⟩ := load_course l hservice.settles tree sequenceId
  rw [hincluded] at hcourse
  obtain ⟨names, ages, kept, fresh, rfl, -⟩ := hcourse.selects hservice
  obtain ⟨log, hrun⟩ := hmakes t ht
  exact ⟨kept, _, hrun⟩

end Loader

end RunPlan
