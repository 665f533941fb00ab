import RunPlan.Proofs.FileExpansion

/-!
Loads that are cancelled, before they start or by a call of the service. Main statements: each part
of a load heeds a cancellation, parts that follow each other do so together, and a load that was
cancelled before does nothing at all.
-/

set_option autoImplicit false

namespace RunPlan

def Service.cancels (service : Service) : ServiceCall → Bool
  | .names requests => (service.uniqueNames requests).cancels
  | .ages names => (service.executionAges names).cancels

/-- A call that never ends. -/
def Service.Hangs (service : Service) : ServiceCall → Prop
  | .names requests => (service.uniqueNames requests).reply = .hang
  | .ages names => (service.executionAges names).reply = .hang

namespace Load

variable {α β : Type}

/-- A part of a load that does nothing but note messages, cancelled or not. -/
def Quiet (x : Load α) : Prop := ∀ t : Trace, ∃ r log, x.runFrom t = (r, { t with log })

namespace Quiet

variable {x : Load α} {f : α → Load β}

theorem pure (a : α) : Quiet (Pure.pure a) := fun t => ⟨.ok a, t.log, rfl⟩

theorem lift (r : Except LoadError α) : Quiet (liftM r) := fun t => ⟨r, t.log, runFrom_lift r t⟩

theorem note (message : String) : Quiet (Load.note message) :=
  fun t => ⟨.ok (), t.log ++ [message], rfl⟩

theorem checkCancelled : Quiet Load.checkCancelled :=
  fun t => ⟨_, t.log, runFrom_checkCancelled t⟩

theorem bind (hx : Quiet x) (hf : ∀ a, Quiet (f a)) : Quiet (x >>= f) := by
  intro t
  obtain ⟨r, log, hrun⟩ := hx t
  cases r with
  | error e => exact ⟨.error e, log, runFrom_bind_error hrun⟩
  | ok a =>
    obtain ⟨r', log', hrun'⟩ := hf a { t with log }
    exact ⟨r', log', (runFrom_bind_ok hrun).trans hrun'⟩

theorem forM {f : α → Load Unit} (hf : ∀ a, Quiet (f a)) (as : List α) : Quiet (as.forM f) := by
  induction as with
  | nil => exact pure ()
  | cons a as ih => exact bind (hf a) fun _ => ih

end Quiet

end Load

namespace Await

variable {α β : Type}

/-- What a run from the trace `t` does about cancellations: it makes the calls `made`, none of them
after a cancellation. A call that never ends is the last one. It leaves the run cancelled if the
load was cancelled meanwhile, and nothing else leaves it pending. -/
structure Heeded (service : Service) (t : Trace) (made : List ServiceCall)
    (run : Ending α × Trace) : Prop where
  calls : run.2.calls = t.calls ++ made
  cancelled : run.2.cancelled = (t.cancelled || made.any service.cancels)
  awake : ∀ c ∈ made, t.cancelled = false
  undisturbed : made.Pairwise fun earlier _ => service.cancels earlier = false
  hangs : ∀ c ∈ made, service.Hangs c → made.getLast? = some c ∧
    run.1 = if service.cancels c then .error .cancelled else .pending
  pending : run.1 = .pending → ∃ c ∈ made, service.Hangs c

/-- A part of a load that heeds cancellations when it starts from the trace `t`. -/
def Heeds (service : Service) (x : Await α) (t : Trace) : Prop :=
  ∃ made, Heeded service t made (x.runFrom t)

/-- A part of a load that makes no call. -/
def Idle (x : Await α) : Prop :=
  ∀ t : Trace, ∃ r log, r ≠ .pending ∧ x.runFrom t = (r, { t with log })

/-- A part of a load that makes one call, and waits forever exactly if the call never ends. -/
def Asks (service : Service) (c : ServiceCall) (x : Await α) : Prop :=
  ∀ t : Trace, (x.runFrom t).2 =
      { t with calls := t.calls ++ [c], cancelled := t.cancelled || service.cancels c } ∧
    ((x.runFrom t).1 = .pending ↔ service.Hangs c)

section Heeding

variable {service : Service} {c : ServiceCall} {x : Await α} {f : α → Await β} {t : Trace}

theorem Idle.pure (a : α) : Idle (Pure.pure a) := fun t => ⟨.ok a, t.log, nofun, rfl⟩

theorem Idle.lift {x : Load α} (h : Load.Quiet x) : Idle (liftM x) := by
  intro t
  obtain ⟨r, log, hrun⟩ := h t
  refine ⟨.ofExcept r, log, ?_, ?_⟩
  · cases r <;> nofun
  · rw [runFrom_lift, hrun]

theorem Idle.bind (hx : Idle x) (hf : ∀ a, Idle (f a)) : Idle (x >>= f) := by
  intro t
  obtain ⟨r, log, hends, hrun⟩ := hx t
  cases r with
  | pending => exact absurd rfl hends
  | error e => exact ⟨.error e, log, nofun, runFrom_bind_error hrun⟩
  | ok a =>
    obtain ⟨r', log', hends', hrun'⟩ := hf a { t with log }
    exact ⟨r', log', hends', (runFrom_bind_ok hrun).trans hrun'⟩

private theorem heeded_nil {run : Ending α × Trace} (hcalls : run.2.calls = t.calls)
    (hcancelled : run.2.cancelled = t.cancelled) (hends : run.1 ≠ .pending) :
    Heeded service t [] run where
  calls := by rw [hcalls, List.append_nil]
  cancelled := by rw [hcancelled, List.any_nil, Bool.or_false]
  awake := nofun
  undisturbed := .nil
  hangs := nofun
  pending h := absurd h hends

theorem Idle.heeds (hx : Idle x) : Heeds service x t := by
  obtain ⟨r, log, hends, hrun⟩ := hx t
  refine ⟨[], ?_⟩
  rw [hrun]
  exact heeded_nil rfl rfl hends

private theorem heeds_cancellable_of_cancelled (ht : t.cancelled = true) :
    Heeds service (cancellable x) t := by
  refine ⟨[], ?_⟩
  rw [runFrom_cancellable_of_cancelled ht]
  exact heeded_nil rfl rfl nofun

private theorem Idle.heeds_cancellable (hx : Idle x) : Heeds service (cancellable x) t := by
  cases ht : t.cancelled with
  | true => exact heeds_cancellable_of_cancelled ht
  | false =>
    obtain ⟨r, log, hends, hrun⟩ := hx t
    refine ⟨[], ?_⟩
    rw [runFrom_cancellable ht, runFrom_orCancelled (by rwa [hrun]), hrun]
    exact heeded_nil rfl rfl hends

theorem Asks.runFrom_orCancelled_snd (hx : Asks service c x) (t : Trace) :
    (x.orCancelled.runFrom t).2 =
      { t with calls := t.calls ++ [c], cancelled := t.cancelled || service.cancels c } := by
  by_cases hpending : (x.runFrom t).1 = .pending
  · have hrun := runFrom_orCancelled_of_pending (Prod.ext hpending (hx t).1)
    rw [hrun]
  · rw [runFrom_orCancelled hpending, (hx t).1]

/-- The race ends a call that never does exactly if the load is cancelled by then. -/
theorem Asks.runFrom_orCancelled_fst (hx : Asks service c x) (ht : t.cancelled = false)
    (hhangs : service.Hangs c) : (x.orCancelled.runFrom t).1 =
      if service.cancels c then .error .cancelled else .pending := by
  have hrun := runFrom_orCancelled_of_pending (Prod.ext ((hx t).2.mpr hhangs) (hx t).1)
  rw [hrun, ht, Bool.false_or]

private theorem Asks.hangs_of_orCancelled (hx : Asks service c x)
    (h : (x.orCancelled.runFrom t).1 = .pending) : service.Hangs c := by
  by_contra hhangs
  have hends : (x.runFrom t).1 ≠ .pending := fun hpending => hhangs ((hx t).2.mp hpending)
  rw [runFrom_orCancelled hends] at h
  exact hends h

private theorem Asks.heeds_cancellable (hx : Asks service c x) :
    Heeds service (cancellable x) t := by
  cases ht : t.cancelled with
  | true => exact heeds_cancellable_of_cancelled ht
  | false =>
    have htrace := hx.runFrom_orCancelled_snd t
    refine ⟨[c], ?_⟩
    rw [runFrom_cancellable ht]
    exact
      { calls := by rw [htrace]
        cancelled := by rw [htrace, List.any_cons, List.any_nil, Bool.or_false]
        awake := fun _ _ => ht
        undisturbed := List.pairwise_singleton _ _
        hangs := by
          intro c' hc' hhangs
          obtain rfl := List.mem_singleton.mp hc'
          exact ⟨rfl, hx.runFrom_orCancelled_fst ht hhangs⟩
        pending := fun h => ⟨c, List.mem_cons_self, hx.hangs_of_orCancelled h⟩ }

private theorem asks_callFor {path : String} {n : Nat} {r : Response (List α)}
    (hcancels : service.cancels c = r.cancels) (hhangs : service.Hangs c ↔ r.reply = .hang) :
    Asks service c (callFor path n c r) := by
  intro t
  rw [runFrom_callFor, hcancels, hhangs]
  refine ⟨rfl, ?_⟩
  cases hreply : r.reply with
  | failure e => simp [Response.outcomeFor_of_failure hreply]
  | hang => simp [Response.outcomeFor_of_hang hreply]
  | answer as =>
    rw [Response.outcomeFor_of_answer hreply]
    split <;> simp

private theorem Asks.bind_pure (hx : Asks service c x) (f : α → β) :
    Asks service c (x >>= fun a => Pure.pure (f a)) := by
  intro t
  rw [runFrom_bind_pure, ← (hx t).2]
  refine ⟨(hx t).1, ?_⟩
  cases (x.runFrom t).1 <;> simp [Ending.map]

private theorem Heeded.of_end {made : List ServiceCall} {run : Ending α × Trace}
    {run' : Ending β × Trace} (h : Heeded service t made run) (htrace : run'.2 = run.2)
    (herror : ∀ e, run.1 = .error e → run'.1 = .error e)
    (hpending : run.1 = .pending → run'.1 = .pending)
    (hpending' : run'.1 = .pending → run.1 = .pending) : Heeded service t made run' where
  calls := by rw [htrace, h.calls]
  cancelled := by rw [htrace, h.cancelled]
  awake := h.awake
  undisturbed := h.undisturbed
  hangs := by
    intro c hc hhangs
    obtain ⟨hlast, hend⟩ := h.hangs c hc hhangs
    refine ⟨hlast, ?_⟩
    split at hend <;> rename_i hcancels
    · rw [if_pos hcancels, herror _ hend]
    · rw [if_neg hcancels, hpending hend]
  pending hend := h.pending (hpending' hend)

theorem Heeds.bind (hx : Heeds service x t)
    (hf : ∀ a t', x.runFrom t = (.ok a, t') → Heeds service (f a) t') :
    Heeds service (x >>= f) t := by
  obtain ⟨made, hmade⟩ := hx
  rcases hrun : x.runFrom t with ⟨r, t'⟩
  rw [hrun] at hmade
  cases r with
  | error e =>
    refine ⟨made, ?_⟩
    rw [runFrom_bind_error hrun]
    exact hmade.of_end rfl (fun _ h => congrArg Ending.error (Ending.error.inj h)) nofun nofun
  | pending =>
    refine ⟨made, ?_⟩
    rw [runFrom_bind_pending hrun]
    exact hmade.of_end rfl nofun (fun _ => rfl) (fun _ => rfl)
  | ok a =>
    obtain ⟨made', hmade'⟩ := hf a t' hrun
    refine ⟨made ++ made', ?_⟩
    rw [runFrom_bind_ok hrun]
    -- a part that was left by a call that never ends does not come this far
    have hended : ∀ c ∈ made, ¬ service.Hangs c := by
      intro c hc hhangs
      have hend := (hmade.hangs c hc hhangs).2
      split at hend <;> cases hend
    -- and calls behind it mean that nothing was cancelled by its end
    have hquiet : ∀ c ∈ made', t.cancelled = false ∧ ∀ c' ∈ made, service.cancels c' = false := by
      intro c hc
      have hcancelled : t'.cancelled = (t.cancelled || made.any service.cancels) := hmade.cancelled
      have hawake := hmade'.awake c hc
      rw [hcancelled, Bool.or_eq_false_iff, List.any_eq_false] at hawake
      exact ⟨hawake.1, fun c' hc' => Bool.eq_false_iff.mpr (hawake.2 c' hc')⟩
    exact
      { calls := by rw [hmade'.calls, hmade.calls, List.append_assoc]
        cancelled := by rw [hmade'.cancelled, hmade.cancelled, List.any_append, Bool.or_assoc]
        awake := by
          intro c hc
          rcases List.mem_append.mp hc with hc | hc
          · exact hmade.awake c hc
          · exact (hquiet c hc).1
        undisturbed := List.pairwise_append.mpr ⟨hmade.undisturbed, hmade'.undisturbed,
          fun c' hc' c hc => (hquiet c hc).2 c' hc'⟩
        hangs := by
          intro c hc hhangs
          rcases List.mem_append.mp hc with hc | hc
          · exact absurd hhangs (hended c hc)
          · obtain ⟨hlast, hend⟩ := hmade'.hangs c hc hhangs
            rw [List.getLast?_append, hlast]
            exact ⟨rfl, hend⟩
        pending := by
          intro hend
          obtain ⟨c, hc, hhangs⟩ := hmade'.pending hend
          exact ⟨c, List.mem_append_right _ hc, hhangs⟩ }

end Heeding

end Await

open RunPlan.Load RunPlan.Await

theorem SummaryTable.note_quiet (table : SummaryTable) (title : String) (bs : List Benchmark) :
    Quiet (table.note title bs) :=
  .bind (.note _) fun _ => .forM (fun _ => .note _) _

namespace Service

variable {service : Service} {t : Trace}

theorem asks_assignUniqueNames {bs : List Benchmark} (hne : bs ≠ []) :
    Asks service (.names (bs.map Benchmark.nameRequest)) (service.assignUniqueNames bs) := by
  rw [assignUniqueNames, if_neg (by simpa using hne)]
  exact (asks_callFor rfl Iff.rfl).bind_pure _

private theorem assignUniqueNames_heeds (bs : List Benchmark) :
    Heeds service (cancellable (service.assignUniqueNames bs)) t := by
  by_cases hne : bs = []
  · subst hne
    exact (Idle.pure []).heeds_cancellable
  · exact (asks_assignUniqueNames hne).heeds_cancellable

private theorem filterFresh_heeds (bs : List Benchmark) :
    Heeds service (cancellable (service.filterFresh bs)) t := by
  cases hnames : Freshness.names bs with
  | error e =>
    refine Idle.heeds_cancellable fun t => ⟨.error e, t.log, nofun, ?_⟩
    rw [filterFresh, hnames]
    rfl
  | ok names =>
    by_cases hne : names = []
    · refine Idle.heeds_cancellable fun t => ⟨.ok ⟨bs, []⟩, t.log, nofun, ?_⟩
      rw [filterFresh, hnames, hne]
      rfl
    · have hasks : Asks service (.ages names) (service.filterFresh bs) := by
        intro t
        rw [filterFresh, hnames, runFrom_bind_ok (runFrom_lift_except _ t)]
        simp only [List.isEmpty_iff, if_neg hne]
        exact (asks_callFor rfl Iff.rfl).bind_pure (Freshness.part bs) t
      exact hasks.heeds_cancellable

end Service

namespace Sample

def lone : FileTree :=
  ⟨[("b", .directory [("t9.yaml", .file (some "data-source: d\nquery-names: q, r\nn: 1\n"))])], []⟩

def stuck (cancels : Bool) : Service where
  uniqueNames _ := ⟨cancels, .hang⟩
  executionAges _ := ⟨cancels, .hang⟩

end Sample

namespace Loader

variable (l : Loader) (tree : FileTree) (sequenceId : String)

private theorem find_quiet : Quiet (l.find tree) :=
  .bind (.note _) fun _ => .bind (.lift _) fun _ => .bind (.lift _) fun files =>
    .bind (.forM (fun _ => .note _) files) fun _ => .pure _

private theorem loadFiles_quiet (directory : Resource) (files : List Resource) :
    Quiet (l.loadFiles tree sequenceId directory files) := by
  induction files with
  | nil => exact .pure []
  | cons file files ih =>
    rw [loadFiles]
    split
    · exact ih
    · exact .bind .checkCancelled fun _ => .bind (.note _) fun _ => .bind (.lift _) fun _ =>
        .bind ih fun _ => .pure _

private theorem loadAll_quiet : Quiet (l.loadAll tree sequenceId) :=
  .bind (find_quiet l tree) fun d =>
    .bind (loadFiles_quiet l tree sequenceId d.directory d.files) fun _ =>
      .bind .checkCancelled fun _ => .pure _

private theorem checkCount_quiet (total excluded : Nat) (f : Freshness) :
    Quiet (checkCount total excluded f) := by
  rw [checkCount]
  split
  · exact .lift (.error _)
  · exact .pure ()

theorem dropFresh_heeds (table : SummaryTable) (bs : List Benchmark) (t : Trace) :
    Heeds l.service (l.dropFresh table bs) t := by
  rw [dropFresh]
  split
  · exact Idle.heeds (.pure _)
  · refine (Service.filterFresh_heeds bs).bind fun freshness t' _ => ?_
    exact Idle.heeds (.bind (.lift (table.note_quiet _ _)) fun _ => .pure freshness)

private theorem finish_heeds (table : SummaryTable) (bs : List Benchmark) (t : Trace) :
    Heeds l.service (l.finish table bs) t := by
  refine (Idle.heeds (.lift .checkCancelled)).bind fun _ t' _ => ?_
  refine (Service.assignUniqueNames_heeds bs).bind fun named t' _ => ?_
  refine (dropFresh_heeds l table named t').bind fun freshness t' _ => ?_
  exact Idle.heeds (.bind (.lift (table.note_quiet _ _)) fun _ => .pure freshness)

private theorem load_heeds (t : Trace) : Heeds l.service (l.load tree sequenceId) t := by
  refine (Idle.heeds (.lift (.lift _))).bind fun chosen t' _ => ?_
  refine (Idle.heeds (.lift .checkCancelled)).bind fun _ t' _ => ?_
  refine (Idle.heeds (.lift (loadAll_quiet l tree sequenceId))).bind fun all t' _ => ?_
  refine (Idle.heeds (.lift (SummaryTable.note_quiet _ _ _))).bind fun _ t' _ => ?_
  refine (finish_heeds l _ _ t').bind fun freshness t' _ => ?_
  exact Idle.heeds (.bind (.lift (checkCount_quiet _ _ _)) fun _ => .pure freshness.kept)

/-- A load with a filter that can be read does nothing if it was cancelled before. None of its calls
is made once it is cancelled, and one that never ends leaves it cancelled if the load is cancelled
meanwhile. -/
theorem load_heeds_cancellation (l : Loader) (tree : FileTree) (sequenceId : String)
    (chosen : VariableFilter)
    (hparse : VariableFilter.parse l.patterns l.config.activeVariables? = .ok chosen) (t : Trace) :
    (t.cancelled = true → (l.load tree sequenceId).runFrom t = (.error .cancelled, t)) ∧
    ∃ made, Heeded l.service t made ((l.load tree sequenceId).runFrom t) := by
  refine ⟨fun ht => ?_, load_heeds l tree sequenceId t⟩
  rw [load, hparse, runFrom_bind_ok (runFrom_lift_except _ t), runFrom_check_bind_of_cancelled ht]

/-- The sample load ends as cancelled, whether it was cancelled before or its only call, for the
unique names, cancels it and never ends. Where that call does not cancel it, it goes on waiting. -/
theorem load_sample_heeds_cancellation :
    ∃ chosen, VariableFilter.parse Sample.patterns (some "n=1") = .ok chosen ∧
      ((Sample.loader (Sample.stuck true)).load Sample.lone "seq").runFrom ⟨true, [], []⟩ =
        (.error .cancelled, ⟨true, [], []⟩) ∧
      ((Sample.loader (Sample.stuck true)).load Sample.lone "seq").outcome = .error .cancelled ∧
      ((Sample.loader (Sample.stuck false)).load Sample.lone "seq").outcome = .pending := by
  obtain ⟨chosen, hparse⟩ : ∃ chosen,
      VariableFilter.parse Sample.patterns (some "n=1") = .ok chosen :=
    exists_eq_ok_of_isSome (by decide +kernel)
  have hheeds := fun cancels => load_heeds_cancellation (Sample.loader (Sample.stuck cancels))
    Sample.lone "seq" chosen hparse
  have hends : ∀ cancels : Bool,
      ((Sample.loader (Sample.stuck cancels)).load Sample.lone "seq").outcome =
        if cancels then .error .cancelled else .pending := by
    intro cancels
    obtain ⟨-, made, hmade⟩ := hheeds cancels ⟨false, [], []⟩
    have hone : (((Sample.loader (Sample.stuck cancels)).load Sample.lone "seq").runFrom
        ⟨false, [], []⟩).2.calls.length = 1 := by
      cases cancels <;> decide +kernel
    rw [hmade.calls, List.nil_append] at hone
    obtain ⟨c, rfl⟩ := List.length_eq_one_iff.mp hone
    have hhangs : (Sample.stuck cancels).Hangs c := by cases c <;> rfl
    have hcancels : (Sample.loader (Sample.stuck cancels)).service.cancels c = cancels := by
      cases c <;> rfl
    rw [Await.outcome, (hmade.hangs c List.mem_cons_self hhangs).2, hcancels]
  exact ⟨chosen, hparse, (hheeds true ⟨true, [], []⟩).1 rfl, hends true, hends false⟩

end Loader

end RunPlan
