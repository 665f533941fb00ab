import RunPlan.Service.Basic

/-!
Runs of the parts of a load. Main statements: what a step does to the trace, which parts of a load
do nothing but note messages, so that their outcome depends on no trace, and which calls of the
service the others make.
-/

set_option autoImplicit false

namespace RunPlan

namespace Response

variable {α : Type} {path : String} {n : Nat} {r : Response (List α)}

/-- How a call for `n` items ends: an answer with another number of items is an error. -/
def outcomeFor (path : String) (n : Nat) (r : Response (List α)) : Ending (List α) :=
  match r.reply with
  | .answer as =>
    if as.length = n then .ok as else .error (.serviceProtocolMismatch path n as.length)
  | .failure e => .error e
  | .hang => .pending

theorem outcomeFor_of_answer {as : List α} (h : r.reply = .answer as) :
    r.outcomeFor path n =
      if as.length = n then .ok as else .error (.serviceProtocolMismatch path n as.length) := by
  rw [outcomeFor, h]

theorem outcomeFor_of_failure {e : LoadError} (h : r.reply = .failure e) :
    r.outcomeFor path n = .error e := by
  rw [outcomeFor, h]

theorem outcomeFor_of_hang (h : r.reply = .hang) : r.outcomeFor path n = .pending := by
  rw [outcomeFor, h]

theorem length_of_outcomeFor_eq_ok {as : List α} (h : r.outcomeFor path n = .ok as) :
    as.length = n := by
  cases hreply : r.reply with
  | failure e =>
    rw [outcomeFor_of_failure hreply] at h
    cases h
  | hang =>
    rw [outcomeFor_of_hang hreply] at h
    cases h
  | answer given =>
    rw [outcomeFor_of_answer hreply] at h
    split at h
    · cases h
      assumption
    · cases h

end Response

namespace Ending

variable {α β : Type}

theorem ok_ne_pending {a : α} : (ok a : Ending α) ≠ .pending := nofun

theorem error_ne_pending {e : LoadError} : (error e : Ending α) ≠ .pending := nofun

def map (f : α → β) : Ending α → Ending β
  | .ok a => .ok (f a)
  | .error e => .error e
  | .pending => .pending

def toOption : Ending α → Option α
  | .ok a => some a
  | _ => none

theorem exists_eq_ok_of_isSome {r : Ending α} (h : r.toOption.isSome = true) : ∃ a, r = .ok a := by
  cases r with
  | ok a => exact ⟨a, rfl⟩
  | error e => cases h
  | pending => cases h

theorem map_eq_ok_iff {r : Ending α} {f : α → β} {b : β} :
    r.map f = .ok b ↔ ∃ a, r = .ok a ∧ f a = b := by
  cases r <;> simp [map]

theorem ofExcept_eq_ok_iff {r : Except LoadError α} {a : α} : ofExcept r = .ok a ↔ r = .ok a := by
  cases r <;> simp [ofExcept]

end Ending

namespace Load

variable {α β : Type} {t t' : Trace}

/-- The outcome of a part of a load that starts with the trace `t`, and the trace it leaves. -/
def runFrom (x : Load α) (t : Trace) : Except LoadError α × Trace := x.run.run t

/-- The outcome of a part of a load that nobody cancels, before anything else was done. -/
def outcome (x : Load α) : Except LoadError α := (x.runFrom ⟨false, [], []⟩).1

theorem runFrom_lift (r : Except LoadError α) (t : Trace) :
    (liftM r : Load α).runFrom t = (r, t) := by
  cases r <;> rfl

private theorem runFrom_bind (x : Load α) (f : α → Load β) (t : Trace) :
    (x >>= f).runFrom t =
      match x.runFrom t with
      | (.ok a, t') => (f a).runFrom t'
      | (.error e, t') => (.error e, t') := by
  show (ExceptT.bindCont f (x.runFrom t).1).run (x.runFrom t).2 = _
  rcases x.runFrom t with ⟨r, t'⟩
  cases r <;> rfl

theorem runFrom_bind_ok {x : Load α} {f : α → Load β} {a : α} (h : x.runFrom t = (.ok a, t')) :
    (x >>= f).runFrom t = (f a).runFrom t' := by
  rw [runFrom_bind, h]

theorem runFrom_bind_error {x : Load α} {f : α → Load β} {e : LoadError}
    (h : x.runFrom t = (.error e, t')) : (x >>= f).runFrom t = (.error e, t') := by
  rw [runFrom_bind, h]

theorem runFrom_checkCancelled (t : Trace) :
    checkCancelled.runFrom t = (if t.cancelled then .error .cancelled else .ok (), t) := by
  obtain ⟨cancelled, calls, log⟩ := t
  cases cancelled <;> rfl

/-- A part of a load that, unless it is cancelled, ends with `r` and only notes messages. -/
def Yields (x : Load α) (r : Except LoadError α) : Prop :=
  ∀ t : Trace, t.cancelled = false → ∃ log, x.runFrom t = (r, { t with log })

namespace Yields

variable {x : Load α} {f : α → Load β} {a : α}

theorem pure (a : α) : Yields (Pure.pure a) (.ok a) := fun t _ => ⟨t.log, rfl⟩

theorem lift (r : Except LoadError α) : Yields (liftM r) r :=
  fun t _ => ⟨t.log, runFrom_lift r t⟩

theorem note (message : String) : Yields (Load.note message) (.ok ()) :=
  fun t _ => ⟨t.log ++ [message], rfl⟩

theorem checkCancelled : Yields Load.checkCancelled (.ok ()) := by
  intro t ht
  have hrun := runFrom_checkCancelled t
  rw [if_neg (Bool.eq_false_iff.mp ht)] at hrun
  exact ⟨t.log, hrun⟩

theorem bind_ok {r : Except LoadError β} (hx : x.Yields (.ok a)) (hf : (f a).Yields r) :
    (x >>= f).Yields r := by
  intro t ht
  obtain ⟨log, hlog⟩ := hx t ht
  obtain ⟨log', hlog'⟩ := hf { t with log } ht
  exact ⟨log', (runFrom_bind_ok hlog).trans hlog'⟩

theorem bind {r : Except LoadError α} {g : α → Except LoadError β} (hx : x.Yields r)
    (hf : ∀ a, r = .ok a → (f a).Yields (g a)) : (x >>= f).Yields (r >>= g) := by
  cases r with
  | error e =>
    intro t ht
    obtain ⟨log, hlog⟩ := hx t ht
    exact ⟨log, runFrom_bind_error hlog⟩
  | ok a => exact bind_ok hx (hf a rfl)

theorem forM (f : α → Load Unit) (hf : ∀ a, (f a).Yields (.ok ())) (as : List α) :
    (as.forM f).Yields (.ok ()) := by
  induction as with
  | nil => exact pure ()
  | cons a as ih => exact bind_ok (hf a) ih

theorem outcome_eq {r : Except LoadError α} (h : x.Yields r) : x.outcome = r := by
  obtain ⟨log, hlog⟩ := h ⟨false, [], []⟩ rfl
  rw [outcome, hlog]

end Yields

end Load

namespace Await

variable {α β : Type} {t t' : Trace}

/-- How a part of a load ends that nobody cancels, before anything else was done. -/
def outcome (x : Await α) : Ending α := (x.runFrom ⟨false, [], []⟩).1

theorem runFrom_pure (a : α) (t : Trace) : (pure a : Await α).runFrom t = (.ok a, t) := rfl

theorem runFrom_lift (x : Load α) (t : Trace) :
    (liftM x : Await α).runFrom t = (.ofExcept (x.runFrom t).1, (x.runFrom t).2) := rfl

theorem runFrom_lift_except (r : Except LoadError α) (t : Trace) :
    (liftM r : Await α).runFrom t = (.ofExcept r, t) := by
  cases r <;> rfl

theorem runFrom_bind (x : Await α) (f : α → Await β) (t : Trace) :
    (x >>= f).runFrom t =
      match x.runFrom t with
      | (.ok a, t') => (f a).runFrom t'
      | (.error e, t') => (.error e, t')
      | (.pending, t') => (.pending, t') := rfl

theorem runFrom_bind_ok {x : Await α} {f : α → Await β} {a : α} (h : x.runFrom t = (.ok a, t')) :
    (x >>= f).runFrom t = (f a).runFrom t' := by
  rw [runFrom_bind, h]

theorem runFrom_bind_error {x : Await α} {f : α → Await β} {e : LoadError}
    (h : x.runFrom t = (.error e, t')) : (x >>= f).runFrom t = (.error e, t') := by
  rw [runFrom_bind, h]

theorem runFrom_bind_pending {x : Await α} {f : α → Await β}
    (h : x.runFrom t = (.pending, t')) : (x >>= f).runFrom t = (.pending, t') := by
  rw [runFrom_bind, h]

theorem runFrom_bind_pure (x : Await α) (f : α → β) (t : Trace) :
    (x >>= fun a => pure (f a)).runFrom t = ((x.runFrom t).1.map f, (x.runFrom t).2) := by
  rw [runFrom_bind]
  rcases x.runFrom t with ⟨r, t'⟩
  cases r <;> rfl

theorem runFrom_check_bind {f : Unit → Await β} (h : t.cancelled = false) :
    ((liftM Load.checkCancelled : Await Unit) >>= f).runFrom t = (f ()).runFrom t := by
  apply runFrom_bind_ok
  rw [runFrom_lift, Load.runFrom_checkCancelled, h]
  rfl

theorem runFrom_check_bind_of_cancelled {f : Unit → Await β} (h : t.cancelled = true) :
    ((liftM Load.checkCancelled : Await Unit) >>= f).runFrom t = (.error .cancelled, t) := by
  apply runFrom_bind_error
  rw [runFrom_lift, Load.runFrom_checkCancelled, h]
  rfl

theorem runFrom_cancellable {x : Await α} (h : t.cancelled = false) :
    (cancellable x).runFrom t = x.orCancelled.runFrom t :=
  runFrom_check_bind h

theorem runFrom_cancellable_of_cancelled {x : Await α} (h : t.cancelled = true) :
    (cancellable x).runFrom t = (.error .cancelled, t) :=
  runFrom_check_bind_of_cancelled h

private theorem runFrom_orCancelled_eq (x : Await α) (t : Trace) :
    x.orCancelled.runFrom t =
      match x.runFrom t with
      | (.pending, t') => (if t'.cancelled then .error .cancelled else .pending, t')
      | run => run := rfl

theorem runFrom_orCancelled_of_pending {x : Await α} (h : x.runFrom t = (.pending, t')) :
    x.orCancelled.runFrom t = (if t'.cancelled then .error .cancelled else .pending, t') := by
  rw [runFrom_orCancelled_eq, h]

theorem runFrom_orCancelled {x : Await α} (h : (x.runFrom t).1 ≠ .pending) :
    x.orCancelled.runFrom t = x.runFrom t := by
  rw [runFrom_orCancelled_eq]
  rcases hrun : x.runFrom t with ⟨r, t'⟩
  cases r with
  | ok a => rfl
  | error e => rfl
  | pending =>
    rw [hrun] at h
    exact absurd rfl h

private theorem runFrom_call (c : ServiceCall) (r : Response α) (t : Trace) :
    (call c r).runFrom t = (r.reply.ending,
      { t with calls := t.calls ++ [c], cancelled := t.cancelled || r.cancels }) := rfl

theorem runFrom_callFor (path : String) (n : Nat) (c : ServiceCall) (r : Response (List α))
    (t : Trace) :
    (callFor path n c r).runFrom t =
      (r.outcomeFor path n,
        { t with calls := t.calls ++ [c], cancelled := t.cancelled || r.cancels }) := by
  rw [callFor, runFrom_bind, runFrom_call, Response.outcomeFor]
  cases r.reply with
  | failure e => rfl
  | hang => rfl
  | answer as =>
    simp only [Reply.ending, ne_eq, ite_not]
    split <;> rfl

theorem runFrom_bind_eq_ok_iff {x : Await α} {f : α → Await β} {b : β} :
    (x >>= f).runFrom t = (.ok b, t') ↔
      ∃ a s, x.runFrom t = (.ok a, s) ∧ (f a).runFrom s = (.ok b, t') := by
  rw [runFrom_bind]
  rcases x.runFrom t with ⟨r, s⟩
  cases r <;> simp [and_assoc]

theorem runFrom_pure_eq_ok_iff {a b : α} :
    (pure a : Await α).runFrom t = (.ok b, t') ↔ a = b ∧ t = t' := by
  rw [runFrom_pure, Prod.mk.injEq, Ending.ok.injEq]

theorem runFrom_lift_except_eq_ok_iff {r : Except LoadError α} {a : α} :
    (liftM r : Await α).runFrom t = (.ok a, t') ↔ r = .ok a ∧ t = t' := by
  rw [runFrom_lift_except, Prod.mk.injEq, Ending.ofExcept_eq_ok_iff]

theorem runFrom_check_bind_eq_ok_iff {f : Unit → Await α} {a : α} :
    ((liftM Load.checkCancelled : Await Unit) >>= f).runFrom t = (.ok a, t') ↔
      t.cancelled = false ∧ (f ()).runFrom t = (.ok a, t') := by
  cases ht : t.cancelled with
  | false => rw [runFrom_check_bind ht, eq_self, true_and]
  | true =>
    rw [runFrom_check_bind_of_cancelled ht]
    simp

private theorem runFrom_orCancelled_eq_ok_iff {x : Await α} {a : α} :
    x.orCancelled.runFrom t = (.ok a, t') ↔ x.runFrom t = (.ok a, t') := by
  rw [runFrom_orCancelled_eq]
  rcases x.runFrom t with ⟨r, s⟩
  cases r with
  | ok a' => exact Iff.rfl
  | error e => exact Iff.rfl
  | pending => cases hs : s.cancelled <;> simp [hs]

theorem runFrom_cancellable_eq_ok_iff {x : Await α} {a : α} :
    (cancellable x).runFrom t = (.ok a, t') ↔
      t.cancelled = false ∧ x.runFrom t = (.ok a, t') := by
  rw [cancellable, runFrom_check_bind_eq_ok_iff, runFrom_orCancelled_eq_ok_iff]

/-- A part of a load that, unless it is cancelled before or meanwhile, ends with `r` and makes the
calls `cs`. -/
def Makes (x : Await α) (r : Ending α) (cs : List ServiceCall) : Prop :=
  ∀ t : Trace, t.cancelled = false →
    ∃ log, x.runFrom t = (r, { t with calls := t.calls ++ cs, log })

namespace Makes

variable {x : Await α} {f : α → Await β} {a : α} {cs cs' : List ServiceCall}

private theorem of_log {r : Ending α} (h : ∀ t : Trace, t.cancelled = false →
    ∃ log, x.runFrom t = (r, { t with log })) : x.Makes r [] := by
  intro t ht
  obtain ⟨log, hlog⟩ := h t ht
  refine ⟨log, ?_⟩
  rw [hlog, List.append_nil]

theorem pure (a : α) : Makes (Pure.pure a) (.ok a) [] := of_log fun t _ => ⟨t.log, rfl⟩

theorem lift_except (r : Except LoadError α) : Makes (liftM r) (.ofExcept r) [] :=
  of_log fun t _ => ⟨t.log, runFrom_lift_except r t⟩

theorem lift {x : Load α} {r : Except LoadError α} (h : x.Yields r) :
    Makes (liftM x) (.ofExcept r) [] := by
  refine of_log fun t ht => ?_
  obtain ⟨log, hlog⟩ := h t ht
  refine ⟨log, ?_⟩
  rw [runFrom_lift, hlog]

theorem bind_ok {r : Ending β} (hx : x.Makes (.ok a) cs) (hf : (f a).Makes r cs') :
    (x >>= f).Makes r (cs ++ cs') := by
  intro t ht
  obtain ⟨log, hlog⟩ := hx t ht
  obtain ⟨log', hlog'⟩ := hf { t with calls := t.calls ++ cs, log } ht
  refine ⟨log', (runFrom_bind_ok hlog).trans (hlog'.trans ?_)⟩
  rw [List.append_assoc]

theorem bind_error {e : LoadError} (hx : x.Makes (.error e) cs) :
    (x >>= f).Makes (.error e) cs := by
  intro t ht
  obtain ⟨log, hlog⟩ := hx t ht
  exact ⟨log, runFrom_bind_error hlog⟩

theorem after {r : Ending β} (hx : x.Makes (.ok a) []) (hf : (f a).Makes r cs) :
    (x >>= f).Makes r cs :=
  (bind_ok hx hf : (x >>= f).Makes r ([] ++ cs))

theorem before {r : Ending β} (hx : x.Makes (.ok a) cs) (hf : (f a).Makes r []) :
    (x >>= f).Makes r cs := by
  have h := bind_ok hx hf
  rwa [List.append_nil] at h

theorem cancellable {r : Ending α} (h : x.Makes r cs) (hends : r ≠ .pending) :
    (Await.cancellable x).Makes r cs := by
  intro t ht
  obtain ⟨log, hlog⟩ := h t ht
  refine ⟨log, ?_⟩
  rw [runFrom_cancellable ht, runFrom_orCancelled (by rwa [hlog]), hlog]

theorem callFor (path : String) (n : Nat) (c : ServiceCall) {r : Response (List α)}
    (h : r.cancels = false) : (Await.callFor path n c r).Makes (r.outcomeFor path n) [c] := by
  intro t ht
  refine ⟨t.log, ?_⟩
  rw [runFrom_callFor, h, Bool.or_false]

end Makes

end Await

end RunPlan
