import RunPlan.Proofs.Freshness
import RunPlan.Proofs.LoadRun

/-!
Leaving out the benchmarks that ran recently, over any service and from any trace. Main statement:
if a benchmark with a frequency has no unique name, nothing is asked; otherwise the ages are asked
for once, each benchmark with a frequency is decided by the age at its place among those, and an
answer with another number of ages is an error.
-/

set_option autoImplicit false

namespace RunPlan

/-- A benchmark with a frequency, but without the name that its age is asked for under. -/
def Benchmark.IsNameless (b : Benchmark) : Prop :=
  b.frequency?.isSome = true ∧ b.uniqueName? = none

instance (b : Benchmark) : Decidable b.IsNameless :=
  inferInstanceAs (Decidable (b.frequency?.isSome = true ∧ b.uniqueName? = none))

namespace Freshness

/-- A choice of positions: those of the benchmarks with a frequency whose age, the one at their
place among the benchmarks with a frequency, is at most that. Each of these has an age. -/
structure Chooses (bs : List Benchmark) (ages : List Span) (recent : Nat → Bool) : Prop where
  untimed : ∀ i b, bs[i]? = some b → b.frequency? = none → recent i = false
  timed : ∀ i b frequency, bs[i]? = some b → b.frequency? = some frequency →
    ∃ age, ages[(bs.take i).countP fun b => b.frequency?.isSome]? = some age ∧
      (recent i = true ↔ age.milliseconds ≤ frequency.milliseconds)

/-- Benchmarks parted by their ages: both parts keep the order, and together they are all of the
benchmarks. -/
structure PartsByAge (bs : List Benchmark) (ages : List Span) (f : Freshness) : Prop where
  chosen : ∃ recent, Chooses bs ages recent ∧ f.fresh = itemsAt recent bs ∧
    f.kept = itemsAt (fun i => !recent i) bs
  fresh : f.fresh.Sublist bs
  kept : f.kept.Sublist bs
  all : (f.kept ++ f.fresh).Perm bs

/-- How the benchmarks are parted once ages are asked for under `names`, from a trace `t`. -/
structure AsksOnce (service : Service) (bs : List Benchmark) (names : List String) (t : Trace)
    (run : Ending Freshness × Trace) : Prop where
  trace : run.2 =
    { t with
      calls := t.calls ++ [.ages names]
      cancelled := t.cancelled || (service.executionAges names).cancels }
  answered : ∀ ages, (service.executionAges names).reply = .answer ages →
    ages.length = names.length → ∃ f, run.1 = .ok f ∧ PartsByAge bs ages f
  mismatched : ∀ ages, (service.executionAges names).reply = .answer ages →
    ages.length ≠ names.length →
    run.1 = .error (.serviceProtocolMismatch Service.agesPath names.length ages.length)
  failed : ∀ e, (service.executionAges names).reply = .failure e → run.1 = .error e
  hanging : (service.executionAges names).reply = .hang → run.1 = .pending

section Parts

variable {bs : List Benchmark} {ages : List Span}

private theorem countP_take_lt {α : Type} {p : α → Bool} {as : List α} {i : Nat} {a : α}
    (ha : as[i]? = some a) (hp : p a = true) : (as.take i).countP p < as.countP p := by
  obtain ⟨hi, rfl⟩ := List.getElem?_eq_some_iff.mp ha
  have hsplit : as.countP p = (as.take i).countP p + (as.drop i).countP p := by
    rw [← List.countP_append, List.take_append_drop]
  rw [hsplit, List.drop_eq_getElem_cons hi, List.countP_cons_of_pos hp]
  omega

private theorem chooses_ranRecently
    (h : ages.length = bs.countP fun b => b.frequency?.isSome) :
    Chooses bs ages (ranRecently bs ages) where
  untimed i b hb hnone := by
    rw [ranRecently, hb, Option.bind_some, hnone]
  timed i b frequency hb hfrequency := by
    have hplace : ((bs.take i).countP fun b => b.frequency?.isSome) < ages.length := by
      rw [h]
      exact countP_take_lt hb (by rw [hfrequency]; rfl)
    obtain ⟨age, hage⟩ : ∃ age, reportedAge? bs ages i = some age :=
      ⟨_, List.getElem?_eq_getElem hplace⟩
    refine ⟨age, hage, ?_⟩
    rw [ranRecently, hb, Option.bind_some, hfrequency, hage]
    exact decide_eq_true_iff

private theorem partsByAge_part (h : ages.length = bs.countP fun b => b.frequency?.isSome) :
    PartsByAge bs ages (part bs ages) := by
  rw [part_eq]
  exact
    { chosen := ⟨_, chooses_ranRecently h, rfl, rfl⟩
      fresh := itemsAt_sublist (ranRecently bs ages) bs
      kept := itemsAt_sublist (fun i => !ranRecently bs ages i) bs
      all := perm_itemsAt_not_append (ranRecently bs ages) bs }

end Parts

section Names

variable {b : Benchmark} {bs : List Benchmark} {name : String} {names : List String} {e : LoadError}

def nameOf (b : Benchmark) : Except LoadError String :=
  match b.uniqueName? with
  | some name => .ok name
  | none => .error (.unnamedBenchmark b.name)

private theorem nameOf_eq_ok_iff : nameOf b = .ok name ↔ b.uniqueName? = some name := by
  rw [nameOf]
  cases b.uniqueName? <;> simp

private theorem nameOf_eq_error_iff :
    nameOf b = .error e ↔ b.uniqueName? = none ∧ e = .unnamedBenchmark b.name := by
  rw [nameOf]
  cases b.uniqueName? <;> simp [eq_comm]

private theorem names_eq_mapM (bs : List Benchmark) :
    Freshness.names bs = (bs.filter fun b => b.frequency?.isSome).mapM nameOf := rfl

private theorem names_eq_ok_iff : Freshness.names bs = .ok names ↔
    (bs.filter fun b => b.frequency?.isSome).map Benchmark.uniqueName? = names.map some := by
  rw [names_eq_mapM, mapM_eq_ok_iff, ← List.forall₂_eq_eq_eq, List.forall₂_map_left_iff,
    List.forall₂_map_right_iff]
  simp only [nameOf_eq_ok_iff]

private theorem names_eq_error_iff : Freshness.names bs = .error e ↔
    ∃ before b after, bs = before ++ b :: after ∧ (∀ b' ∈ before, ¬ b'.IsNameless) ∧
      b.IsNameless ∧ e = .unnamedBenchmark b.name := by
  have hnamed : ∀ b : Benchmark, ¬ b.IsNameless ↔
      (b.frequency?.isSome = true → ∃ name, nameOf b = .ok name) := by
    intro b
    simp only [nameOf_eq_ok_iff, ← Option.ne_none_iff_exists', Benchmark.IsNameless, not_and]
  simp only [names_eq_mapM, mapM_filter_eq_error_iff, nameOf_eq_error_iff, hnamed]
  simp only [Benchmark.IsNameless, and_assoc]

private theorem names_fails_iff :
    (∃ e, Freshness.names bs = .error e) ↔ ∃ b ∈ bs, b.IsNameless := by
  rw [names_eq_mapM, mapM_filter_fails_iff]
  simp only [nameOf_eq_error_iff, exists_and_left, exists_eq, and_true, Benchmark.IsNameless]

end Names

end Freshness

open Freshness Await

/-- Ages are asked for under the names, and the answer parts the benchmarks. -/
theorem asksOnce_filterFresh {bs : List Benchmark} {names : List String} (service : Service)
    (t : Trace) (hnames : Freshness.names bs = .ok names) (hne : names ≠ []) :
    AsksOnce service bs names t ((service.filterFresh bs).runFrom t) := by
  have hlength : names.length = bs.countP fun b => b.frequency?.isSome := by
    have h := congrArg List.length (names_eq_ok_iff.mp hnames)
    rw [List.length_map, List.length_map] at h
    rw [List.countP_eq_length_filter, h]
  have hrun : (service.filterFresh bs).runFrom t =
      (((service.executionAges names).outcomeFor Service.agesPath names.length).map (part bs),
        { t with
          calls := t.calls ++ [.ages names]
          cancelled := t.cancelled || (service.executionAges names).cancels }) := by
    rw [Service.filterFresh, hnames, runFrom_bind_ok (runFrom_lift_except _ t)]
    simp only [List.isEmpty_iff, if_neg hne]
    rw [runFrom_bind_pure, runFrom_callFor]
  rw [hrun]
  constructor
  · rfl
  · intro ages hanswer hall
    rw [Response.outcomeFor_of_answer hanswer, if_pos hall]
    exact ⟨part bs ages, rfl, partsByAge_part (hall.trans hlength)⟩
  · intro ages hanswer hother
    rw [Response.outcomeFor_of_answer hanswer, if_neg hother]
    rfl
  · intro e hfailure
    rw [Response.outcomeFor_of_failure hfailure]
    rfl
  · intro hhang
    rw [Response.outcomeFor_of_hang hhang]
    rfl

/-- Over any service, the first nameless benchmark ends the parting before anything is asked. If
none is nameless, ages are asked for once, under the names of those with a frequency in their order;
without any of those there is no call, and all benchmarks are kept. -/
theorem filterFresh_parts_by_age (service : Service) (bs : List Benchmark) (t : Trace) :
    ((∃ b ∈ bs, b.IsNameless) → ∃ before b after, bs = before ++ b :: after ∧
      (∀ b' ∈ before, ¬ b'.IsNameless) ∧ b.IsNameless ∧
      (service.filterFresh bs).runFrom t = (.error (.unnamedBenchmark b.name), t)) ∧
    ((∀ b ∈ bs, ¬ b.IsNameless) → ∃ names : List String,
      (bs.filter fun b => b.frequency?.isSome).map Benchmark.uniqueName? = names.map some ∧
      (names = [] → (service.filterFresh bs).runFrom t = (.ok ⟨bs, []⟩, t)) ∧
      (names ≠ [] → AsksOnce service bs names t ((service.filterFresh bs).runFrom t))) := by
  cases hnames : Freshness.names bs with
  | error e =>
    obtain ⟨before, b, after, rfl, hbefore, hb, rfl⟩ := names_eq_error_iff.mp hnames
    constructor
    · intro _
      refine ⟨before, b, after, rfl, hbefore, hb, ?_⟩
      rw [Service.filterFresh, hnames]
      rfl
    · intro hnamed
      exact absurd hb (hnamed b (List.mem_append_right _ List.mem_cons_self))
  | ok names =>
    constructor
    · intro hnameless
      obtain ⟨e, he⟩ := names_fails_iff.mpr hnameless
      rw [hnames] at he
      cases he
    · intro _
      refine ⟨names, names_eq_ok_iff.mp hnames, ?_, asksOnce_filterFresh service t hnames⟩
      rintro rfl
      rw [Service.filterFresh, hnames]
      rfl

def Sample.underOwnName (name : String) (frequency? : Option Span) : Benchmark :=
  { name, sequenceId := "seq", uniqueName? := some name, dataSource := "d", environment := "e",
    runs := 1, prewarmRuns := 0, concurrency := 1, frequency?, beforeBenchmark := [],
    afterBenchmark := [], beforeExecution := [], afterExecution := [], queries := [], vars := ∅,
    runs_pos := Nat.le_refl 1, concurrency_pos := Nat.le_refl 1 }

def Sample.mixed : List Benchmark :=
  [underOwnName "a" none, underOwnName "b" (some (.ofDays 1)), underOwnName "c" none,
    underOwnName "d" (some (.ofDays 7)), underOwnName "e" (some (.ofDays 2))]

def Sample.mixedAges : List Span := [.ofDays 10, ⟨3600000⟩, .ofDays 2]

def Sample.aging : Service := ⟨fun _ => Service.respond [], fun _ => Service.respond mixedAges⟩

theorem filterFresh_sample_parts_by_age :
    (∀ b ∈ Sample.mixed, ¬ b.IsNameless) ∧ ∃ f,
      (Sample.aging.filterFresh Sample.mixed).runFrom ⟨false, [], []⟩ =
        (.ok f, ⟨false, [.ages ["b", "d", "e"]], []⟩) ∧
      PartsByAge Sample.mixed Sample.mixedAges f := by
  have hnamed : ∀ b ∈ Sample.mixed, ¬ b.IsNameless := by decide
  obtain ⟨names, hnames, -, hasks⟩ :=
    (filterFresh_parts_by_age Sample.aging Sample.mixed ⟨false, [], []⟩).2 hnamed
  obtain rfl : names = ["b", "d", "e"] :=
    (List.map_inj_right fun _ _ => Option.some.inj).mp (hnames.symm.trans (by decide))
  have hrun := hasks (List.cons_ne_nil _ _)
  obtain ⟨f, hf, hparts⟩ := hrun.answered Sample.mixedAges rfl rfl
  exact ⟨hnamed, f, Prod.ext hf hrun.trace, hparts⟩

end RunPlan
