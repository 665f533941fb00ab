import RunPlan.Proofs.LoadCourse

/-!
Ages that a service tells by name. Main statement: a load over such a service keeps the named
benchmarks but those whose own age, told under their own unique name, is at most their frequency.
-/

set_option autoImplicit false

namespace RunPlan

open RunPlan.Freshness

/-- Whether the age that is told for the unique name of a benchmark is at most its frequency. -/
def Benchmark.isFresh (age : String → Span) (b : Benchmark) : Bool :=
  match b.frequency?, b.uniqueName? with
  | some frequency, some name => (age name).milliseconds ≤ frequency.milliseconds
  | _, _ => false

/-- A service whose ages depend on the names alone. -/
def Service.TellsAges (service : Service) (age : String → Span) : Prop :=
  ∀ names, (service.executionAges names).reply = .answer (names.map age)

namespace Loader

variable {l : Loader} {bs kept : List Benchmark} {names : List String} {made : List ServiceCall}

theorem exists_of_getElem?_named {i : Nat} {b : Benchmark} (h : (named bs names)[i]? = some b) :
    ∃ b' name, bs[i]? = some b' ∧ names[i]? = some name ∧ b = b'.withUniqueName name := by
  rw [named, List.getElem?_zipWith_eq_some] at h
  obtain ⟨b', name, hb', hname, rfl⟩ := h
  exact ⟨b', name, hb', hname, rfl⟩

theorem exists_of_mem_named {b : Benchmark} (h : b ∈ named bs names) :
    ∃ b' ∈ bs, ∃ name, b = b'.withUniqueName name := by
  obtain ⟨i, hi⟩ := List.mem_iff_getElem?.mp h
  obtain ⟨b', name, hb', -, rfl⟩ := exists_of_getElem?_named hi
  exact ⟨b', List.mem_of_getElem? hb', name, rfl⟩

theorem map_named {α : Type} {f : Benchmark → α} (hf : ∀ b name, f (b.withUniqueName name) = f b)
    (h : names.length = bs.length) : (named bs names).map f = bs.map f := by
  induction bs generalizing names with
  | nil => rfl
  | cons b bs ih =>
    cases names with
    | nil => cases h
    | cons name names =>
      have hrest := ih (Nat.succ.inj h)
      rw [named] at hrest ⊢
      rw [List.zipWith_cons_cons, List.map_cons, List.map_cons, hrest, hf]

private theorem countP_named (h : names.length = bs.length) :
    (named bs names).countP (fun b => b.frequency?.isSome) =
      bs.countP fun b => b.frequency?.isSome := by
  have hfrequencies : (named bs names).map Benchmark.frequency? = bs.map Benchmark.frequency? :=
    map_named (fun _ _ => rfl) h
  have hcount := congrArg (List.countP Option.isSome) hfrequencies
  rwa [List.countP_map, List.countP_map] at hcount

private theorem ranRecently_named {age : String → Span} {i : Nat} {b : Benchmark}
    (h : names.length = bs.length) (hb : (named bs names)[i]? = some b) :
    ranRecently (named bs names) ((asked bs names).map age) i = b.isFresh age := by
  obtain ⟨b', name, hb', hname, rfl⟩ := exists_of_getElem?_named hb
  rw [ranRecently, hb, Option.bind_some, Benchmark.isFresh]
  have hfrequency : (b'.withUniqueName name).frequency? = b'.frequency? := rfl
  rw [hfrequency]
  cases hf : b'.frequency? with
  | none => rfl
  | some frequency =>
    have hplace : ((named bs names).take i).countP (fun b => b.frequency?.isSome) =
        (bs.take i).countP fun b => b.frequency?.isSome := by
      have hlength : (names.take i).length = (bs.take i).length := by
        rw [List.length_take, List.length_take, h]
      rw [← countP_named hlength, named, named, List.take_zipWith]
    have hage : reportedAge? (named bs names) ((asked bs names).map age) i = some (age name) := by
      rw [reportedAge?, hplace, List.getElem?_map, getElem?_asked h hb' (by rw [hf]; rfl), hname]
      rfl
    rw [hage]
    rfl

private theorem not_isFresh_of_not_checksAges {age : String → Span} (h : ¬ l.ChecksAges bs)
    {b : Benchmark}
    (hb : b ∈ named bs names) : (l.config.frequencyCheck && b.isFresh age) = false := by
  obtain ⟨b', hb', name, rfl⟩ := exists_of_mem_named hb
  rw [Bool.and_eq_false_iff, or_iff_not_imp_left, Bool.not_eq_false]
  intro hcheck
  have hnone : b'.frequency? = none := by
    by_contra hsome
    exact h ⟨hcheck, b', hb', Option.isSome_iff_ne_none.mpr hsome⟩
  have hfrequency : (b'.withUniqueName name).frequency? = none := hnone
  rw [Benchmark.isFresh, hfrequency]

/-- What is kept in a load over a service that tells ages by name is decided for each benchmark by
the age under its own unique name. -/
theorem Course.kept_eq_filter {age : String → Span} (h : l.Course (.ok bs) (.ok kept) made)
    (hages : l.service.TellsAges age) :
    ∃ names, names.length = bs.length ∧
      (bs ≠ [] → (l.service.uniqueNames (bs.map Benchmark.nameRequest)).Gives bs.length names) ∧
      kept = (named bs names).filter fun b => !(l.config.frequencyCheck && b.isFresh age) := by
  cases h with
  | nothing => exact ⟨[], rfl, fun hne => absurd rfl hne, rfl⟩
  | @unchecked _ names _ hnames hunchecked =>
    refine ⟨names, hnames.2, fun _ => hnames, ?_⟩
    rw [List.filter_eq_self.mpr]
    intro b hb
    rw [not_isFresh_of_not_checksAges hunchecked hb, Bool.not_false]
  | @checked _ names ages _ hnames hchecks hgiven =>
    refine ⟨names, hnames.2, fun _ => hnames, ?_⟩
    have hanswer : ages = (asked bs names).map age :=
      Reply.answer.inj (hgiven.1.symm.trans (hages (asked bs names)))
    rw [hanswer, kept_part, hchecks.1]
    refine itemsAt_eq_filter fun i b hb => ?_
    rw [ranRecently_named hnames.2 hb, Bool.true_and]

theorem Course.kept_sublist (h : l.Course (.ok bs) (.ok kept) made) :
    ∃ names, names.length = bs.length ∧ kept.Sublist (named bs names) := by
  cases h with
  | nothing => exact ⟨[], rfl, List.Sublist.refl _⟩
  | unchecked _ hnames => exact ⟨_, hnames.2, List.Sublist.refl _⟩
  | checked _ hnames =>
    refine ⟨_, hnames.2, ?_⟩
    rw [kept_part]
    exact itemsAt_sublist _ _

end Loader

end RunPlan
