import RunPlan.Proofs.AgeByName
import RunPlan.Proofs.EndingWell

/-!
What tells benchmarks apart. Main statements: two benchmarks are sent to the service as the same
request exactly if they share their name and the values of all variables that say what to run, and
where the service names different requests differently, those that differ have their own unique
names and their own ages. Variables that only say how to run do not count.
-/

set_option autoImplicit false

namespace RunPlan

open RunPlan.Await RunPlan.Freshness

section Requests

/-- The same request as far as a service can tell: it reads the variables without an order. -/
def NameRequest.Same (r r' : NameRequest) : Prop :=
  r.name = r'.name ∧ ∀ key, r.vars.get? key = r'.vars.get? key

/-- Benchmarks that differ in their names, or in a variable that says what to run. -/
def Benchmark.Differs (b b' : Benchmark) : Prop :=
  b.name ≠ b'.name ∨ ∃ key, Key.isReserved key = false ∧ b.vars.get? key ≠ b'.vars.get? key

private theorem OrderedMap.get?_filter_key {κ α : Type} [DecidableEq κ] (m : OrderedMap κ α)
    (p : κ → Bool) (key : κ) :
    (m.filter fun k _ => p k).get? key = if p key then m.get? key else none := by
  have hentries : ∀ es : List (κ × α), Entries.find? (es.filter fun e => p e.1) key =
      if p key then Entries.find? es key else none := by
    intro es
    induction es with
    | nil => simp [Entries.find?]
    | cons e es ih =>
      obtain ⟨k, a⟩ := e
      by_cases hk : k = key
      · subst hk
        cases hp : p k with
        | true => simp [hp, Entries.find?]
        | false =>
          rw [hp] at ih
          simpa [hp] using ih
      · cases hp : p k with
        | true => simp [hp, Entries.find?, hk, ih]
        | false => simp [hp, Entries.find?, hk, ih]
  exact hentries m.entries

private theorem Benchmark.get?_freeVariables (b : Benchmark) (key : String) :
    b.freeVariables.get? key = if Key.isReserved key then none else b.vars.get? key := by
  rw [freeVariables, OrderedMap.get?_filter_key]
  cases Key.isReserved key <;> rfl

private theorem Benchmark.same_nameRequest_iff {b b' : Benchmark} :
    b.nameRequest.Same b'.nameRequest ↔ ¬ b.Differs b' := by
  constructor
  · rintro ⟨hname, hvars⟩ (hne | ⟨key, hkey, hne⟩)
    · exact hne hname
    · have hvalue : b.freeVariables.get? key = b'.freeVariables.get? key := hvars key
      rw [get?_freeVariables, get?_freeVariables, hkey] at hvalue
      exact hne hvalue
  · intro hsame
    rw [Benchmark.Differs, not_or, not_not] at hsame
    obtain ⟨hname, hvars⟩ := hsame
    refine ⟨hname, fun key => ?_⟩
    show b.freeVariables.get? key = b'.freeVariables.get? key
    rw [get?_freeVariables, get?_freeVariables]
    cases hkey : Key.isReserved key with
    | true => rfl
    | false =>
      by_contra hne
      exact hvars ⟨key, hkey, hne⟩

end Requests

/-- A service that gives different names to different requests, and tells ages by the names. -/
structure Service.Identifies (service : Service) (age : String → Span) : Prop where
  names : ∀ requests names, (service.uniqueNames requests).Gives requests.length names →
    ∀ (i j : Nat) r r', requests[i]? = some r → requests[j]? = some r' → names[i]? = names[j]? →
      r.Same r'
  ages : service.TellsAges age

namespace Sample

/-- A file with two benchmarks that run the same on different data. -/
def sources : FileTree :=
  ⟨[("b", .directory [("t.yaml", .file (some
    "query-names: q\nvariables:\n  g:\n    data-source: presto, hive\n"))])], []⟩

def numeral (n : Nat) : String := String.ofList (List.replicate n 'n')

/-- The age under such a name: as many milliseconds as it has characters. -/
def ageOf (name : String) : Span := ⟨name.length⟩

def counting : Service where
  uniqueNames requests := Service.respond (requests.mapIdx fun i _ => numeral i)
  executionAges names := Service.respond (names.map ageOf)

end Sample

private theorem Await.exists_calls_bind {α β : Type} {x : Await α} {f : α → Await β}
    {service : Service}
    (hf : ∀ a s, Heeds service (f a) s) (t : Trace) :
    ∃ later, ((x >>= f).runFrom t).2.calls = (x.runFrom t).2.calls ++ later := by
  rw [runFrom_bind]
  rcases x.runFrom t with ⟨r, s⟩
  cases r with
  | error e => exact ⟨[], (List.append_nil _).symm⟩
  | pending => exact ⟨[], (List.append_nil _).symm⟩
  | ok a =>
    obtain ⟨made, hmade⟩ := hf a s
    exact ⟨made, hmade.calls⟩

namespace Loader

variable {l : Loader} {tree : FileTree} {sequenceId : String} {bs kept : List Benchmark}
  {names : List String} {t : Trace}

/-- However it ends, the phase behind the expansion starts with the requests of all benchmarks. -/
theorem exists_calls_finish (table : SummaryTable) (hne : bs ≠ []) (ht : t.cancelled = false) :
    ∃ later, ((l.finish table bs).runFrom t).2.calls = t.calls ++ namesCall bs :: later := by
  have hrest : ∀ named s, Heeds l.service (do
      let f ← l.dropFresh table named
      table.note "Selected Benchmarks:" f.kept
      return f) s := fun named s =>
    (dropFresh_heeds l table named s).bind fun f _ _ =>
      Idle.heeds (.bind (.lift (table.note_quiet _ _)) fun _ => .pure f)
  obtain ⟨later, hlater⟩ :=
    exists_calls_bind (x := cancellable (l.service.assignUniqueNames bs)) hrest t
  refine ⟨later, ?_⟩
  rw [finish, runFrom_check_bind ht, hlater, runFrom_cancellable ht,
    (Service.asks_assignUniqueNames hne).runFrom_orCancelled_snd, List.append_assoc]
  rfl

/-- Named benchmarks that differ have different unique names, if the service tells their requests
apart. -/
theorem uniqueName?_ne_of_differs {age : String → Span} (hservice : l.service.Identifies age)
    (hnames : (l.service.uniqueNames (bs.map Benchmark.nameRequest)).Gives bs.length names)
    {b b' : Benchmark} (hb : b ∈ named bs names) (hb' : b' ∈ named bs names)
    (hdiffers : b.Differs b') : b.uniqueName? ≠ b'.uniqueName? := by
  obtain ⟨i, hi⟩ := List.mem_iff_getElem?.mp hb
  obtain ⟨j, hj⟩ := List.mem_iff_getElem?.mp hb'
  obtain ⟨c, name, hc, hname, rfl⟩ := exists_of_getElem?_named hi
  obtain ⟨c', name', hc', hname', rfl⟩ := exists_of_getElem?_named hj
  intro heq
  have hsame : name = name' := Option.some.inj heq
  rw [← List.length_map Benchmark.nameRequest] at hnames
  have hrequests := hservice.names _ _ hnames i j c.nameRequest c'.nameRequest
    (by rw [List.getElem?_map, hc]; rfl) (by rw [List.getElem?_map, hc']; rfl)
    (by rw [hname, hname', hsame])
  exact Benchmark.same_nameRequest_iff.mp hrequests hdiffers

/-- A load sends its included benchmarks in one call. Two of them are the same request exactly if
they differ neither in name nor in a variable that says what to run; where the service names
different requests differently, those that differ have unique names of their own, and each is kept
or left out by the age that is told for its own. -/
theorem load_tells_apart (l : Loader) (tree : FileTree) (sequenceId : String)
    {bs : List Benchmark} (hincluded : l.included tree sequenceId = .ok bs) (t : Trace)
    (ht : t.cancelled = false) :
    (bs ≠ [] → ∃ later, ((l.load tree sequenceId).runFrom t).2.calls =
      t.calls ++ .names (bs.map Benchmark.nameRequest) :: later) ∧
    (∀ b b' : Benchmark, b.nameRequest.Same b'.nameRequest ↔ ¬ b.Differs b') ∧
    ∀ age, l.service.Identifies age → ∀ kept, ((l.load tree sequenceId).runFrom t).1 = .ok kept →
      ∃ names, names.length = bs.length ∧
        (bs ≠ [] → (l.service.uniqueNames (bs.map Benchmark.nameRequest)).Gives bs.length names) ∧
        (∀ b ∈ named bs names, ∀ b' ∈ named bs names, b.Differs b' →
          b.uniqueName? ≠ b'.uniqueName?) ∧
        kept = (named bs names).filter fun b => !(l.config.frequencyCheck && b.isFresh age) := by
  refine ⟨fun hne => ?_, fun b b' => Benchmark.same_nameRequest_iff, ?_⟩
  · obtain ⟨table, log, hrun⟩ := exists_runFrom_load hincluded ht
    have ht' : { t with log }.cancelled = false := ht
    rw [hrun]
    exact exists_calls_finish table hne ht'
  · intro age hservice kept hkept
    obtain ⟨bs', made, hbs, hended⟩ := load_eq_ok (Prod.ext hkept rfl)
    obtain rfl : bs = bs' := Except.ok.inj (hincluded.symm.trans hbs)
    obtain ⟨names, hlength, hgives, hfilter⟩ := hended.course.kept_eq_filter hservice.ages
    refine ⟨names, hlength, hgives, fun b hb b' hb' => ?_, hfilter⟩
    have hne : bs ≠ [] := by
      rintro rfl
      cases hb
    exact uniqueName?_ne_of_differs hservice (hgives hne) hb hb'

private theorem Sample.exists_sources :
    ∃ all b b', ((Sample.loader .offline).loadAll Sample.sources "seq").outcome = .ok all ∧
      b ∈ all ∧ b' ∈ all ∧ b.vars.get? Key.dataSource = some "presto" ∧
      b'.vars.get? Key.dataSource = some "hive" ∧ b.nameRequest = b'.nameRequest := by
  have hdiscovery : (Sample.loader .offline).discovery Sample.sources =
      .ok ⟨Sample.directory, [⟨"/b/t.yaml", ⟨"/b/t.yaml"⟩⟩]⟩ :=
    eq_ok_of_toOption (by decide +kernel)
  have hview : ((Sample.loader .offline).blocks Sample.sources "seq" Sample.directory
      [⟨"/b/t.yaml", ⟨"/b/t.yaml"⟩⟩]).toOption.map (fun bss => bss.map fun bs => bs.map fun b =>
        (b.vars.get? Key.dataSource, b.nameRequest)) =
      some [[(some "presto", ⟨"t", ∅⟩), (some "hive", ⟨"t", ∅⟩)]] := by
    decide +kernel
  obtain ⟨bss, hbss, hview⟩ := Option.map_eq_some_iff.mp hview
  obtain ⟨bs, rest, rfl, hbs, hrest⟩ := List.map_eq_cons_iff.mp hview
  obtain ⟨b, bs', rfl, hb, hbs'⟩ := List.map_eq_cons_iff.mp hbs
  obtain ⟨b', bs'', rfl, hb', hbs''⟩ := List.map_eq_cons_iff.mp hbs'
  obtain rfl := List.map_eq_nil_iff.mp hrest
  obtain rfl := List.map_eq_nil_iff.mp hbs''
  rw [Prod.mk.injEq] at hb hb'
  have hall : (Sample.loader .offline).allBenchmarks Sample.sources "seq" =
      .ok (NaturalOrder.sortBy Benchmark.name [b, b']) :=
    bind_eq_ok_iff.mpr ⟨_, hdiscovery, map_eq_ok_iff.mpr ⟨_, eq_ok_of_toOption hbss, rfl⟩⟩
  have hmem : ∀ c ∈ [b, b'], c ∈ NaturalOrder.sortBy Benchmark.name [b, b'] :=
    fun c hc => (NaturalOrder.sortBy_perm _ _).mem_iff.mpr hc
  exact ⟨_, b, b', (loadAll_yields (Sample.loader .offline) Sample.sources "seq").outcome_eq.trans
    hall, hmem b (by simp), hmem b' (by simp), hb.1, hb'.1, hb.2.trans hb'.2.symm⟩

private theorem Sample.counting_identifies : Sample.counting.Identifies Sample.ageOf where
  names := by
    intro requests names hgives i j r r' hi hj hnames
    have hanswer : names = requests.mapIdx fun i _ => Sample.numeral i :=
      (Reply.answer.inj hgives.1).symm
    rw [hanswer, List.getElem?_mapIdx, List.getElem?_mapIdx, hi, hj, Option.map_some,
      Option.map_some, Option.some.injEq, Sample.numeral, Sample.numeral,
      String.ofList_inj] at hnames
    have hij : i = j := by
      rw [← List.length_replicate (n := i) (a := 'n'), hnames, List.length_replicate]
    rw [hij, hj, Option.some.injEq] at hi
    rw [hi]
    exact ⟨rfl, fun _ => rfl⟩
  ages := fun _ => rfl

theorem load_sample_tells_apart :
    Sample.counting.Identifies Sample.ageOf ∧ ∃ bs names kept,
      (Sample.loader Sample.counting).included Sample.tree "seq" = .ok bs ∧
      names.length = bs.length ∧
      (bs ≠ [] → (Sample.counting.uniqueNames (bs.map Benchmark.nameRequest)).Gives bs.length
        names) ∧
      (∀ b ∈ named bs names, ∀ b' ∈ named bs names, b.Differs b' →
        b.uniqueName? ≠ b'.uniqueName?) ∧
      ((Sample.loader Sample.counting).load Sample.tree "seq").outcome = .ok kept ∧
      kept = (named bs names).filter fun b => !b.isFresh Sample.ageOf := by
  have hanswers : Sample.counting.AnswersInFull :=
    { names := fun requests => ⟨_, rfl, List.length_mapIdx⟩
      ages := fun names => ⟨_, rfl, List.length_map _⟩ }
  obtain ⟨bs, hbs⟩ := exists_sample_included Sample.counting
  obtain ⟨kept, t', hload⟩ := exists_load_eq_ok (t := ⟨false, [], []⟩) hanswers hbs rfl
  have hkept : ((Sample.loader Sample.counting).load Sample.tree "seq").outcome = .ok kept := by
    rw [outcome, hload]
  obtain ⟨names, hlength, hgives, hnames, hfilter⟩ :=
    (load_tells_apart (Sample.loader Sample.counting) Sample.tree "seq" hbs ⟨false, [], []⟩ rfl).2.2
      Sample.ageOf Sample.counting_identifies kept hkept
  exact ⟨Sample.counting_identifies, bs, names, kept, hbs, hlength, hgives, hnames, hkept, hfilter⟩

/-- Benchmarks that differ in a variable which says how to run are sent as the same request. -/
theorem not_forall_nameRequest_ne_of_vars_ne :
    ¬ ∀ (l : Loader) (tree : FileTree) (sequenceId : String) (all : List Benchmark),
      (l.loadAll tree sequenceId).outcome = .ok all → ∀ b ∈ all, ∀ b' ∈ all,
        (b.name ≠ b'.name ∨ ∃ key, b.vars.get? key ≠ b'.vars.get? key) →
        b.nameRequest ≠ b'.nameRequest := by
  intro hall
  obtain ⟨all, b, b', hload, hb, hb', hvalue, hvalue', hsame⟩ := Sample.exists_sources
  refine hall (Sample.loader .offline) Sample.sources "seq" all hload b hb b' hb' ?_ hsame
  refine Or.inr ⟨Key.dataSource, ?_⟩
  rw [hvalue, hvalue']
  decide

end Loader

end RunPlan
