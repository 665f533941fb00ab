import RunPlan.Benchmark.Json
import RunPlan.Proofs.BenchmarkVariables
import RunPlan.Proofs.NaturalOrder.Values
import Mathlib.Tactic.Ring

/-!
Counts, and the benchmarks that are built from them. Main statements: a count is an optional `+` and
digits for a number of 32 bits, with white space around them; a benchmark is built exactly if every
count of its descriptor can be read and none is too small, else it fails at the first that is not
one; and a frequency in days is kept to the millisecond.
-/

set_option autoImplicit false

namespace RunPlan

open RunPlan.Text NaturalOrder

/-- The text, without white space around it, is an optional `+` and the digits of a number that 32
bits hold. -/
structure WritesCount (text : String) (n : Nat) : Prop where
  digits : ∃ sign ds, trim text.toList = sign ++ ds ∧ (sign = [] ∨ sign = ['+']) ∧ ds ≠ [] ∧
    (∀ d ∈ ds, d.isDigit = true) ∧ numberOf ds = n
  bound : n ≤ 2 ^ 32 - 1

/-- The keys of the counts, in the order in which they are looked at. -/
def countKeys (vars : Variables) : List String :=
  [Key.runs, prewarmKey vars, Key.concurrency, Key.frequency]

section Texts

private theorem digitValue?_ten (c : Char) :
    digitValue? 10 c = if c.isDigit then some (c.toNat - '0'.toNat) else none := by
  rw [digitValue?, hexValue?]
  by_cases hc : c.isDigit = true
  · have hbounds : 48 ≤ c.toNat ∧ c.toNat ≤ 57 := Char.isDigit_iff_toNat.mp hc
    have hten : c.toNat - 48 < 10 := by omega
    rw [if_pos hc, if_pos hc]
    simp [Option.filter, hten]
  · rw [if_neg hc, if_neg hc]
    have hfrom : ∀ {first last : Char}, (first ≤ c && c ≤ last) = true →
        first.toNat ≤ c.toNat := by
      intro first last h
      simp only [Bool.and_eq_true, decide_eq_true_eq, Char.le_def, UInt32.le_iff_toNat_le] at h
      exact h.1
    split
    · rename_i hlower
      have hlow : 97 ≤ c.toNat := hfrom hlower
      have hten : ¬ c.toNat - 87 < 10 := by omega
      simp [Option.filter, hten]
    · split
      · rename_i hupper
        have hlow : 65 ≤ c.toNat := hfrom hupper
        have hten : ¬ c.toNat - 55 < 10 := by omega
        simp [Option.filter, hten]
      · rfl

private theorem readCountDigits_eq_ok_iff {m n : Nat} {ds : List Char} (hm : m ≤ maxCount) :
    readCountDigits m ds = .ok n ↔
      (∀ d ∈ ds, d.isDigit = true) ∧ m * 10 ^ ds.length + numberOf ds = n ∧ n ≤ maxCount := by
  induction ds generalizing m with
  | nil =>
    simp only [readCountDigits, Except.ok.injEq, numberOf, List.length_nil]
    constructor
    · rintro rfl
      exact ⟨List.forall_mem_nil _, by omega, hm⟩
    · rintro ⟨-, h, -⟩
      omega
  | cons c ds ih =>
    rw [readCountDigits, digitValue?_ten]
    by_cases hc : c.isDigit = true
    · rw [if_pos hc]
      dsimp only
      have hvalue : m * 10 ^ (c :: ds).length + numberOf (c :: ds) =
          (10 * m + (c.toNat - '0'.toNat)) * 10 ^ ds.length + numberOf ds := by
        rw [numberOf, List.length_cons]
        ring
      rw [hvalue]
      split
      · rename_i hlarge
        have hgrows : 10 * m + (c.toNat - '0'.toNat) ≤
            (10 * m + (c.toNat - '0'.toNat)) * 10 ^ ds.length :=
          Nat.le_mul_of_pos_right _ (Nat.pow_pos (by decide))
        constructor
        · intro h
          cases h
        · rintro ⟨-, h, hn⟩
          omega
      · rename_i hsmall
        rw [ih (Nat.le_of_not_lt hsmall), List.forall_mem_cons]
        simp only [hc, true_and]
    · rw [if_neg hc, List.forall_mem_cons]
      simp [hc]

private theorem readCount_eq_ok_iff {text : String} {n : Nat} :
    readCount text = .ok n ↔ WritesCount text n := by
  have hplus : ¬ '+'.isDigit = true := by decide
  have hread : ∀ {ds : List Char}, readCountDigits 0 ds = .ok n ↔
      (∀ d ∈ ds, d.isDigit = true) ∧ numberOf ds = n ∧ n ≤ maxCount := by
    intro ds
    rw [readCountDigits_eq_ok_iff (Nat.zero_le _), Nat.zero_mul, Nat.zero_add]
  rw [readCount]
  split
  · rename_i htrim
    refine iff_of_false nofun ?_
    rintro ⟨⟨sign, ds, h, -, hne, -⟩, -⟩
    rw [htrim] at h
    exact hne (List.append_eq_nil_iff.mp h.symm).2
  · rename_i htrim
    refine iff_of_false nofun ?_
    rintro ⟨⟨sign, ds, h, rfl | rfl, hne, hds, -⟩, -⟩
    · rw [htrim, List.nil_append] at h
      subst h
      exact hplus (hds '+' (List.mem_singleton_self _))
    · rw [htrim] at h
      exact hne (List.cons.inj h).2.symm
  · rename_i ds hne htrim
    rw [hread]
    constructor
    · rintro ⟨hds, hn, hbound⟩
      exact ⟨⟨['+'], ds, htrim, Or.inr rfl, hne, hds, hn⟩, hbound⟩
    · rintro ⟨⟨sign, ds', h, rfl | rfl, -, hds, hn⟩, hbound⟩
      · rw [htrim, List.nil_append] at h
        subst h
        exact absurd (hds '+' List.mem_cons_self) hplus
      · rw [htrim] at h
        obtain rfl := (List.cons.inj h).2
        exact ⟨hds, hn, hbound⟩
  · rename_i hnil _ hsigned
    rw [hread]
    constructor
    · rintro ⟨hds, hn, hbound⟩
      exact ⟨⟨[], _, rfl, Or.inl rfl, hnil, hds, hn⟩, hbound⟩
    · rintro ⟨⟨sign, ds, h, rfl | rfl, -, hds, hn⟩, hbound⟩
      · rw [List.nil_append] at h
        subst h
        exact ⟨hds, hn, hbound⟩
      · exact absurd h (hsigned ds)

end Texts

section Descriptors

variable {d : Descriptor} {key : String} {n : Nat} {e : LoadError}

namespace Descriptor

/-- The variable is there and its text is a count. -/
def Declares (d : Descriptor) (key : String) (n : Nat) : Prop :=
  ∃ text, d.vars.get? key = some text ∧ WritesCount text n

/-- The variable is absent, or its text is a count. -/
def Accepts (d : Descriptor) (key : String) : Prop :=
  ∀ text, d.vars.get? key = some text → ∃ n, WritesCount text n

private theorem count_eq_none_iff : d.count key = .ok none ↔ d.vars.get? key = none := by
  rw [count]
  cases hvalue : d.vars.get? key with
  | none => exact iff_of_true rfl rfl
  | some text =>
    refine iff_of_false ?_ (Option.some_ne_none text)
    cases hread : readCount text <;> simp [hread]

private theorem count_eq_some_iff : d.count key = .ok (some n) ↔ d.Declares key n := by
  rw [count, Declares]
  cases hvalue : d.vars.get? key with
  | none =>
    refine iff_of_false (fun h => by cases h) ?_
    rintro ⟨text, h, -⟩
    cases h
  | some text =>
    simp only [Option.some.injEq, exists_eq_left', ← readCount_eq_ok_iff]
    cases hread : readCount text <;> simp

private theorem count_eq_error_iff : d.count key = .error e ↔ ∃ text fault,
    d.vars.get? key = some text ∧ readCount text = .error fault ∧
      e = .invalidValue key text (.count fault) := by
  rw [count]
  cases hvalue : d.vars.get? key with
  | none => simp
  | some text =>
    cases hread : readCount text with
    | ok n => simp [hread]
    | error fault => simp [hread, eq_comm]

private theorem exists_count_iff : (∃ n?, d.count key = .ok n?) ↔ d.Accepts key := by
  constructor
  · rintro ⟨n?, h⟩ text hvalue
    cases n? with
    | none =>
      rw [count_eq_none_iff, hvalue] at h
      cases h
    | some n =>
      obtain ⟨text', hvalue', hn⟩ := count_eq_some_iff.mp h
      rw [hvalue, Option.some.injEq] at hvalue'
      exact ⟨n, hvalue' ▸ hn⟩
  · intro h
    cases hvalue : d.vars.get? key with
    | none => exact ⟨none, count_eq_none_iff.mpr hvalue⟩
    | some text =>
      obtain ⟨n, hn⟩ := h text hvalue
      exact ⟨some n, count_eq_some_iff.mpr ⟨text, hvalue, hn⟩⟩

private theorem prewarmRuns_eq (d : Descriptor) : d.prewarmRuns = d.count (prewarmKey d.vars) := by
  cases hnewer : d.vars.get? Key.prewarmRuns with
  | none =>
    have hcount : d.count Key.prewarmRuns = .ok none := count_eq_none_iff.mpr hnewer
    have hkey : prewarmKey d.vars = Key.prewarmRepeats := by
      rw [prewarmKey, OrderedMap.contains, hnewer]
      rfl
    rw [prewarmRuns, hcount, hkey]
    rfl
  | some text =>
    have hkey : prewarmKey d.vars = Key.prewarmRuns := by
      rw [prewarmKey, OrderedMap.contains, hnewer]
      rfl
    rw [prewarmRuns, hkey]
    cases hcount : d.count Key.prewarmRuns with
    | error e => rfl
    | ok n? =>
      cases n? with
      | none =>
        rw [count_eq_none_iff, hnewer] at hcount
        cases hcount
      | some n => rfl

private theorem exists_mapM_count_iff :
    (∃ counts, (countKeys d.vars).mapM d.count = .ok counts) ↔
      ∀ key ∈ countKeys d.vars, d.Accepts key := by
  simp only [mapM_eq_ok_iff, exists_forall₂_iff, exists_count_iff]

private theorem getD_eq_zero_iff {n? : Option Nat} {default : Nat} (h : d.count key = .ok n?)
    (hdefault : default ≠ 0) : n?.getD default = 0 ↔ d.Declares key 0 := by
  rw [← count_eq_some_iff, h]
  cases n? <;> simp [hdefault]

/-- What the construction of a benchmark ends with: the first count that is none, or else a count
below one. -/
inductive Refuses (d : Descriptor) : LoadError → Prop
  | unreadable {before after : List String} {key text : String} {fault : CountFault}
      (hkeys : countKeys d.vars = before ++ key :: after)
      (hbefore : ∀ other ∈ before, d.Accepts other) (hvalue : d.vars.get? key = some text)
      (hcount : ∀ n, ¬ WritesCount text n) (hfault : readCount text = .error fault) :
      Refuses d (.invalidValue key text (.count fault))
  | noRuns (hall : ∀ key ∈ countKeys d.vars, d.Accepts key) (hruns : d.Declares Key.runs 0) :
      Refuses d (.invalidValue Key.runs "0" .belowOne)
  | noConcurrency (hall : ∀ key ∈ countKeys d.vars, d.Accepts key)
      (hruns : ¬ d.Declares Key.runs 0) (hconcurrency : d.Declares Key.concurrency 0) :
      Refuses d (.invalidValue Key.concurrency "0" .belowOne)

private theorem refuses_of_mapM (h : (countKeys d.vars).mapM d.count = .error e) : d.Refuses e := by
  obtain ⟨before, key, after, hkeys, hbefore, he⟩ := mapM_eq_error_iff.mp h
  obtain ⟨text, fault, hvalue, hfault, rfl⟩ := count_eq_error_iff.mp he
  refine .unreadable hkeys (fun other hother => exists_count_iff.mp (hbefore other hother)) hvalue
    (fun n hn => ?_) hfault
  rw [readCount_eq_ok_iff.mpr hn] at hfault
  cases hfault

/-- A count cannot be read, or else all can and one is none. -/
theorem refuses_iff : d.Refuses e ↔ (countKeys d.vars).mapM d.count = .error e ∨
    (∀ key ∈ countKeys d.vars, d.Accepts key) ∧
      ((d.Declares Key.runs 0 ∧ e = .invalidValue Key.runs "0" .belowOne) ∨
        (¬ d.Declares Key.runs 0 ∧ d.Declares Key.concurrency 0 ∧
          e = .invalidValue Key.concurrency "0" .belowOne)) := by
  constructor
  · intro h
    cases h with
    | unreadable hkeys hbefore hvalue _ hfault =>
      exact Or.inl (mapM_eq_error_iff.mpr ⟨_, _, _, hkeys,
        fun other hother => exists_count_iff.mpr (hbefore other hother),
        count_eq_error_iff.mpr ⟨_, _, hvalue, hfault, rfl⟩⟩)
    | noRuns hall hruns => exact Or.inr ⟨hall, Or.inl ⟨hruns, rfl⟩⟩
    | noConcurrency hall hruns hconcurrency =>
      exact Or.inr ⟨hall, Or.inr ⟨hruns, hconcurrency, rfl⟩⟩
  · rintro (h | ⟨hall, ⟨hruns, rfl⟩ | ⟨hruns, hconcurrency, rfl⟩⟩)
    · exact refuses_of_mapM h
    · exact .noRuns hall hruns
    · exact .noConcurrency hall hruns hconcurrency

end Descriptor

namespace BenchmarkDraft

variable {draft : BenchmarkDraft}

private theorem build_eq_error_iff : draft.build = .error e ↔
    (draft.runs = 0 ∧ e = .invalidValue Key.runs "0" .belowOne) ∨
      (draft.runs ≠ 0 ∧ draft.concurrency = 0 ∧
        e = .invalidValue Key.concurrency "0" .belowOne) := by
  have hzero : Nat.repr 0 = "0" := by decide
  rw [build]
  by_cases hruns : draft.runs = 0
  · simp [hruns, hzero, eq_comm]
  · have hpos : 1 ≤ draft.runs := Nat.one_le_iff_ne_zero.mpr hruns
    rw [dif_pos hpos]
    by_cases hconcurrency : draft.concurrency = 0
    · simp [hruns, hconcurrency, hzero, eq_comm]
    · simp [hruns, hconcurrency, Nat.one_le_iff_ne_zero]

private theorem exists_build_iff :
    (∃ b, draft.build = .ok b) ↔ draft.runs ≠ 0 ∧ draft.concurrency ≠ 0 := by
  rw [build]
  by_cases hruns : draft.runs = 0
  · simp [hruns]
  · rw [dif_pos (Nat.one_le_iff_ne_zero.mpr hruns)]
    by_cases hconcurrency : draft.concurrency = 0
    · simp [hconcurrency]
    · simp [hruns, hconcurrency, Nat.one_le_iff_ne_zero]

end BenchmarkDraft

namespace Benchmark

/-- The benchmark has the frequency of the descriptor: its days in milliseconds, without overflow,
and written as the same number of days. -/
structure KeepsFrequency (b : Benchmark) (d : Descriptor) : Prop where
  absent : d.vars.get? Key.frequency = none → b.frequency? = none
  declared : ∀ days, d.Declares Key.frequency days → ∃ span, b.frequency? = some span ∧
    span.milliseconds = 86400000 * days ∧
    0 ≤ span.milliseconds ∧ span.milliseconds ≤ Span.maxMilliseconds
  written : ∀ days, d.Declares Key.frequency days → ∃ fields, b.toJson = .object fields ∧
    fields.lookup "frequency" = some (.int days)

variable {b : Benchmark} {name sequenceId environment : String} {queries : List Query}

private theorem ofDescriptor_cases (name sequenceId environment : String) (d : Descriptor)
    (queries : List Query) :
    (∃ e, (countKeys d.vars).mapM d.count = .error e ∧
      ofDescriptor name sequenceId environment d queries = .error e) ∨
    ∃ runs? prewarmRuns? concurrency? days? : Option Nat, ∃ draft : BenchmarkDraft,
      (countKeys d.vars).mapM d.count = .ok [runs?, prewarmRuns?, concurrency?, days?] ∧
      d.count Key.runs = .ok runs? ∧ d.count Key.concurrency = .ok concurrency? ∧
      ofDescriptor name sequenceId environment d queries = draft.build ∧
      draft.runs = runs?.getD 3 ∧ draft.concurrency = concurrency?.getD 1 := by
  rw [ofDescriptor, d.prewarmRuns_eq, Descriptor.runs, Descriptor.concurrency,
    Descriptor.frequency]
  simp only [countKeys, List.mapM_cons, List.mapM_nil]
  cases hruns : d.count Key.runs with
  | error e => exact Or.inl ⟨e, rfl, rfl⟩
  | ok runs? =>
    cases d.count (prewarmKey d.vars) with
    | error e => exact Or.inl ⟨e, rfl, rfl⟩
    | ok prewarmRuns? =>
      cases hconcurrency : d.count Key.concurrency with
      | error e => exact Or.inl ⟨e, rfl, rfl⟩
      | ok concurrency? =>
        cases d.count Key.frequency with
        | error e => exact Or.inl ⟨e, rfl, rfl⟩
        | ok days? =>
          exact Or.inr ⟨runs?, prewarmRuns?, concurrency?, days?, _, rfl, rfl, rfl, rfl, rfl, rfl⟩

private theorem ofDescriptor_eq_error_iff :
    ofDescriptor name sequenceId environment d queries = .error e ↔ d.Refuses e := by
  rcases ofDescriptor_cases name sequenceId environment d queries with
    ⟨e', hcounts, hfails⟩ | ⟨_, _, _, _, draft, hcounts, hruns, hconcurrency, hbuild, hr, hc⟩
  · rw [hfails, Descriptor.refuses_iff, ← Descriptor.exists_mapM_count_iff, hcounts]
    simp
  · have hall := Descriptor.exists_mapM_count_iff.mp ⟨_, hcounts⟩
    rw [hbuild, BenchmarkDraft.build_eq_error_iff, hr, hc, ne_eq,
      Descriptor.getD_eq_zero_iff hruns (by decide),
      Descriptor.getD_eq_zero_iff hconcurrency (by decide), Descriptor.refuses_iff, hcounts,
      and_iff_right hall]
    simp

private theorem exists_ofDescriptor_iff :
    (∃ b, ofDescriptor name sequenceId environment d queries = .ok b) ↔
      (∀ key ∈ countKeys d.vars, d.Accepts key) ∧ ¬ d.Declares Key.runs 0 ∧
        ¬ d.Declares Key.concurrency 0 := by
  rcases ofDescriptor_cases name sequenceId environment d queries with
    ⟨e', hcounts, hfails⟩ | ⟨_, _, _, _, draft, hcounts, hruns, hconcurrency, hbuild, hr, hc⟩
  · rw [hfails, ← Descriptor.exists_mapM_count_iff, hcounts]
    simp
  · have hall := Descriptor.exists_mapM_count_iff.mp ⟨_, hcounts⟩
    rw [hbuild, BenchmarkDraft.exists_build_iff, hr, hc, ne_eq, ne_eq,
      Descriptor.getD_eq_zero_iff hruns (by decide),
      Descriptor.getD_eq_zero_iff hconcurrency (by decide)]
    exact (and_iff_right hall).symm

private theorem exists_fields_of_frequency (b : Benchmark) : ∃ fields, b.toJson = .object fields ∧
    fields.lookup "frequency" = some ((b.frequency?.map fun f => Json.int f.days).getD .null) := by
  refine ⟨_, rfl, ?_⟩
  cases b.uniqueName? <;> rfl

private theorem keepsFrequency_of_ofDescriptor
    (h : ofDescriptor name sequenceId environment d queries = .ok b) : b.KeepsFrequency d := by
  obtain ⟨days?, hdays?, hfrequency⟩ := (follows_of_ofDescriptor h).frequency
  obtain ⟨fields, hjson, hlookup⟩ := exists_fields_of_frequency b
  have hdeclared : ∀ days, d.Declares Key.frequency days →
      b.frequency? = some (Span.ofDays days) ∧ days ≤ 2 ^ 32 - 1 := by
    intro days hdays
    have hcount : d.frequency = .ok (some days) := Descriptor.count_eq_some_iff.mpr hdays
    obtain ⟨text, -, htext⟩ := hdays
    rw [hdays?] at hcount
    cases hcount
    exact ⟨hfrequency, htext.bound⟩
  refine ⟨fun habsent => ?_, fun days hdays => ?_, fun days hdays => ?_⟩
  · have hcount : d.frequency = .ok none := Descriptor.count_eq_none_iff.mpr habsent
    rw [hdays?] at hcount
    cases hcount
    exact hfrequency
  · obtain ⟨hspan, hbound⟩ := hdeclared days hdays
    refine ⟨_, hspan, ?_, ?_, ?_⟩
    · exact Int.mul_comm _ _
    · simp only [Span.ofDays, Span.millisecondsPerDay]
      omega
    · simp only [Span.ofDays, Span.millisecondsPerDay, Span.maxMilliseconds]
      omega
  · obtain ⟨hspan, -⟩ := hdeclared days hdays
    refine ⟨fields, hjson, ?_⟩
    rw [hlookup, hspan, Option.map_some, Option.getD_some, Span.days_ofDays]

/-- A benchmark is built exactly if the counts of its descriptor are absent or readable and neither
the runs nor the concurrency are none; else the first count that is none is told with its text, or
the first that is too small. A frequency is kept. -/
theorem ofDescriptor_checks_counts (name sequenceId environment : String) (d : Descriptor)
    (queries : List Query) :
    (∀ key text, d.vars.get? key = some text →
      ∀ n, d.count key = .ok (some n) ↔ WritesCount text n) ∧
    ((∃ b, ofDescriptor name sequenceId environment d queries = .ok b) ↔
      (∀ key ∈ countKeys d.vars, d.Accepts key) ∧ ¬ d.Declares Key.runs 0 ∧
        ¬ d.Declares Key.concurrency 0) ∧
    (∀ e, ofDescriptor name sequenceId environment d queries = .error e ↔ d.Refuses e) ∧
    ∀ b, ofDescriptor name sequenceId environment d queries = .ok b → b.KeepsFrequency d := by
  refine ⟨fun key text hvalue n => ?_, exists_ofDescriptor_iff, fun e => ofDescriptor_eq_error_iff,
    fun b h => keepsFrequency_of_ofDescriptor h⟩
  rw [Descriptor.count_eq_some_iff]
  constructor
  · rintro ⟨text', hvalue', hn⟩
    rw [hvalue, Option.some.injEq] at hvalue'
    exact hvalue' ▸ hn
  · exact fun hn => ⟨text, hvalue, hn⟩

/-- A descriptor with a sign and zeros in front of a count, an older spelling that nobody looks at,
and the largest frequency. -/
def Sample.timed : Descriptor where
  vars := .ofList [(Key.dataSource, "d"), (Key.queryNames, "q"), (Key.runs, " +0010\n"),
    (Key.prewarmRuns, "0"), (Key.prewarmRepeats, "none"), (Key.frequency, "4294967295")]
  hasDataSource := by decide
  hasQueryNames := by decide

theorem ofDescriptor_sample_checks_counts :
    ∃ b, ofDescriptor "b" "seq" "env" Sample.timed [] = .ok b ∧ b.KeepsFrequency Sample.timed ∧
      b.frequency? = some ⟨371085174288000000⟩ ∧
      Sample.timed.count Key.runs = .ok (some 10) ∧ WritesCount " +0010\n" 10 := by
  obtain ⟨b, hb⟩ := exists_eq_ok_of_isSome
    (x := ofDescriptor "b" "seq" "env" Sample.timed []) (by decide +kernel)
  have hruns : Sample.timed.count Key.runs = .ok (some 10) := eq_ok_of_toOption (by decide +kernel)
  have hdays : Sample.timed.count Key.frequency = .ok (some 4294967295) :=
    eq_ok_of_toOption (by decide +kernel)
  obtain ⟨hcount, -, -, hkeeps⟩ := ofDescriptor_checks_counts "b" "seq" "env" Sample.timed []
  obtain ⟨span, hspan, hdeclared, -⟩ :=
    (hkeeps b hb).declared _ (Descriptor.count_eq_some_iff.mp hdays)
  refine ⟨b, hb, hkeeps b hb, ?_, hruns, (hcount Key.runs _ (by decide) 10).mp hruns⟩
  rw [hspan]
  exact congrArg some (congrArg Span.mk hdeclared)

end Benchmark

end Descriptors

end RunPlan
