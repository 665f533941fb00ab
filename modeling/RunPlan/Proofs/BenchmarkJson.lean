import RunPlan.Benchmark.Json
import RunPlan.Proofs.BenchmarkFields
import RunPlan.Proofs.Json.Compact

/-!
Benchmarks as JSON on one line. Main statement: of two benchmarks that were made from descriptors,
each with a unique name or without one, the texts are the same only if the benchmarks are the same.
-/

set_option autoImplicit false

namespace RunPlan

private theorem Json.strings_inj {items items' : List String} :
    Json.strings items = Json.strings items' ↔ items = items' := by
  have hinj : Function.Injective Json.string := fun _ _ h => Json.string.inj h
  simp [Json.strings, hinj.list_map.eq_iff]

private theorem Json.ofMap_inj {m m' : OrderedMap String String} :
    Json.ofMap m = Json.ofMap m' ↔ m = m' := by
  have hinj : Function.Injective fun e : String × String => (e.1, Json.string e.2) := by
    intro e e' h
    simpa [Prod.ext_iff] using h
  refine ⟨fun h => OrderedMap.ext (hinj.list_map ?_), congrArg Json.ofMap⟩
  exact Json.object.inj h

private theorem Query.toJson_inj {q q' : Query} : q.toJson = q'.toJson ↔ q = q' := by
  refine ⟨fun h => ?_, congrArg Query.toJson⟩
  cases q
  cases q'
  simpa [Query.toJson, Json.ofMap_inj] using h

private theorem Json.isWhole_strings (items : List String) : (Json.strings items).IsWhole := by
  refine .array fun v hv => ?_
  obtain ⟨s, -, rfl⟩ := List.mem_map.mp hv
  exact .string s

private theorem Json.isWhole_ofMap (m : OrderedMap String String) : (Json.ofMap m).IsWhole := by
  refine .object fun member hmember => ?_
  obtain ⟨e, -, rfl⟩ := List.mem_map.mp hmember
  exact .string e.2

private theorem Query.isWhole_toJson (q : Query) : q.toJson.IsWhole := by
  refine .object ?_
  simp only [List.forall_mem_cons, List.not_mem_nil, false_implies, implies_true, and_true]
  exact ⟨.string _, .string _, Json.isWhole_ofMap _⟩

namespace Benchmark

variable {b b' : Benchmark}

/-- A benchmark of a descriptor, named or not. -/
inductive Made : Benchmark → Prop
  | built {b : Benchmark} {name sequenceId environment : String} {d : Descriptor}
      {queries : List Query} (h : ofDescriptor name sequenceId environment d queries = .ok b) :
      Made b
  | named {b : Benchmark} (h : Made b) (uniqueName : String) : Made (b.withUniqueName uniqueName)

private theorem Made.exists_days (h : b.Made) :
    ∃ days? : Option Nat, b.frequency? = days?.map fun days => Span.ofDays days := by
  induction h with
  | built h =>
    obtain ⟨days?, -, hfrequency⟩ := (follows_of_ofDescriptor h).frequency
    exact ⟨days?, hfrequency⟩
  | named _ _ ih => exact ih

def frequencyJson (frequency? : Option Span) : Json :=
  (frequency?.map fun f => Json.int f.days).getD .null

private theorem Made.frequency_eq (hb : b.Made) (hb' : b'.Made)
    (h : frequencyJson b.frequency? = frequencyJson b'.frequency?) :
    b.frequency? = b'.frequency? := by
  obtain ⟨days?, hdays⟩ := hb.exists_days
  obtain ⟨days?', hdays'⟩ := hb'.exists_days
  rw [hdays, hdays'] at h ⊢
  cases days? <;> cases days?' <;> simp_all [frequencyJson, Json.int, Span.days_ofDays]

private theorem isWhole_toJson (b : Benchmark) : b.toJson.IsWhole := by
  have hname : ∀ member ∈ (b.uniqueName?.map fun n => ("unique-name", Json.string n)).toList,
      member.2.IsWhole := by
    cases b.uniqueName? <;> simp [Json.IsWhole.string]
  have hfrequency : ((b.frequency?.map fun f => Json.int f.days).getD .null).IsWhole := by
    cases b.frequency? with
    | none => exact .null
    | some f => exact .int f.days
  have hqueries : (Json.array (b.queries.map Query.toJson)).IsWhole := by
    refine .array fun v hv => ?_
    obtain ⟨q, -, rfl⟩ := List.mem_map.mp hv
    exact q.isWhole_toJson
  refine .object ?_
  rw [List.forall_mem_append, List.forall_mem_append]
  refine ⟨⟨?_, hname⟩, ?_⟩
  · simp [Json.IsWhole.string]
  · simp [Json.IsWhole.string, Json.IsWhole.int, Json.isWhole_strings, Json.isWhole_ofMap,
      hfrequency, hqueries]

private theorem uniqueName?_eq_of_toJson_eq (h : b.toJson = b'.toJson) :
    b.uniqueName? = b'.uniqueName? := by
  have hfields := congrArg (fun fields => fields[2]?) (Json.object.inj h)
  cases hname : b.uniqueName? <;> cases hname' : b'.uniqueName? <;>
    simp_all

private theorem eq_of_toJson_eq (h : b.toJson = b'.toJson)
    (hfrequency : frequencyJson b.frequency? = frequencyJson b'.frequency? →
      b.frequency? = b'.frequency?) : b = b' := by
  have hqueries : Function.Injective Query.toJson := fun _ _ => Query.toJson_inj.mp
  have hname := uniqueName?_eq_of_toJson_eq h
  have hfields := Json.object.inj h
  rw [hname, List.append_assoc, List.append_assoc] at hfields
  obtain ⟨hfront, hfields⟩ := List.append_inj hfields rfl
  have hfields := List.append_cancel_left hfields
  simp only [List.cons.injEq, Prod.mk.injEq, Json.string.injEq, Json.int, Json.number.injEq,
    Json.Number.int.injEq, Json.strings_inj, Json.ofMap_inj, Json.array.injEq,
    hqueries.list_map.eq_iff, Int.natCast_inj, true_and, and_true] at hfront hfields
  obtain ⟨hdata, henv, hruns, hprewarm, hconc, hfreq, hbb, hab, hbe, hae, hq, hv⟩ := hfields
  have hfreq := hfrequency hfreq
  cases b
  cases b'
  simp_all

/-- Two benchmarks that were made from descriptors have the same text on one line exactly if they
are the same in every field. -/
theorem compact_toJson_eq_iff (hb : b.Made) (hb' : b'.Made) :
    b.toJson.compact = b'.toJson.compact ↔ b = b' := by
  refine ⟨fun h => ?_, fun h => h ▸ rfl⟩
  have hjson : b.toJson = b'.toJson := b.isWhole_toJson.eq_of_compact_eq b'.isWhole_toJson h
  exact eq_of_toJson_eq hjson (hb.frequency_eq hb')

def Sample.plain : Descriptor where
  vars := .ofList [(Key.dataSource, "d"), (Key.queryNames, "q")]
  hasDataSource := by decide
  hasQueryNames := by decide

theorem compact_toJson_ne_of_imitation :
    ∃ b b' : Benchmark, b.Made ∧ b'.Made ∧ b.name = "a\",\"sequence-id\":\"s" ∧ b'.name = "a" ∧
      b.toJson.compact ≠ (b'.withUniqueName "a").toJson.compact := by
  obtain ⟨b, hb⟩ := exists_eq_ok_of_isSome
    (x := ofDescriptor "a\",\"sequence-id\":\"s" "s" "env" Sample.plain []) (by decide +kernel)
  obtain ⟨b', hb'⟩ := exists_eq_ok_of_isSome
    (x := ofDescriptor "a" "s" "env" Sample.plain []) (by decide +kernel)
  have hname := (follows_of_ofDescriptor hb).name
  have hname' := (follows_of_ofDescriptor hb').name
  refine ⟨b, b', .built hb, .built hb', hname, hname', fun h => ?_⟩
  have hsame := (compact_toJson_eq_iff (.built hb) (.named (.built hb') "a")).mp h
  have hnames : b.name = b'.name := by
    rw [hsame]
    rfl
  rw [hname, hname'] at hnames
  exact absurd hnames (by decide)

end Benchmark

end RunPlan
