import RunPlan.Service.Freshness
import RunPlan.Proofs.Outcome

/-!
Which benchmarks ran recently, position by position. Main statements: the ages are asked for those
benchmarks that have a frequency, in order, and a benchmark is left out exactly when the age at its
place among those is at most its frequency.
-/

set_option autoImplicit false

namespace RunPlan

def itemsAt {α : Type} (p : Nat → Bool) (as : List α) : List α :=
  (as.zipIdx.filter fun x => p x.2).map Prod.fst

private theorem itemsAt_cons {α : Type} (p : Nat → Bool) (a : α) (as : List α) :
    itemsAt p (a :: as) =
      if p 0 then a :: itemsAt (fun i => p (i + 1)) as else itemsAt (fun i => p (i + 1)) as := by
  rw [itemsAt, List.zipIdx_cons', List.filter_cons, List.filter_map]
  split
  · rw [List.map_cons, List.map_map]
    rfl
  · rw [List.map_map]
    rfl

theorem perm_itemsAt_not_append {α : Type} (p : Nat → Bool) (as : List α) :
    (itemsAt (fun i => !p i) as ++ itemsAt p as).Perm as := by
  have h := ((as.zipIdx.filter_append_perm fun x => !p x.2).map Prod.fst)
  simp only [Bool.not_not, List.map_append, List.zipIdx_map_fst] at h
  exact h

theorem itemsAt_true {α : Type} (as : List α) : itemsAt (fun _ => true) as = as := by
  rw [itemsAt, List.filter_true, List.zipIdx_map_fst]

theorem itemsAt_false {α : Type} (as : List α) : itemsAt (fun _ => false) as = [] := by
  rw [itemsAt, List.filter_false, List.map_nil]

theorem itemsAt_sublist {α : Type} (p : Nat → Bool) (as : List α) : (itemsAt p as).Sublist as := by
  have h : ((as.zipIdx.filter fun x => p x.2).map Prod.fst).Sublist (as.zipIdx.map Prod.fst) :=
    List.filter_sublist.map Prod.fst
  rwa [List.zipIdx_map_fst] at h

theorem itemsAt_eq_filter {α : Type} {p : Nat → Bool} {q : α → Bool} {as : List α}
    (h : ∀ i a, as[i]? = some a → p i = q a) : itemsAt p as = as.filter q := by
  induction as generalizing p with
  | nil => rfl
  | cons a as ih =>
    have hrest : itemsAt (fun i => p (i + 1)) as = as.filter q :=
      ih fun i a' ha' => h (i + 1) a' (by rwa [List.getElem?_cons_succ])
    rw [itemsAt_cons, hrest, h 0 a List.getElem?_cons_zero, List.filter_cons]

namespace Freshness

/-- The age that was reported for the benchmark at a position, if it has a frequency: its place
among the ages is the number of benchmarks before it that have one. -/
def reportedAge? (bs : List Benchmark) (ages : List Span) (i : Nat) : Option Span :=
  ages[(bs.take i).countP fun b => b.frequency?.isSome]?

/-- Whether the benchmark at a position has a frequency, and its reported age is at most that. -/
def ranRecently (bs : List Benchmark) (ages : List Span) (i : Nat) : Bool :=
  match bs[i]?.bind Benchmark.frequency?, reportedAge? bs ages i with
  | some frequency, some age => age.milliseconds ≤ frequency.milliseconds
  | _, _ => false

def asked (bs : List Benchmark) (names : List String) : List String :=
  ((bs.zip names).filter fun x => x.1.frequency?.isSome).map Prod.snd

def agesBehind (b : Benchmark) (ages : List Span) : List Span :=
  if b.frequency?.isSome then ages.tail else ages

private theorem part_cons (b : Benchmark) (bs : List Benchmark) (ages : List Span) :
    part (b :: bs) ages =
      (part bs (agesBehind b ages)).push (ranRecently (b :: bs) ages 0) b := by
  rw [part.eq_def]
  cases hf : b.frequency? with
  | none => simp [agesBehind, ranRecently, hf]
  | some frequency => cases ages <;> simp [agesBehind, ranRecently, reportedAge?, hf]

private theorem ranRecently_cons_succ (b : Benchmark) (bs : List Benchmark) (ages : List Span)
    (i : Nat) :
    ranRecently (b :: bs) ages (i + 1) = ranRecently bs (agesBehind b ages) i := by
  have hage : reportedAge? (b :: bs) ages (i + 1) = reportedAge? bs (agesBehind b ages) i := by
    rw [reportedAge?, reportedAge?, List.take_succ_cons, List.countP_cons, agesBehind]
    split
    · rw [List.getElem?_tail]
    · rw [Nat.add_zero]
  rw [ranRecently, ranRecently, hage, List.getElem?_cons_succ]

/-- The benchmarks are parted by position, and both parts keep the order. -/
theorem part_eq (bs : List Benchmark) (ages : List Span) :
    part bs ages =
      ⟨itemsAt (fun i => !ranRecently bs ages i) bs, itemsAt (ranRecently bs ages) bs⟩ := by
  -- the ages are general, because a benchmark with a frequency takes the first of them away
  induction bs generalizing ages with
  | nil => simp [part, itemsAt]
  | cons b bs ih =>
    rw [part_cons, ih, itemsAt_cons, itemsAt_cons]
    simp only [ranRecently_cons_succ]
    cases ranRecently (b :: bs) ages 0 <;> rfl

theorem kept_part (bs : List Benchmark) (ages : List Span) :
    (part bs ages).kept = itemsAt (fun i => !ranRecently bs ages i) bs := by
  rw [part_eq]

theorem names_zipWith (bs : List Benchmark) (names : List String) :
    Freshness.names (bs.zipWith Benchmark.withUniqueName names) = .ok (asked bs names) := by
  rw [Freshness.names, mapM_eq_ok_iff]
  induction bs generalizing names with
  | nil => exact List.Forall₂.nil
  | cons b bs ih =>
    cases names with
    | nil => exact List.Forall₂.nil
    | cons name names =>
      have hrest := ih names
      rw [asked] at hrest ⊢
      rw [List.zipWith_cons_cons, List.zip_cons_cons, List.filter_cons, List.filter_cons]
      have hfrequency : (b.withUniqueName name).frequency? = b.frequency? := rfl
      rw [hfrequency]
      split
      · exact List.Forall₂.cons rfl hrest
      · exact hrest

/-- The name under which the age of a benchmark is asked for is its own: it has the place at which
the age is looked up. -/
theorem getElem?_asked {bs : List Benchmark} {names : List String} {i : Nat} {b : Benchmark}
    (h : names.length = bs.length) (hb : bs[i]? = some b)
    (hfrequency : b.frequency?.isSome = true) :
    (asked bs names)[(bs.take i).countP fun b => b.frequency?.isSome]? = names[i]? := by
  induction bs generalizing names i with
  | nil => cases hb
  | cons b' bs ih =>
    cases names with
    | nil => cases h
    | cons name names =>
      have hlength : names.length = bs.length := Nat.succ.inj h
      rw [asked, List.zip_cons_cons, List.filter_cons]
      cases i with
      | zero =>
        rw [List.getElem?_cons_zero, Option.some.injEq] at hb
        subst hb
        simp only [hfrequency, if_true, List.map_cons, List.take_zero, List.countP_nil,
          List.getElem?_cons_zero]
      | succ i =>
        rw [List.getElem?_cons_succ] at hb
        have hrest := ih hlength hb
        rw [asked] at hrest
        rw [List.take_succ_cons, List.countP_cons, List.getElem?_cons_succ]
        split
        · rw [List.map_cons, List.getElem?_cons_succ, hrest]
        · rw [Nat.add_zero, hrest]

theorem asked_eq_nil_iff {bs : List Benchmark} {names : List String}
    (h : names.length = bs.length) :
    asked bs names = [] ↔ ∀ b ∈ bs, b.frequency?.isSome = false := by
  rw [asked, List.map_eq_nil_iff, List.filter_eq_nil_iff]
  constructor
  · intro hnone b hb
    rw [← List.map_fst_zip (Nat.le_of_eq h.symm)] at hb
    obtain ⟨x, hx, rfl⟩ := List.mem_map.mp hb
    exact Bool.eq_false_iff.mpr (hnone x hx)
  · intro hnone x hx
    exact Bool.eq_false_iff.mp (hnone x.1 (List.of_mem_zip hx).1)

end Freshness

end RunPlan
