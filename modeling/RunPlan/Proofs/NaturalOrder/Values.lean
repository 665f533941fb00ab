import RunPlan.Proofs.NaturalOrder
import RunPlan.Proofs.Text.ByteOrder
import Mathlib.Algebra.Ring.Nat

/-!
The natural order of names by the numbers in them. Main statements: a text is cut into maximal runs
in one way only, and names compare run by run: digits by the number that they write, however many
there are, and then by their length, other characters by their bytes.
-/

set_option autoImplicit false

namespace RunPlan.NaturalOrder

open RunPlan.Text

/-- A run that is not empty and holds characters of its kind only. -/
structure Run.IsProper (r : Run) : Prop where
  ne_nil : r.chars ≠ []
  kind : ∀ c ∈ r.chars, c.isDigit = r.isDigits

/-- A text cut into its maximal runs. -/
structure IsCut (s : List Char) (rs : List Run) : Prop where
  whole : rs.flatMap Run.chars = s
  proper : ∀ r ∈ rs, r.IsProper
  alternate : Alternate rs

def numberOf : List Char → Nat
  | [] => 0
  | d :: ds => (d.toNat - '0'.toNat) * 10 ^ ds.length + numberOf ds

/-- Runs of digits by their number and then by their length, other runs by their bytes. Digits stand
before other characters. -/
def Run.compareValue : Run → Run → Ordering
  | .digits a, .digits b =>
    (compare (numberOf a) (numberOf b)).then (compare a.length b.length)
  | .digits _, .text _ => .lt
  | .text _, .digits _ => .gt
  | .text a, .text b => List.compareLex compare (utf8 a) (utf8 b)

section Cuts

variable {s : List Char} {rs : List Run}

private theorem isProper_digits_iff {cs : List Char} :
    (Run.digits cs).IsProper ↔ cs ≠ [] ∧ ∀ c ∈ cs, c.isDigit = true :=
  ⟨fun h => ⟨h.ne_nil, h.kind⟩, fun h => ⟨h.1, h.2⟩⟩

private theorem isProper_text_iff {cs : List Char} :
    (Run.text cs).IsProper ↔ cs ≠ [] ∧ ∀ c ∈ cs, c.isDigit = false :=
  ⟨fun h => ⟨h.ne_nil, h.kind⟩, fun h => ⟨h.1, h.2⟩⟩

private theorem isProper_of_mem_cons {c : Char} (h : ∀ r ∈ rs, r.IsProper) :
    ∀ r ∈ Run.cons c rs, r.IsProper := by
  cases rs with
  | nil =>
    cases hc : c.isDigit <;> simp [Run.cons, hc, isProper_digits_iff, isProper_text_iff]
  | cons r rs =>
    obtain ⟨hr, hrest⟩ := List.forall_mem_cons.mp h
    cases r <;> cases hc : c.isDigit <;>
      simp_all [Run.cons, isProper_digits_iff, isProper_text_iff]

private theorem isCut_runs (s : List Char) : IsCut s (runs s) where
  whole := flatMap_runs s
  alternate := alternate_runs s
  proper := by
    induction s with
    | nil => exact fun r hr => absurd hr List.not_mem_nil
    | cons c s ih => exact isProper_of_mem_cons ih

private theorem foldr_cons_of_isProper {r : Run} (hr : r.IsProper) (h : Alternate (r :: rs)) :
    r.chars.foldr Run.cons rs = r :: rs := by
  obtain ⟨hne, hkind⟩ := hr
  cases r with
  | digits cs | text cs =>
    simp only [Run.chars, Run.isDigits] at hne hkind ⊢
    induction cs with
    | nil => exact absurd rfl hne
    | cons c cs ih =>
      have hc := hkind c List.mem_cons_self
      cases cs with
      | nil =>
        cases rs with
        | nil => simp [Run.cons, hc]
        | cons r' rs =>
          have hother := h.1
          cases r' <;> simp_all [Run.cons, Run.isDigits]
      | cons c' cs =>
        have hrest := ih (by cases rs <;> exact h) (List.cons_ne_nil c' cs)
          fun d hd => hkind d (List.mem_cons_of_mem c hd)
        rw [List.foldr_cons, hrest]
        simp [Run.cons, hc]

/-- There is no other way to cut a text. -/
theorem IsCut.eq_runs (h : IsCut s rs) : rs = runs s := by
  obtain ⟨rfl, hproper, halternate⟩ := h
  induction rs with
  | nil => rfl
  | cons r rs ih =>
    obtain ⟨hr, hrest⟩ := List.forall_mem_cons.mp hproper
    have htail : Alternate rs := by
      cases rs with
      | nil => trivial
      | cons r' rs => exact halternate.2
    have hruns : runs (rs.flatMap Run.chars) = rs := (ih hrest htail).symm
    rw [List.flatMap_cons, runs, List.foldr_append]
    show r :: rs = r.chars.foldr Run.cons (runs (rs.flatMap Run.chars))
    rw [hruns, foldr_cons_of_isProper hr halternate]

end Cuts

section Numbers

variable {a b ds : List Char}

private theorem digit_bounds {d : Char} (h : d.isDigit = true) : 48 ≤ d.toNat ∧ d.toNat ≤ 57 := by
  simpa [Char.isDigit, UInt32.le_iff_toNat_le] using h

private theorem numberOf_lt (h : ∀ d ∈ ds, d.isDigit = true) : numberOf ds < 10 ^ ds.length := by
  induction ds with
  | nil => exact Nat.one_pos
  | cons d ds ih =>
    obtain ⟨hd, hrest⟩ := List.forall_mem_cons.mp h
    have hbounds := digit_bounds hd
    have hplace : d.toNat - 48 ≤ 9 := by omega
    have hrest := ih hrest
    calc numberOf (d :: ds) = (d.toNat - 48) * 10 ^ ds.length + numberOf ds := rfl
      _ < 9 * 10 ^ ds.length + 10 ^ ds.length :=
        Nat.add_lt_add_of_le_of_lt (Nat.mul_le_mul_right _ hplace) hrest
      _ = 10 ^ (d :: ds).length := by rw [List.length_cons, Nat.pow_succ]; omega

private theorem numberOf_significant (ds : List Char) :
    numberOf (significant ds) = numberOf ds := by
  induction ds with
  | nil => rfl
  | cons d ds ih =>
    by_cases hd : d = '0'
    · subst hd
      have hdrop : significant ('0' :: ds) = significant ds := rfl
      rw [hdrop, ih, numberOf, Nat.sub_self, Nat.zero_mul, Nat.zero_add]
    · have hkeep : significant (d :: ds) = d :: ds := by
        simp [significant, hd]
      rw [hkeep]

private theorem compare_mul_add {p m n : Nat} (hm : m < p) (hn : n < p) (x y : Nat) :
    compare (x * p + m) (y * p + n) = (compare x y).then (compare m n) := by
  have hplace : ∀ {x y m n : Nat}, x < y → m < p → x * p + m < y * p + n := by
    intro x y m n hxy hm
    have hstep : (x + 1) * p ≤ y * p := Nat.mul_le_mul_right p hxy
    rw [Nat.succ_mul] at hstep
    omega
  rcases Nat.lt_trichotomy x y with h | rfl | h
  · rw [Nat.compare_eq_lt.mpr h, Nat.compare_eq_lt.mpr (hplace h hm)]
    rfl
  · rw [Nat.compare_eq_eq.mpr rfl, Nat.compare_eq_ite_lt, Nat.compare_eq_ite_lt]
    simp only [Nat.add_lt_add_iff_left]
    rfl
  · rw [Nat.compare_eq_gt.mpr h, Nat.compare_eq_gt.mpr (hplace h hn)]
    rfl

private theorem compare_toNat_sub {m n : Nat} (hm : 48 ≤ m) (hn : 48 ≤ n) :
    compare (m - 48) (n - 48) = compare m n := by
  simp only [Nat.compare_eq_ite_lt, Nat.sub_lt_sub_iff_right hm, Nat.sub_lt_sub_iff_right hn]

private theorem compareChars_eq_compare_numberOf (ha : ∀ d ∈ a, d.isDigit = true)
    (hb : ∀ d ∈ b, d.isDigit = true) (hlength : a.length = b.length) :
    compareChars a b = compare (numberOf a) (numberOf b) := by
  induction a generalizing b with
  | nil =>
    obtain rfl := List.eq_nil_of_length_eq_zero hlength.symm
    rfl
  | cons c a ih =>
    cases b with
    | nil => cases hlength
    | cons d b =>
      obtain ⟨hc, ha⟩ := List.forall_mem_cons.mp ha
      obtain ⟨hd, hb⟩ := List.forall_mem_cons.mp hb
      have hlength := Nat.succ.inj hlength
      have hdigits := compare_toNat_sub (digit_bounds hc).1 (digit_bounds hd).1
      have halt := numberOf_lt ha
      rw [hlength] at halt
      rw [compareChars, List.compareLex_cons_cons, ← compareChars, ih ha hb hlength, compareOn,
        ← hdigits, numberOf, numberOf, hlength, compare_mul_add halt (numberOf_lt hb)]
      rfl

private theorem isDigit_of_mem_significant (h : ∀ d ∈ ds, d.isDigit = true) :
    ∀ d ∈ significant ds, d.isDigit = true :=
  fun d hd => h d ((List.dropWhile_sublist _).subset hd)

private theorem numberOf_lt_of_length_lt (ha : ∀ d ∈ a, d.isDigit = true)
    (hb : ∀ d ∈ b, d.isDigit = true) (h : a.length < (significant b).length) :
    numberOf a < numberOf (significant b) := by
  cases hcons : significant b with
  | nil =>
    rw [hcons] at h
    cases h
  | cons d ds =>
    rw [hcons, List.length_cons] at h
    have hzero : d ≠ '0' := by
      have hhead := List.head?_dropWhile_not (· == '0') b
      rw [← significant, hcons] at hhead
      simpa using hhead
    have hd : d.isDigit = true :=
      isDigit_of_mem_significant hb d (hcons ▸ List.mem_cons_self)
    have hpositive : 1 ≤ d.toNat - 48 := by
      have hne : d.toNat ≠ 48 := fun he => hzero (Char.toNat_inj.mp he)
      have hbounds := digit_bounds hd
      omega
    calc numberOf a < 10 ^ a.length := numberOf_lt ha
      _ ≤ 1 * 10 ^ ds.length := by
        rw [Nat.one_mul]
        exact Nat.pow_le_pow_right (by decide) (Nat.le_of_lt_succ h)
      _ ≤ (d.toNat - 48) * 10 ^ ds.length := Nat.mul_le_mul_right _ hpositive
      _ ≤ numberOf (d :: ds) := Nat.le_add_right _ _

private theorem compareDigits_eq (ha : ∀ d ∈ a, d.isDigit = true) (hb : ∀ d ∈ b, d.isDigit = true) :
    compareDigits a b = (compare (numberOf a) (numberOf b)).then (compare a.length b.length) := by
  have ha' := isDigit_of_mem_significant ha
  have hb' := isDigit_of_mem_significant hb
  rw [compareDigits, ← Ordering.then_assoc, ← numberOf_significant a, ← numberOf_significant b]
  refine congrArg (Ordering.then · _) ?_
  rcases Nat.lt_trichotomy (significant a).length (significant b).length with h | h | h
  · rw [Nat.compare_eq_lt.mpr h, Nat.compare_eq_lt.mpr (numberOf_lt_of_length_lt ha' hb h)]
    rfl
  · rw [Nat.compare_eq_eq.mpr h, compareChars_eq_compare_numberOf ha' hb' h]
    rfl
  · rw [Nat.compare_eq_gt.mpr h, Nat.compare_eq_gt.mpr (numberOf_lt_of_length_lt hb' ha h)]
    rfl

end Numbers

private theorem compareRun_eq {r r' : Run} (hr : r.IsProper) (hr' : r'.IsProper) :
    compareRun r r' = r.compareValue r' := by
  cases r with
  | digits a =>
    cases r' with
    | digits b => exact compareDigits_eq hr.kind hr'.kind
    | text b => rfl
  | text a =>
    cases r' with
    | digits b => rfl
    | text b =>
      show compareChars a b = List.compareLex compare (utf8 a) (utf8 b)
      rw [compareLex_utf8]
      rfl

private theorem compareRuns_eq {rs rs' : List Run} (h : ∀ r ∈ rs, r.IsProper)
    (h' : ∀ r ∈ rs', r.IsProper) :
    compareRuns rs rs' = List.compareLex Run.compareValue rs rs' := by
  rw [compareRuns]
  induction rs generalizing rs' with
  | nil => cases rs' <;> rfl
  | cons r rs ih =>
    cases rs' with
    | nil => rfl
    | cons r' rs' =>
      obtain ⟨hr, hrs⟩ := List.forall_mem_cons.mp h
      obtain ⟨hr', hrs'⟩ := List.forall_mem_cons.mp h'
      rw [List.compareLex_cons_cons, List.compareLex_cons_cons, compareRun_eq hr hr', ih hrs hrs']

/-- Names compare by their maximal runs, position by position and a proper initial part first: by
the numbers that digits write, however many there are, and by the bytes of other characters. -/
theorem compareNames_eq_compareLex_of_cuts (a b : String) :
    ∃ ra rb, (∀ rs, IsCut a.toList rs ↔ rs = ra) ∧ (∀ rs, IsCut b.toList rs ↔ rs = rb) ∧
      compareNames a b = List.compareLex Run.compareValue ra rb := by
  have hcut : ∀ s rs, IsCut s rs ↔ rs = runs s := fun s rs =>
    ⟨IsCut.eq_runs, fun h => h ▸ isCut_runs s⟩
  exact ⟨runs a.toList, runs b.toList, hcut _, hcut _,
    compareRuns_eq (isCut_runs a.toList).proper (isCut_runs b.toList).proper⟩

example : compareNames "q99999999999999999999" "q100000000000000000000" = .lt := by
  decide +kernel

end RunPlan.NaturalOrder
