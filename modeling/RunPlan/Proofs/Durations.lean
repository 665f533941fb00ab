import RunPlan.Service.Http
import Mathlib

/-!
The grammar of lengths of time, over any conversion of a number and a unit. What was read up to a
place is described by a draft: each character that is read makes it grow, and each draft has grown
from a shorter one. Main statement: the texts that are read are exactly those of components that
convert and whose sums from the left stay in the range of times, and the time is the last sum.
-/

set_option autoImplicit false

namespace RunPlan.Span

open RunPlan.Text

/-- A letter is the given capital one or the same one in lower case. -/
def EitherCase (c l : Char) : Prop := c = l ∨ c = l.toLower

instance (c l : Char) : Decidable (EitherCase c l) := inferInstanceAs (Decidable (_ ∨ _))

/-- The characters of numbers. -/
def IsNumeral (c : Char) : Prop := c.isDigit = true ∨ c = '.' ∨ c = '-'

/-- The sums of milliseconds that are times. They are as many above zero as below. -/
def InRange (i : Int) : Prop := -maxMilliseconds ≤ i ∧ i ≤ maxMilliseconds

namespace TimeUnit

def letter : TimeUnit → Char
  | .week => 'W'
  | .day => 'D'
  | .hour => 'H'
  | .minute => 'M'
  | .second => 'S'

def inTime : TimeUnit → Bool
  | .week | .day => false
  | .hour | .minute | .second => true

end TimeUnit

/-- A number with its unit as they are written, and the milliseconds they stand for. -/
structure Component where
  number : List Char
  letter : Char
  unit : TimeUnit
  part : Int

def Component.chars (a : Component) : List Char := a.number ++ [a.letter]

/-- A component that has a number, the letter of its unit and the value of the conversion. -/
structure Component.Valid (convert : List Char → TimeUnit → Option Int) (a : Component) : Prop where
  number_ne_nil : a.number ≠ []
  numeral : ∀ c ∈ a.number, IsNumeral c
  letter : EitherCase a.letter a.unit.letter
  converts : convert a.number a.unit = some a.part

def Component.sum : List Component → Int
  | [] => 0
  | a :: as => a.part + sum as

private theorem Component.sum_concat (as : List Component) (a : Component) :
    Component.sum (as ++ [a]) = Component.sum as + a.part := by
  induction as with
  | nil => simp [Component.sum]
  | cons a' as ih => rw [List.cons_append, Component.sum, Component.sum, ih, Int.add_assoc]

/-- What stands behind the `P`: components of dates, and behind a `T`, if there is one, components
of times of day. -/
structure Body where
  dates : List Component
  clock : Option Char
  times : List Component

namespace Body

def components (b : Body) : List Component := b.dates ++ b.times

def total (b : Body) : Int := Component.sum b.components

def chars (b : Body) : List Char :=
  b.dates.flatMap Component.chars ++ b.clock.toList ++ b.times.flatMap Component.chars

/-- The components convert and stand on their side of the `T`, and each sum from the left is in
range. -/
structure Valid (convert : List Char → TimeUnit → Option Int) (b : Body) : Prop where
  dates : ∀ a ∈ b.dates, a.Valid convert ∧ a.unit.inTime = false
  clock : ∀ c ∈ b.clock, EitherCase c 'T'
  times : ∀ a ∈ b.times, a.Valid convert ∧ a.unit.inTime = true
  times_of_clock : b.clock = none → b.times = []
  inRange : ∀ first, first <+: b.components → InRange (Component.sum first)

end Body

/-- A text is, apart from white space around it, a sign or none, a `P` and a body with at least one
component, and the time is the sum of the body with that sign. -/
def Denotes (convert : List Char → TimeUnit → Option Int) (text : String) (span : Span) : Prop :=
  ∃ (negative : Bool) (mark : Char) (body : Body), EitherCase mark 'P' ∧ body.Valid convert ∧
    body.components ≠ [] ∧
    trim text.toList = (if negative then ['-'] else []) ++ mark :: body.chars ∧
    span.milliseconds = if negative then -body.total else body.total

section Letters

variable {c l : Char}

private theorem toUpper_eq_iff (hl : l.isUpper = true) : c.toUpper = l ↔ EitherCase c l := by
  constructor
  · rintro rfl
    by_cases hc : c.isLower = true
    · have hupper : ¬ c.isUpper = true := Char.not_isUpper_of_isLower hc
      refine Or.inr ?_
      rw [Char.toLower_toUpper_eq_toLower, Char.toLower_eq_of_not_isUpper hupper]
    · exact Or.inl (Char.toUpper_eq_of_not_isLower hc).symm
  · have hlower : ¬ l.isLower = true := Char.not_isLower_of_isUpper hl
    rintro (rfl | rfl)
    · exact Char.toUpper_eq_of_not_isLower hlower
    · rw [Char.toUpper_toLower_eq_toUpper, Char.toUpper_eq_of_not_isLower hlower]

private theorem IsNumeral.not_isAlpha (h : IsNumeral c) : ¬ c.isAlpha = true := by
  rcases h with h | rfl | rfl
  · have hdigit := Char.isDigit_iff_toNat.mp h
    simp only [Char.reduceToNat] at hdigit
    simp only [Char.isAlpha, Char.isUpper, Char.isLower, UInt32.le_iff_toNat_le, Char.toNat_val,
      Char.reduceVal, UInt32.reduceToNat, Bool.or_eq_true, Bool.and_eq_true, decide_eq_true_eq,
      ge_iff_le]
    omega
  · decide
  · decide

private theorem IsNumeral.toUpper_eq (h : IsNumeral c) : c.toUpper = c := by
  apply Char.toUpper_eq_of_not_isLower
  intro hlower
  exact h.not_isAlpha (by simp [Char.isAlpha, hlower])

private theorem isNumeral_toUpper_iff : IsNumeral c.toUpper ↔ IsNumeral c := by
  constructor
  · intro h
    have halpha := h.not_isAlpha
    rw [Char.isAlpha_toUpper_eq_isAlpha] at halpha
    have hlower : ¬ c.isLower = true := fun hlower => halpha (by simp [Char.isAlpha, hlower])
    rwa [Char.toUpper_eq_of_not_isLower hlower] at h
  · intro h
    rwa [h.toUpper_eq]

theorem EitherCase.unique {l' : Char} (hl : l.isUpper = true) (hl' : l'.isUpper = true)
    (h : EitherCase c l) (h' : EitherCase c l') : l = l' :=
  ((toUpper_eq_iff hl).mpr h).symm.trans ((toUpper_eq_iff hl').mpr h')

private theorem EitherCase.not_isNumeral (hl : l.isUpper = true) (h : EitherCase c l) :
    ¬ IsNumeral c := by
  intro hnumeral
  have halpha := (isNumeral_toUpper_iff.mpr hnumeral).not_isAlpha
  rw [(toUpper_eq_iff hl).mpr h] at halpha
  exact halpha (by simp [Char.isAlpha, hl])

private theorem TimeUnit.isUpper_letter (unit : TimeUnit) : unit.letter.isUpper = true := by
  cases unit <;> rfl

private theorem TimeUnit.ofLetter?_eq_some_iff {inTime : Bool} {unit : TimeUnit} :
    TimeUnit.ofLetter? inTime c = some unit ↔ c = unit.letter ∧ unit.inTime = inTime := by
  constructor
  · intro h
    unfold TimeUnit.ofLetter? at h
    split at h <;> cases h <;> exact ⟨rfl, rfl⟩
  · rintro ⟨rfl, rfl⟩
    cases unit <;> rfl

end Letters

section Steps

variable {convert : List Char → TimeUnit → Option Int} {p q : Progress} {c : Char}

private theorem addWithin?_eq_some_iff {total part sum : Int} :
    addWithin? total part = some sum ↔ InRange (total + part) ∧ sum = total + part := by
  rw [addWithin?, Option.ite_none_right_eq_some, Bool.and_eq_true, decide_eq_true_iff,
    decide_eq_true_iff, Option.some_inj, InRange, eq_comm]

/-- A character is a `T` where none has come and no number waits, or a part of a number, or the
letter of a unit whose number converts and leaves the sum in range. -/
theorem step_eq_some_iff : Progress.step convert p c = some q ↔
    (EitherCase c 'T' ∧ p.inTime = false ∧ p.number = [] ∧ q = { p with inTime := true }) ∨
    (IsNumeral c ∧ q = { p with number := p.number ++ [c] }) ∨
    ∃ unit part, EitherCase c unit.letter ∧ unit.inTime = p.inTime ∧
      convert p.number unit = some part ∧ InRange (p.total + part) ∧
      q = ⟨p.total + part, p.inTime, [], true⟩ := by
  have hclockTest : (c.toUpper = 'T' && !p.inTime && p.number.isEmpty) = true ↔
      EitherCase c 'T' ∧ p.inTime = false ∧ p.number = [] := by
    simp [← toUpper_eq_iff (c := c) (l := 'T') rfl, and_assoc]
  have hnumeralTest : (c.toUpper.isDigit || c.toUpper = '.' || c.toUpper = '-') = true ↔
      IsNumeral c := by
    rw [← isNumeral_toUpper_iff]
    simp [IsNumeral, or_assoc]
  rw [Progress.step]
  by_cases hclock : EitherCase c 'T' ∧ p.inTime = false ∧ p.number = []
  · have hnumeral : ¬ IsNumeral c := EitherCase.not_isNumeral rfl hclock.1
    have hunit : ∀ unit : TimeUnit, ¬ EitherCase c unit.letter := by
      intro unit h
      have hsame := EitherCase.unique rfl unit.isUpper_letter hclock.1 h
      cases unit <;> cases hsame
    rw [if_pos (hclockTest.mpr hclock), Option.some_inj, eq_comm]
    simp only [hclock, hnumeral, hunit, true_and, false_and, exists_false, or_false]
  · rw [if_neg (hclockTest.not.mpr hclock)]
    by_cases hnumeral : IsNumeral c
    · have hletter : ¬ EitherCase c 'T' := fun h => h.not_isNumeral rfl hnumeral
      have hunit : ∀ unit : TimeUnit, ¬ EitherCase c unit.letter := by
        intro unit h
        exact h.not_isNumeral unit.isUpper_letter hnumeral
      rw [if_pos (hnumeralTest.mpr hnumeral), hnumeral.toUpper_eq, Option.some_inj, eq_comm]
      simp only [hletter, hnumeral, hunit, true_and, false_and, false_or, exists_false, or_false]
    · have hother : ¬ (EitherCase c 'T' ∧ p.inTime = false ∧ p.number = [] ∧
          q = { p with inTime := true }) := fun h => hclock ⟨h.1, h.2.1, h.2.2.1⟩
      rw [if_neg (hnumeralTest.not.mpr hnumeral)]
      simp only [hother, hnumeral, false_and, false_or, Option.bind_eq_bind,
        Option.bind_eq_some_iff, TimeUnit.ofLetter?_eq_some_iff, addWithin?_eq_some_iff]
      constructor
      · rintro ⟨unit, ⟨hletter, htime⟩, part, hpart, total, ⟨hrange, rfl⟩, h⟩
        cases h
        have hcase : EitherCase c unit.letter := (toUpper_eq_iff unit.isUpper_letter).mp hletter
        exact ⟨unit, part, hcase, htime, hpart, hrange, rfl⟩
      · rintro ⟨unit, part, hcase, htime, hpart, hrange, rfl⟩
        have hletter : c.toUpper = unit.letter := (toUpper_eq_iff unit.isUpper_letter).mpr hcase
        exact ⟨unit, ⟨hletter, htime⟩, part, hpart, _, ⟨hrange, rfl⟩, rfl⟩

end Steps

namespace Body

variable {convert : List Char → TimeUnit → Option Int} {b : Body} {a : Component} {t : Char}

def openClock (b : Body) (t : Char) : Body := { b with clock := some t }

def push (b : Body) (a : Component) : Body :=
  if b.clock.isSome then { b with times := b.times ++ [a] } else { b with dates := b.dates ++ [a] }

private theorem push_clock (b : Body) (a : Component) : (b.push a).clock = b.clock := by
  rw [push]
  split <;> rfl

private theorem Valid.push_components (h : b.Valid convert) (a : Component) :
    (b.push a).components = b.components ++ [a] := by
  rw [push]
  split
  · exact (List.append_assoc _ _ _).symm
  · rename_i hclock
    have htimes := h.times_of_clock (by simpa using hclock)
    simp [components, htimes]

private theorem Valid.push_chars (h : b.Valid convert) (a : Component) :
    (b.push a).chars = b.chars ++ a.chars := by
  rw [push]
  split
  · simp [chars]
  · rename_i hclock
    have htimes := h.times_of_clock (by simpa using hclock)
    have hnone : b.clock = none := by simpa using hclock
    simp [chars, htimes, hnone]

private theorem Valid.push_total (h : b.Valid convert) (a : Component) :
    (b.push a).total = b.total + a.part := by
  rw [total, h.push_components, Component.sum_concat, total]

private theorem Valid.openClock_chars (h : b.Valid convert) (hclock : b.clock = none) (t : Char) :
    (b.openClock t).chars = b.chars ++ [t] := by
  simp [openClock, chars, hclock, h.times_of_clock hclock]

private theorem valid_empty : Valid convert ⟨[], none, []⟩ where
  dates := nofun
  clock := nofun
  times := nofun
  times_of_clock _ := rfl
  inRange first hfirst := by
    rw [List.prefix_nil.mp hfirst]
    exact ⟨by decide, by decide⟩

private theorem Valid.openClock (h : b.Valid convert) (ht : EitherCase t 'T') :
    (b.openClock t).Valid convert where
  dates := h.dates
  clock _ hc := Option.some_inj.mp hc ▸ ht
  times := h.times
  times_of_clock := nofun
  inRange := h.inRange

theorem Valid.push (h : b.Valid convert) (ha : a.Valid convert)
    (htime : a.unit.inTime = b.clock.isSome) (hrange : InRange (b.total + a.part)) :
    (b.push a).Valid convert := by
  have hsums : ∀ first, first <+: (b.push a).components → InRange (Component.sum first) := by
    intro first hfirst
    rw [h.push_components] at hfirst
    rcases List.prefix_concat_iff.mp hfirst with rfl | hfirst
    · rw [← h.push_components a, ← total, h.push_total]
      exact hrange
    · exact h.inRange first hfirst
  have hmem : ∀ {as : List Component} {inTime : Bool}, a.unit.inTime = inTime →
      (∀ x ∈ as, x.Valid convert ∧ x.unit.inTime = inTime) →
      ∀ x ∈ as ++ [a], x.Valid convert ∧ x.unit.inTime = inTime := by
    intro as inTime ha' has x hx
    rcases List.mem_append.mp hx with hx | hx
    · exact has x hx
    · rw [List.mem_singleton.mp hx]
      exact ⟨ha, ha'⟩
  obtain ⟨dates, clock, times⟩ := b
  cases clock with
  | none => exact ⟨hmem htime h.dates, h.clock, h.times, h.times_of_clock, hsums⟩
  | some t => exact ⟨h.dates, h.clock, hmem htime h.times, nofun, hsums⟩

private theorem Valid.cases_last (h : b.Valid convert) : b = ⟨[], none, []⟩ ∨
    (∃ (b' : Body) (t : Char), b'.Valid convert ∧ b'.clock = none ∧ EitherCase t 'T' ∧
      b = b'.openClock t) ∨
    ∃ (b' : Body) (a : Component), b'.Valid convert ∧ a.Valid convert ∧
      a.unit.inTime = b'.clock.isSome ∧ b = b'.push a := by
  obtain ⟨dates, clock, times⟩ := b
  cases clock with
  | none =>
    obtain rfl : times = [] := h.times_of_clock rfl
    rcases List.eq_nil_or_concat' dates with rfl | ⟨dates, a, rfl⟩
    · exact Or.inl rfl
    · obtain ⟨ha, htime⟩ := h.dates a (by simp)
      refine Or.inr (Or.inr ⟨⟨dates, none, []⟩, a, ?_, ha, htime, rfl⟩)
      refine ⟨fun x hx => h.dates x (by simp [hx]), h.clock, h.times, h.times_of_clock, ?_⟩
      exact fun first hfirst => h.inRange first (hfirst.trans (by simp [components]))
  | some t =>
    have ht : EitherCase t 'T' := h.clock t rfl
    rcases List.eq_nil_or_concat' times with rfl | ⟨times, a, rfl⟩
    · refine Or.inr (Or.inl ⟨⟨dates, none, []⟩, t, ?_, rfl, ht, rfl⟩)
      exact ⟨h.dates, nofun, h.times, fun _ => rfl, h.inRange⟩
    · obtain ⟨ha, htime⟩ := h.times a (by simp)
      refine Or.inr (Or.inr ⟨⟨dates, some t, times⟩, a, ?_, ha, htime, rfl⟩)
      refine ⟨h.dates, h.clock, fun x hx => h.times x (by simp [hx]), nofun, ?_⟩
      exact fun first hfirst => h.inRange first (hfirst.trans (by simp [components]))

end Body

/-- What was read up to a place: a body, and the number that waits for its unit. -/
structure Draft where
  body : Body
  number : List Char

namespace Draft

variable {convert : List Char → TimeUnit → Option Int} {d : Draft} {c : Char} {q : Progress}

def chars (d : Draft) : List Char := d.body.chars ++ d.number

def progress (d : Draft) : Progress :=
  ⟨d.body.total, d.body.clock.isSome, d.number, !d.body.components.isEmpty⟩

/-- The invariant of reading. -/
structure Valid (convert : List Char → TimeUnit → Option Int) (d : Draft) : Prop where
  body : d.body.Valid convert
  numeral : ∀ c ∈ d.number, IsNumeral c

private theorem Valid.exists_grown (rejectsEmpty : ∀ unit, convert [] unit = none)
    (h : d.Valid convert)
    (hstep : Progress.step convert d.progress c = some q) :
    ∃ d' : Draft, d'.Valid convert ∧ d'.chars = d.chars ++ [c] ∧ d'.progress = q := by
  obtain ⟨body, number⟩ := d
  rcases step_eq_some_iff.mp hstep with ⟨ht, hclock, hnumber, rfl⟩ | ⟨hc, rfl⟩ |
    ⟨unit, part, hletter, htime, hpart, hrange, rfl⟩
  · have hnone : body.clock = none := by simpa [progress] using hclock
    obtain rfl : number = [] := hnumber
    refine ⟨⟨body.openClock c, []⟩, ⟨h.body.openClock ht, nofun⟩, ?_, rfl⟩
    simp [chars, h.body.openClock_chars hnone]
  · refine ⟨⟨body, number ++ [c]⟩, ⟨h.body, ?_⟩, (List.append_assoc _ _ _).symm, rfl⟩
    intro x hx
    rcases List.mem_append.mp hx with hx | hx
    · exact h.numeral x hx
    · exact List.mem_singleton.mp hx ▸ hc
  · have hne : number ≠ [] := by
      rintro rfl
      rw [progress, rejectsEmpty] at hpart
      cases hpart
    let a : Component := ⟨number, c, unit, part⟩
    have ha : a.Valid convert := ⟨hne, h.numeral, hletter, hpart⟩
    refine ⟨⟨body.push a, []⟩, ⟨h.body.push ha htime hrange, nofun⟩, ?_, ?_⟩
    · simp [chars, h.body.push_chars, Component.chars, a]
    · simp [progress, h.body.push_total, h.body.push_components, Body.push_clock, a]

private theorem Valid.exists_before (h : d.Valid convert) : d = ⟨⟨[], none, []⟩, []⟩ ∨
    ∃ (d' : Draft) (c : Char), d'.Valid convert ∧ d.chars = d'.chars ++ [c] ∧
      Progress.step convert d'.progress c = some d.progress := by
  obtain ⟨body, number⟩ := d
  rcases List.eq_nil_or_concat' number with rfl | ⟨number, c, rfl⟩
  · rcases h.body.cases_last with hempty | ⟨b, t, hb, hclock, ht, hbody⟩ |
      ⟨b, a, hb, ha, htime, hbody⟩
    · obtain rfl : body = ⟨[], none, []⟩ := hempty
      exact Or.inl rfl
    · obtain rfl : body = b.openClock t := hbody
      refine Or.inr ⟨⟨b, []⟩, t, ⟨hb, nofun⟩, ?_, ?_⟩
      · simp [chars, hb.openClock_chars hclock]
      · refine step_eq_some_iff.mpr (Or.inl ⟨ht, ?_, rfl, rfl⟩)
        simp [progress, hclock]
    · obtain rfl : body = b.push a := hbody
      refine Or.inr ⟨⟨b, a.number⟩, a.letter, ⟨hb, ha.numeral⟩, ?_, ?_⟩
      · simp [chars, hb.push_chars, Component.chars]
      · refine step_eq_some_iff.mpr (Or.inr (Or.inr ⟨a.unit, a.part, ha.letter, htime,
          ha.converts, ?_, ?_⟩))
        · have hrange := h.body.inRange _ (List.prefix_rfl)
          rwa [← Body.total, hb.push_total] at hrange
        · simp [progress, hb.push_total, hb.push_components, Body.push_clock]
  · refine Or.inr ⟨⟨body, number⟩, c, ⟨h.body, fun x hx => h.numeral x (by simp [hx])⟩,
      (List.append_assoc _ _ _).symm, ?_⟩
    exact step_eq_some_iff.mpr (Or.inr (Or.inl ⟨h.numeral c (by simp), rfl⟩))

end Draft

abbrev start : Progress := ⟨0, false, [], false⟩

section Runs

variable {convert : List Char → TimeUnit → Option Int}

private theorem foldlM_step_eq_some_iff (rejectsEmpty : ∀ unit, convert [] unit = none)
    {s : List Char}
    {q : Progress} : s.foldlM (Progress.step convert) start = some q ↔
      ∃ d : Draft, d.Valid convert ∧ d.chars = s ∧ d.progress = q := by
  constructor
  · intro h
    induction s using List.reverseRecOn generalizing q with
    | nil =>
      cases h
      exact ⟨⟨⟨[], none, []⟩, []⟩, ⟨Body.valid_empty, nofun⟩, rfl, rfl⟩
    | append_singleton s c ih =>
      rw [List.foldlM_append, Option.bind_eq_bind, Option.bind_eq_some_iff] at h
      obtain ⟨p, hp, h⟩ := h
      obtain ⟨d, hd, rfl, rfl⟩ := ih hp
      refine hd.exists_grown rejectsEmpty ?_
      simpa using h
  · rintro ⟨d, hd, rfl, rfl⟩
    generalize hs : d.chars = s
    induction s using List.reverseRecOn generalizing d with
    | nil =>
      rcases hd.exists_before with rfl | ⟨d', c, -, hchars, -⟩
      · rfl
      · simp [hs] at hchars
    | append_singleton s c ih =>
      rcases hd.exists_before with rfl | ⟨d', c', hd', hchars, hstep⟩
      · simp [Draft.chars, Body.chars] at hs
      · obtain ⟨rfl, rfl⟩ := List.append_singleton_inj.mp (hs.symm.trans hchars)
        rw [List.foldlM_append, ih d' hd' rfl]
        simpa using hstep

private theorem readComponents?_eq_some_iff (rejectsEmpty : ∀ unit, convert [] unit = none)
    {s : List Char} {total : Int} : readComponents? convert s = some total ↔
      ∃ body : Body, body.Valid convert ∧ body.components ≠ [] ∧ s = body.chars ∧
        total = body.total := by
  simp only [readComponents?, Option.bind_eq_bind, Option.bind_eq_some_iff,
    Option.ite_none_right_eq_some, foldlM_step_eq_some_iff rejectsEmpty, Option.some_inj]
  constructor
  · rintro ⟨_, ⟨⟨body, number⟩, hd, rfl, rfl⟩, hcomplete, rfl⟩
    obtain ⟨rfl, hne⟩ : number = [] ∧ body.components ≠ [] := by
      simpa [Draft.progress] using hcomplete
    exact ⟨body, hd.body, hne, by simp [Draft.chars], rfl⟩
  · rintro ⟨body, hbody, hne, rfl, rfl⟩
    refine ⟨_, ⟨⟨body, []⟩, ⟨hbody, nofun⟩, by simp [Draft.chars], rfl⟩, ?_, rfl⟩
    simpa [Draft.progress] using hne

private theorem readUnsigned?_eq_some_iff (rejectsEmpty : ∀ unit, convert [] unit = none)
    {s : List Char} {total : Int} : readUnsigned? convert s = some total ↔
      ∃ (mark : Char) (body : Body), EitherCase mark 'P' ∧ body.Valid convert ∧
        body.components ≠ [] ∧ s = mark :: body.chars ∧ total = body.total := by
  constructor
  · intro h
    unfold readUnsigned? at h
    split at h
    · obtain ⟨body, hbody, hne, rfl, rfl⟩ := (readComponents?_eq_some_iff rejectsEmpty).mp h
      exact ⟨'P', body, Or.inl rfl, hbody, hne, rfl, rfl⟩
    · obtain ⟨body, hbody, hne, rfl, rfl⟩ := (readComponents?_eq_some_iff rejectsEmpty).mp h
      exact ⟨'p', body, Or.inr rfl, hbody, hne, rfl, rfl⟩
    · cases h
  · rintro ⟨mark, body, hmark, hbody, hne, rfl, rfl⟩
    have hread := (readComponents?_eq_some_iff rejectsEmpty).mpr ⟨body, hbody, hne, rfl, rfl⟩
    rcases hmark with rfl | rfl
    · exact hread
    · exact hread

private theorem readWith?_eq_some_iff (rejectsEmpty : ∀ unit, convert [] unit = none)
    {text : String}
    {span : Span} : readWith? convert text = some span ↔ Denotes convert text span := by
  obtain ⟨i⟩ := span
  rw [readWith?, Denotes]
  split
  · rename_i r hr
    simp only [Option.map_eq_some_iff, readUnsigned?_eq_some_iff rejectsEmpty, hr, mk.injEq]
    constructor
    · rintro ⟨_, ⟨mark, body, hmark, hbody, hne, rfl, rfl⟩, rfl⟩
      exact ⟨true, mark, body, hmark, hbody, hne, rfl, rfl⟩
    · rintro ⟨negative, mark, body, hmark, hbody, hne, htext, rfl⟩
      cases negative with
      | true => exact ⟨_, ⟨mark, body, hmark, hbody, hne, (List.cons.inj htext).2, rfl⟩, rfl⟩
      | false =>
        obtain rfl : '-' = mark := (List.cons.inj htext).1
        exact absurd hmark (by decide)
  · rename_i hsign
    simp only [Option.map_eq_some_iff, readUnsigned?_eq_some_iff rejectsEmpty, mk.injEq]
    constructor
    · rintro ⟨_, ⟨mark, body, hmark, hbody, hne, htext, rfl⟩, rfl⟩
      exact ⟨false, mark, body, hmark, hbody, hne, htext, rfl⟩
    · rintro ⟨negative, mark, body, hmark, hbody, hne, htext, rfl⟩
      cases negative with
      | true => exact absurd htext (hsign _)
      | false => exact ⟨_, ⟨mark, body, hmark, hbody, hne, htext, rfl⟩, rfl⟩

private theorem InRange.neg {i : Int} (h : InRange i) : InRange (-i) :=
  ⟨Int.neg_le_neg h.2, Int.neg_le_of_neg_le h.1⟩

private theorem inRange_of_foldlM (rejectsEmpty : ∀ unit, convert [] unit = none) {s : List Char}
    {p : Progress} (h : s.foldlM (Progress.step convert) start = some p) : InRange p.total := by
  obtain ⟨d, hd, -, rfl⟩ := (foldlM_step_eq_some_iff rejectsEmpty).mp h
  exact hd.body.inRange _ List.prefix_rfl

end Runs

private theorem componentMilliseconds?_nil (unit : TimeUnit) :
    componentMilliseconds? [] unit = none := rfl

/-- Over any conversion that takes no number without characters: a text is read exactly if it
denotes a time, and that time is the result. Each sum on the way, and its negation, is in the range
of times. A text from the service that denotes none is the fault of an invalid duration, which
quotes the text. -/
theorem readWith?_reads_denoted (convert : List Char → TimeUnit → Option Int)
    (rejectsEmpty : ∀ unit, convert [] unit = none) :
    (∀ text span, readWith? convert text = some span ↔ Denotes convert text span) ∧
    (∀ (s : List Char) (p : Progress), s.foldlM (Progress.step convert) start = some p →
      InRange p.total ∧ InRange (-p.total)) ∧
    ∀ text : String,
      (∀ span, (ServiceClient.Age.text text).span = .ok span ↔
        Denotes componentMilliseconds? text span) ∧
      (∀ fault, (ServiceClient.Age.text text).span = .error fault ↔
        (∀ span, ¬ Denotes componentMilliseconds? text span) ∧ fault = .invalidDuration text) ∧
      (ServiceFault.invalidDuration text).message =
        "invalid ISO-8601 duration '" ++ text ++ "'" := by
  refine ⟨fun text span => readWith?_eq_some_iff rejectsEmpty, fun s p h => ?_, fun text => ?_⟩
  · exact ⟨inRange_of_foldlM rejectsEmpty h, (inRange_of_foldlM rejectsEmpty h).neg⟩
  · have hread : ∀ span, readWith? componentMilliseconds? text = some span ↔
        Denotes componentMilliseconds? text span := by
      intro span
      exact readWith?_eq_some_iff componentMilliseconds?_nil
    simp only [← hread, ServiceClient.Age.span, ofIso8601?]
    refine ⟨fun span => ?_, fun fault => ?_, rfl⟩
    · cases readWith? componentMilliseconds? text <;> simp
    · cases readWith? componentMilliseconds? text <;> simp [eq_comm]

/-- One text has components on both sides of the `T`, one has a sign and a unit in lower case, and
one has a number without a unit. -/
theorem sample_texts_read_denoted :
    Denotes componentMilliseconds? "P1DT2H3M4.5S" ⟨93784500⟩ ∧
    Denotes componentMilliseconds? " -p1w " ⟨-604800000⟩ ∧
    (ServiceClient.Age.text "PT5").span = .error (.invalidDuration "PT5") ∧
    ∀ span, ¬ Denotes componentMilliseconds? "PT5" span := by
  have hread := readWith?_reads_denoted componentMilliseconds? componentMilliseconds?_nil
  have hfault : (ServiceClient.Age.text "PT5").span = .error (.invalidDuration "PT5") := by
    decide +kernel
  refine ⟨?_, ?_, hfault, ((hread.2.2 "PT5").2.1 _ |>.mp hfault).1⟩
  · exact (hread.1 _ _).mp (by decide +kernel)
  · exact (hread.1 _ _).mp (by decide +kernel)

end RunPlan.Span
