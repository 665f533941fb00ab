/-!
Lengths of time in milliseconds. Main statement: a number of days survives the way into milliseconds
and back.
-/

set_option autoImplicit false

namespace RunPlan

/-- A length of time. -/
structure Span where
  milliseconds : Int
  deriving DecidableEq, Repr

namespace Span

def maxMilliseconds : Int := 9223372036854775807

def millisecondsPerDay : Int := 86400000

def ofDays (days : Int) : Span := ⟨days * millisecondsPerDay⟩

def days (s : Span) : Int := s.milliseconds.tdiv millisecondsPerDay

theorem days_ofDays (n : Int) : (ofDays n).days = n := by
  simp [days, ofDays, millisecondsPerDay, Int.mul_tdiv_cancel]

end Span

end RunPlan
