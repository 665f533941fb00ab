/-!
Sets of characters written as ascending ranges of code points, looked up by a search that stops at
the first range beyond the point.
-/

set_option autoImplicit false

namespace RunPlan.Text

/-- Ranges of code points, both ends included, in ascending order. -/
abbrev Ranges := List (Nat × Nat)

def maxCode : Nat := 0x10FFFF

namespace Ranges

/-- Looks a code point up; nothing beyond the first range that starts after it is read. -/
def contains : Ranges → Nat → Bool
  | [], _ => false
  | (lo, hi) :: rest, n => lo ≤ n && (n ≤ hi || contains rest n)

/-- Joins ranges that overlap or touch, where they stand in the order of their starts. -/
private def coalesce : Ranges → Ranges
  | [] => []
  | [r] => [r]
  | (a, b) :: (c, d) :: rest =>
    if c ≤ b + 1 then coalesce ((a, max b d) :: rest) else (a, b) :: coalesce ((c, d) :: rest)
termination_by rs => rs.length

/-- The set that the given ranges make up, in whatever order they stand. -/
def ofList (rs : Ranges) : Ranges := coalesce (rs.mergeSort fun p q => p.1 ≤ q.1)

def union (rs ss : Ranges) : Ranges := ofList (rs ++ ss)

def unionAll (sets : List Ranges) : Ranges := ofList sets.flatten

/-- The code points from `start` to `top` that lie in none of the ranges. -/
private def gaps (top start : Nat) : Ranges → Ranges
  | [] => if start ≤ top then [(start, top)] else []
  | (lo, hi) :: rest =>
    if start < lo then (start, lo - 1) :: gaps top (hi + 1) rest else gaps top (hi + 1) rest

def complement (top : Nat) (rs : Ranges) : Ranges := gaps top 0 rs

def intersection (rs ss : Ranges) : Ranges :=
  complement maxCode (union (complement maxCode rs) (complement maxCode ss))

def difference (rs ss : Ranges) : Ranges := intersection rs (complement maxCode ss)

def symmetricDifference (rs ss : Ranges) : Ranges := union (difference rs ss) (difference ss rs)

end Ranges

end RunPlan.Text
