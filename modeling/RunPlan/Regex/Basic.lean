import RunPlan.Text.Ranges

/-!
Regular expressions as they are after reading: sets of characters, places between characters, and
what is made of them.
-/

set_option autoImplicit false

namespace RunPlan

open RunPlan.Text

/-- A condition on what stands before and behind a place. The flag of the conditions on words says
whether words have ASCII characters alone. -/
inductive Assertion
  | textStart
  | textEnd
  | lineStart
  | lineEnd
  | lineStartWithReturn
  | lineEndWithReturn
  | boundary (ascii : Bool)
  | noBoundary (ascii : Bool)
  | wordStart (ascii : Bool)
  | wordEnd (ascii : Bool)
  | wordStartHalf (ascii : Bool)
  | wordEndHalf (ascii : Bool)
  deriving DecidableEq, Repr

/-- A regular expression. -/
inductive Regex
  | empty
  | set (members : Ranges)
  | place (a : Assertion)
  | sequence (r s : Regex)
  | choice (r s : Regex)
  | repeated (r : Regex) (least : Nat) (most? : Option Nat)
  deriving Repr

namespace Regex

def char (c : Char) : Regex := .set [(c.toNat, c.toNat)]

def sequenceOf : List Regex → Regex
  | [] => .empty
  | [r] => r
  | r :: rs => .sequence r (sequenceOf rs)

def choiceOf : List Regex → Regex
  | [] => .empty
  | [r] => r
  | r :: rs => .choice r (choiceOf rs)

private def isIdle : Regex → Bool
  | .empty => true
  | .set _ => false
  | .place _ => true
  | .sequence r s => r.isIdle && s.isIdle
  | .choice r s => r.isIdle && s.isIdle
  | .repeated r _ most? => r.isIdle || most? == some 0

private def stepSize : Nat := 32

private def rangeSize : Nat := 65

/-- The number of lengths that the UTF-8 forms of the members of a range have. -/
private def formCount (lo hi : Nat) : Nat :=
  let form (n : Nat) : Nat :=
    if n ≤ 0x7F then 0 else if n ≤ 0x7FF then 1 else if n ≤ 0xFFFF then 2 else 3
  form hi - form lo + 1

/-- The bytes that a set takes. A single character is spelled out in UTF-8. -/
private def setSize : Ranges → Nat
  | [] => stepSize
  | [(lo, hi)] =>
    if lo = hi then stepSize * (Char.ofNat lo).utf8Size else stepSize + rangeSize * formCount lo hi
  | rs => rs.foldl (fun n (lo, hi) => n + rangeSize * formCount lo hi) stepSize

/-- The bytes that an automaton for the expression takes, about. What is repeated is spelled out as
often, unless no character can be part of it. -/
def size : Regex → Nat
  | .empty => stepSize
  | .set rs => setSize rs
  | .place _ => stepSize
  | .sequence r s => r.size + s.size
  | .choice r s => stepSize + r.size + s.size
  | .repeated r least most? =>
    let times := (most?.getD least).max 1
    (if r.isIdle then 1 else times) * (stepSize + r.size)

def maxSize : Nat := 10 * 1024 * 1024

end Regex

end RunPlan
