import RunPlan.Span.Basic
import RunPlan.Binary64.Decimal
import RunPlan.Text.Blank

/-!
Lengths of time in the notation of ISO 8601: a `P`, components of weeks and days, and behind a `T`
components of hours, minutes and seconds. How a number becomes milliseconds is a parameter.
-/

set_option autoImplicit false

namespace RunPlan.Span

open RunPlan.Text

/-- The units of components. -/
inductive TimeUnit
  | week
  | day
  | hour
  | minute
  | second
  deriving DecidableEq, Repr

namespace TimeUnit

def ofLetter? (inTime : Bool) (c : Char) : Option TimeUnit :=
  match inTime, c with
  | false, 'W' => some .week
  | false, 'D' => some .day
  | true, 'H' => some .hour
  | true, 'M' => some .minute
  | true, 'S' => some .second
  | _, _ => none

/-- The factors that lead to milliseconds, in the order of the multiplications. -/
private def factors : TimeUnit → List Nat
  | .week => [7, 86400000]
  | .day => [86400000]
  | .hour => [3600000]
  | .minute => [60000]
  | .second => [1000]

end TimeUnit

/-- The nearest whole number of milliseconds, if it is in the range of times. -/
def ofBinary64? (x : Binary64) : Option Int :=
  x.toInt?.bind fun i =>
    if i = maxMilliseconds + 1 then some maxMilliseconds
    else if -maxMilliseconds ≤ i && i ≤ maxMilliseconds then some i
    else none

/-- The milliseconds of a component, its number read as a floating-point number. -/
def componentMilliseconds? (number : List Char) (unit : TimeUnit) : Option Int :=
  (Decimal.read? number).bind fun d =>
    ofBinary64? (unit.factors.foldl (fun x f => x.mul (.ofNat false f)) d.toBinary64)

/-- What was read: the sum of the components, whether the `T` has come, the number that waits for
its unit, and whether there was a component at all. -/
structure Progress where
  total : Int
  inTime : Bool
  number : List Char
  seen : Bool
  deriving DecidableEq, Repr

def addWithin? (total part : Int) : Option Int :=
  let sum := total + part
  if -maxMilliseconds ≤ sum && sum ≤ maxMilliseconds then some sum else none

def Progress.step (convert : List Char → TimeUnit → Option Int) (p : Progress) (c : Char) :
    Option Progress :=
  let c := c.toUpper
  if c = 'T' && !p.inTime && p.number.isEmpty then some { p with inTime := true }
  else if c.isDigit || c = '.' || c = '-' then some { p with number := p.number ++ [c] }
  else do
    let unit ← TimeUnit.ofLetter? p.inTime c
    let part ← convert p.number unit
    let total ← addWithin? p.total part
    return ⟨total, p.inTime, [], true⟩

def readComponents? (convert : List Char → TimeUnit → Option Int) (s : List Char) : Option Int := do
  let p ← s.foldlM (Progress.step convert) ⟨0, false, [], false⟩
  if p.number.isEmpty && p.seen then some p.total else none

def readUnsigned? (convert : List Char → TimeUnit → Option Int) (s : List Char) : Option Int :=
  match s with
  | 'P' :: r | 'p' :: r => readComponents? convert r
  | _ => none

def readWith? (convert : List Char → TimeUnit → Option Int) (text : String) : Option Span :=
  match trim text.toList with
  | '-' :: r => (readUnsigned? convert r).map fun i => ⟨-i⟩
  | s => (readUnsigned? convert s).map Span.mk

def ofIso8601? (text : String) : Option Span := readWith? componentMilliseconds? text

end RunPlan.Span
