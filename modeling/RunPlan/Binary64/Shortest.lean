import RunPlan.Binary64.Basic

/-!
The shortest decimal that reads back as a given floating-point number, and the two ways to write
it: with an exponent for very large and very small magnitudes, or without one.
-/

set_option autoImplicit false

namespace RunPlan.Binary64

/-- The magnitudes that round to a given number: those between two ratios over one denominator,
the ends included or not. -/
structure Interval where
  low : Nat
  high : Nat
  center : Nat
  den : Nat
  closed : Bool

/-- The interval of the number `mantissa · 2 ^ exponent`. Below a power of two the neighbour is
only half as far away. -/
private def interval (mantissa : Nat) (exponent : Int) : Interval :=
  let p := powerOfTwo (exponent - 2)
  let below := if mantissa = Nat.pow 2 52 && minExponent < exponent then 1 else 2
  { low := (4 * mantissa - below) * p.1
    high := (4 * mantissa + 2) * p.1
    center := 4 * mantissa * p.1
    den := p.2
    closed := mantissa % 2 == 0 }

/-- Whether the decimal `digits · 10 ^ exponent` lies in the interval. -/
def Interval.holds (i : Interval) (digits : Nat) (exponent : Int) : Bool :=
  let a := digits * (if 0 ≤ exponent then Nat.pow 10 exponent.toNat else 1) * i.den
  let scale := if 0 ≤ exponent then 1 else Nat.pow 10 (-exponent).toNat
  if i.closed then i.low * scale ≤ a && a ≤ i.high * scale
  else i.low * scale < a && a < i.high * scale

/-- The distance of a decimal from the number itself, over the denominator that belongs to its
exponent. -/
def Interval.distance (i : Interval) (digits : Nat) (exponent : Int) : Nat :=
  let a := digits * (if 0 ≤ exponent then Nat.pow 10 exponent.toNat else 1) * i.den
  let b := i.center * (if 0 ≤ exponent then 1 else Nat.pow 10 (-exponent).toNat)
  if a ≤ b then b - a else a - b

private def Interval.floor (i : Interval) (exponent : Int) : Nat :=
  if 0 ≤ exponent then i.center / (i.den * Nat.pow 10 exponent.toNat)
  else i.center * Nat.pow 10 (-exponent).toNat / i.den

/-- The decimal on the grid of a power of ten that is nearest to the number, if one of the two
neighbours on that grid reads back; a tie goes to the even digits. -/
private def Interval.onGrid? (i : Interval) (exponent : Int) : Option Nat :=
  let lower := i.floor exponent
  let upper := lower + 1
  match i.holds lower exponent, i.holds upper exponent with
  | true, true =>
    let a := i.distance lower exponent
    let b := i.distance upper exponent
    some (if a < b || (a == b && lower % 2 == 0) then lower else upper)
  | true, false => some lower
  | false, true => some upper
  | false, false => none

/-- The largest power of ten that is not above the number; its exponent. -/
private def Interval.magnitude (i : Interval) : Int :=
  let estimate : Int := ((i.center.log2 : Int) - (i.den.log2 : Int)) * 30103 / 100000
  if i.floor (estimate + 1) ≠ 0 then estimate + 1
  else if i.floor estimate ≠ 0 then estimate
  else estimate - 1

/-- The shortest decimal that reads back, as digits and exponent; among those the nearest. -/
private def shortest (mantissa : Nat) (exponent : Int) : Nat × Int :=
  let i := interval mantissa exponent
  let top := i.magnitude
  match (List.range 17).findSome? fun (n : Nat) =>
      (i.onGrid? (top - n)).map fun d => (d, top - (n : Int)) with
  | some found => found
  | none => (i.floor (top - 17), top - 17)

/-- Digits without the zeros at the end, and the exponent that belongs to them. -/
private def normalDigits (digits : Nat) (exponent : Int) : List Char × Int :=
  let ds := Nat.toDigits 10 digits
  let kept := (ds.reverse.dropWhile (· == '0')).reverse
  (kept, exponent + ((ds.length : Int) - kept.length))

/-- Digits with a point in them, or with zeros around them, and no exponent. -/
private def positional (ds : List Char) (exponent : Int) : List Char × List Char :=
  let point := (ds.length : Int) + exponent
  if 0 ≤ exponent then (ds ++ List.replicate exponent.toNat '0', [])
  else if 0 < point then (ds.take point.toNat, ds.drop point.toNat)
  else (['0'], List.replicate (-point).toNat '0' ++ ds)

private def signText (negative : Bool) : List Char := if negative then ['-'] else []

/-- The text without an exponent; whole numbers have no point. -/
def plainText : Binary64 → String
  | .nan => "NaN"
  | .infinite s => if s then "-inf" else "inf"
  | .finite s m e =>
    if m = 0 then String.ofList (signText s ++ ['0'])
    else
      let (d, p) := shortest m e
      let (ds, p) := normalDigits d p
      let (whole, fraction) := positional ds p
      String.ofList (signText s ++ whole ++ if fraction.isEmpty then [] else '.' :: fraction)

/-- The text with a point, and with an exponent below `10 ^ -5` and from `10 ^ 16` on. -/
def pointText : Binary64 → String
  | .nan => ".nan"
  | .infinite s => if s then "-.inf" else ".inf"
  | .finite s m e =>
    if m = 0 then String.ofList (signText s ++ ['0', '.', '0'])
    else
      let (d, p) := shortest m e
      let (ds, p) := normalDigits d p
      let point := (ds.length : Int) + p
      let body :=
        if -5 < point && point ≤ 16 then
          let (whole, fraction) := positional ds p
          whole ++ '.' :: if fraction.isEmpty then ['0'] else fraction
        else
          ds.take 1 ++ (if ds.length = 1 then [] else '.' :: ds.drop 1) ++
            'e' :: (toString (point - 1)).toList
      String.ofList (signText s ++ body)

end RunPlan.Binary64
