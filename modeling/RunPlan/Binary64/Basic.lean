/-!
Floating-point numbers of 64 bits as exact values: a finite one is `± mantissa · 2 ^ exponent` with
a mantissa below `2 ^ 53` and an exponent from -1074 to 971. Every operation rounds its exact
result to the nearest such number, a tie to the even mantissa.
-/

set_option autoImplicit false

namespace RunPlan

/-- A floating-point number of 64 bits. -/
inductive Binary64
  | nan
  | infinite (negative : Bool)
  | finite (negative : Bool) (mantissa : Nat) (exponent : Int)
  deriving DecidableEq, Repr

namespace Binary64

def minExponent : Int := -1074

private def maxExponent : Int := 971

def zero (negative : Bool) : Binary64 := .finite negative 0 minExponent

def powerOfTwo (e : Int) : Nat × Nat :=
  if 0 ≤ e then (Nat.pow 2 e.toNat, 1) else (1, Nat.pow 2 (-e).toNat)

/-- The quotient rounded to the nearest natural number, a tie to the even one. -/
private def divideToEven (num den : Nat) : Nat :=
  let q := num / den
  let r := num % den
  if den < 2 * r || (2 * r == den && q % 2 == 1) then q + 1 else q

private def ofRatio (negative : Bool) (num den : Nat) : Binary64 :=
  if num = 0 then zero negative
  else
    let estimate : Int := (num.log2 : Int) - (den.log2 : Int) - 53
    let quotient (e : Int) : Nat × Nat := (num * (powerOfTwo e).2, den * (powerOfTwo e).1)
    let start := max estimate minExponent
    let e := if Nat.pow 2 53 ≤ (quotient start).1 / (quotient start).2 then start + 1 else start
    let m := divideToEven (quotient e).1 (quotient e).2
    let (m, e) := if m = Nat.pow 2 53 then (Nat.pow 2 52, e + 1) else (m, e)
    if maxExponent < e then .infinite negative else .finite negative m e

def ofNat (negative : Bool) (n : Nat) : Binary64 := ofRatio negative n 1

/-- The number of decimal digits; zero has one. -/
private def digitCount (n : Nat) : Nat := (Nat.toDigits 10 n).length

/-- The decimal number `digits · 10 ^ exponent`, rounded. Magnitudes beyond both ends of the range
are settled before any power is computed. -/
def ofDecimal (negative : Bool) (digits : Nat) (exponent : Int) : Binary64 :=
  if digits = 0 then zero negative
  else
    let top := (digitCount digits : Int) + exponent
    if 310 < top then .infinite negative
    else if top < -330 then zero negative
    else if 0 ≤ exponent then ofRatio negative (digits * Nat.pow 10 exponent.toNat) 1
    else ofRatio negative digits (Nat.pow 10 (-exponent).toNat)

def isFinite : Binary64 → Bool
  | .finite .. => true
  | _ => false

def mul : Binary64 → Binary64 → Binary64
  | .finite s m e, .finite s' m' e' =>
    let p := powerOfTwo (e + e')
    ofRatio (s != s') (m * m' * p.1) p.2
  | .nan, _ => .nan
  | _, .nan => .nan
  | .infinite s, .infinite s' => .infinite (s != s')
  | .infinite s, .finite s' m _ => if m = 0 then .nan else .infinite (s != s')
  | .finite s m _, .infinite s' => if m = 0 then .nan else .infinite (s != s')

def div : Binary64 → Binary64 → Binary64
  | .finite s m e, .finite s' m' e' =>
    if m' = 0 then (if m = 0 then .nan else .infinite (s != s'))
    else
      let p := powerOfTwo (e - e')
      ofRatio (s != s') (m * p.1) (m' * p.2)
  | .nan, _ => .nan
  | _, .nan => .nan
  | .infinite _, .infinite _ => .nan
  | .infinite s, .finite s' _ _ => .infinite (s != s')
  | .finite s _ _, .infinite s' => zero (s != s')

/-- Equality of numbers: the zeros are equal, and so is a number that is none to itself. -/
def same : Binary64 → Binary64 → Bool
  | .finite s m e, .finite s' m' e' => (m == 0 && m' == 0) || (s == s' && m == m' && e == e')
  | x, y => x == y

def toInt? : Binary64 → Option Int
  | .finite s m e =>
    let p := powerOfTwo e
    let n := (2 * m * p.1 + p.2) / (2 * p.2)
    some (if s then -(n : Int) else n)
  | _ => none

end Binary64

end RunPlan
