import RunPlan.Toml.Basic
import RunPlan.Toml.Quoted
import RunPlan.Binary64.Decimal

/-!
Numbers, dates and times of a TOML document.
-/

set_option autoImplicit false

namespace RunPlan.Toml

open RunPlan.Text

def takeDigits (base : Nat) (s : List Char) : Option (List Char × List Char) :=
  match s with
  | c :: r => if (digitValue? base c).isSome then some (go [c] r) else none
  | [] => none
where
  /-- Takes further digits; those taken stand in reverse. -/
  go (done : List Char) : List Char → List Char × List Char
    | '_' :: c :: r =>
      if (digitValue? base c).isSome then go (c :: done) r else (done.reverse, '_' :: c :: r)
    | c :: r => if (digitValue? base c).isSome then go (c :: done) r else (done.reverse, c :: r)
    | [] => (done.reverse, [])

def takeInteger (s : List Char) : Option (Bool × List Char × List Char) :=
  let (negative, r) := match s with
    | '+' :: r => (false, r)
    | '-' :: r => (true, r)
    | r => (false, r)
  match r with
  | '0' :: r => some (negative, ['0'], r)
  | r => (takeDigits 10 r).map fun (ds, r) => (negative, ds, r)

def integer? (i : Int) : Option Toml :=
  if minInteger ≤ i && i ≤ maxInteger then some (.integer i) else none

def readInteger (s : List Char) : Option (Toml × List Char) :=
  let inBase (base : Nat) (r : List Char) : Option (Toml × List Char) := do
    let (ds, r) ← takeDigits base r
    let n ← digitsValue? base ds
    return (← integer? n, r)
  match s with
  | '0' :: 'x' :: r => inBase 16 r
  | '0' :: 'o' :: r => inBase 8 r
  | '0' :: 'b' :: r => inBase 2 r
  | s => do
    let (negative, ds, r) ← takeInteger s
    let n ← digitsValue? 10 ds
    return (← integer? (if negative then -(n : Int) else n), r)

private def takeExponent (s : List Char) : Option (List Char × List Char) :=
  match s with
  | e :: r =>
    if e = 'e' || e = 'E' then
      match r with
      | '-' :: r => (takeDigits 10 r).map fun (ds, r) => ('e' :: '-' :: ds, r)
      | '+' :: r => (takeDigits 10 r).map fun (ds, r) => ('e' :: ds, r)
      | r => (takeDigits 10 r).map fun (ds, r) => ('e' :: ds, r)
    else none
  | [] => none

/-- Reads a number with a fraction or an exponent. One too large is refused. -/
def readDecimal (s : List Char) : Option (Toml × List Char) := do
  let (negative, whole, r) ← takeInteger s
  let (text, r) ← match r with
    | '.' :: r => do
      let (fraction, r) ← takeDigits 10 r
      let text := whole ++ '.' :: fraction
      match takeExponent r with
      | some (exponent, r) => pure (text ++ exponent, r)
      | none => pure (text, r)
    | r => (takeExponent r).map fun (exponent, r) => (whole ++ exponent, r)
  let d ← Decimal.read? ((if negative then ['-'] else []) ++ text)
  if d.toBinary64 = .infinite false then none else return (.float d.toBinary64, r)

def readSpecial (s : List Char) : Option (Toml × List Char) :=
  let (negative, r) := match s with
    | '+' :: r => (false, r)
    | '-' :: r => (true, r)
    | r => (false, r)
  match r with
  | 'i' :: 'n' :: 'f' :: r => some (.float (.infinite negative), r)
  | 'n' :: 'a' :: 'n' :: r => some (.float .nan, r)
  | _ => none

def takeNumber (width lo hi : Nat) (s : List Char) : Option (Nat × List Char) :=
  let ds := s.take width
  if ds.length = width && ds.all Char.isDigit then
    ((digitsValue? 10 ds).filter fun n => lo ≤ n && n ≤ hi).map fun n => (n, s.drop width)
  else none

def behind? (c : Char) : List Char → Option (List Char)
  | d :: r => if d = c then some r else none
  | [] => none

private def daysIn (year month : Nat) : Nat :=
  if month = 2 then
    if (year % 4 = 0 && year % 100 ≠ 0) || year % 400 = 0 then 29 else 28
  else if [4, 6, 9, 11].contains month then 30
  else 31

def takeDate (s : List Char) : Option (List Char) := do
  let (year, r) ← takeNumber 4 0 9999 s
  let (month, r) ← takeNumber 2 1 12 (← behind? '-' r)
  let (_, r) ← takeNumber 2 1 (daysIn year month) (← behind? '-' r)
  return r

def takeTime (s : List Char) : Option (List Char) := do
  let (_, r) ← takeNumber 2 0 23 s
  let (_, r) ← takeNumber 2 0 59 (← behind? ':' r)
  let (_, r) ← takeNumber 2 0 60 (← behind? ':' r)
  match r with
  | '.' :: f => if f.head?.any Char.isDigit then return f.dropWhile Char.isDigit else none
  | r => return r

private def takeOffset (s : List Char) : Option (List Char) :=
  match s with
  | c :: r =>
    if c = 'Z' || c = 'z' then some r
    else if c = '+' || c = '-' then do
      let (_, r) ← takeNumber 2 0 23 r
      let (_, r) ← takeNumber 2 0 59 (← behind? ':' r)
      return r
    else none
  | [] => none

def readDatetime (s : List Char) : Option (Toml × List Char) :=
  match takeDate s with
  | some r =>
    let time? : Option (List Char) := match r with
      | c :: t => if c = 'T' || c = 't' || c = ' ' then takeTime t else none
      | [] => none
    match time? with
    | some t => some (.datetime, (takeOffset t).getD t)
    | none => some (.datetime, r)
  | none => (takeTime s).map fun r => (.datetime, r)

def readScalar (s : List Char) : Option (Toml × List Char) :=
  match s with
  | 't' :: 'r' :: 'u' :: 'e' :: r => some (.boolean true, r)
  | 'f' :: 'a' :: 'l' :: 's' :: 'e' :: r => some (.boolean false, r)
  | s => (((readDatetime s).or (readDecimal s)).or (readSpecial s)).or (readInteger s)

end RunPlan.Toml
