import RunPlan.Json.Basic
import RunPlan.Text.Digits

/-!
Reading JSON. A number with a fraction, an exponent or too many digits is read from its first
digits that fit 64 bits, scaled by one power of ten.
-/

set_option autoImplicit false

namespace RunPlan.Json

open RunPlan.Text

def maxDepth : Nat := 127

def skipBlank (s : List Char) : List Char :=
  s.dropWhile fun c => c = ' ' || c = '\n' || c = '\t' || c = '\r'

def codeUnit? (s : List Char) : Option (Nat × List Char) :=
  if s.length < 4 then none else (digitsValue? 16 (s.take 4)).map fun n => (n, s.drop 4)

/-- The character of an escape by number; two halves make one character, and a half alone none. -/
def numbered? (s : List Char) : Option (Char × List Char) := do
  let (n, rest) ← codeUnit? s
  if 0xD800 ≤ n && n < 0xDC00 then
    match rest with
    | '\\' :: 'u' :: rest => do
      let (m, rest) ← codeUnit? rest
      if 0xDC00 ≤ m && m < 0xE000 then
        return (Char.ofNat (0x10000 + 0x400 * (n - 0xD800) + (m - 0xDC00)), rest)
      else none
    | _ => none
  else if h : n.isValidChar then return (Char.ofNatAux n h, rest)
  else none

def escape? : List Char → Option (Char × List Char)
  | '"' :: r => some ('"', r)
  | '\\' :: r => some ('\\', r)
  | '/' :: r => some ('/', r)
  | 'b' :: r => some ('\x08', r)
  | 'f' :: r => some ('\x0c', r)
  | 'n' :: r => some ('\n', r)
  | 'r' :: r => some ('\r', r)
  | 't' :: r => some ('\t', r)
  | 'u' :: r => numbered? r
  | _ => none

/-- Reads a string behind its opening quote; `done` holds what was read, the last first. -/
def readString : Nat → List Char → List Char → Option (String × List Char)
  | 0, _, _ => none
  | _, _, [] => none
  | fuel + 1, done, c :: r =>
    if c = '"' then some (String.ofList done.reverse, r)
    else if c = '\\' then do
      let (e, r) ← escape? r
      readString fuel (e :: done) r
    else if c.toNat < 0x20 then none
    else readString fuel (c :: done) r

private def maxWord : Nat := 18446744073709551615

/-- Takes digits for as long as the number fits 64 bits: the number and how many were taken. -/
def takeDigits (n count : Nat) : List Char → Nat × Nat × List Char
  | [] => (n, count, [])
  | c :: r =>
    match digitValue? 10 c with
    | some d =>
      if maxWord < 10 * n + d then (n, count, c :: r) else takeDigits (10 * n + d) (count + 1) r
    | none => (n, count, c :: r)

/-- A number scaled by a power of ten: multiplied or divided once, and only very small ones more
often. Infinite results are refused. -/
private def scaled? (n : Nat) : Nat → Binary64 → Int → Option Binary64
  | 0, x, _ => some x
  | fuel + 1, x, exponent =>
    if exponent.natAbs ≤ 308 then
      let power := Binary64.ofNat false (Nat.pow 10 exponent.natAbs)
      if 0 ≤ exponent then (x.mul power |> some).filter Binary64.isFinite
      else some (x.div power)
    else if n = 0 then some x
    else if 0 ≤ exponent then none
    else
      let next := x.div (.ofNat false (Nat.pow 10 308))
      if next = Binary64.zero false then some next else scaled? n fuel next (exponent + 308)

private def signed (negative : Bool) : Binary64 → Binary64
  | .finite _ m e => .finite negative m e
  | .infinite _ => .infinite negative
  | .nan => .nan

private def float? (negative : Bool) (n : Nat) (exponent : Int) : Option Number :=
  (scaled? n (exponent.natAbs / 308 + 2) (.ofNat false n) exponent).map fun x =>
    .float (signed negative x)

private def readExponent (s : List Char) : Option (Int × List Char) :=
  let (negative, s) := match s with
    | '+' :: r => (false, r)
    | '-' :: r => (true, r)
    | r => (false, r)
  let ds := s.takeWhile Char.isDigit
  (digitsValue? 10 ds).map fun n => (if negative then -(n : Int) else n, s.drop ds.length)

private def readRest (negative : Bool) (n : Nat) (exponent : Int) (s : List Char) :
    Option (Number × List Char) := do
  let (n, exponent, s) ← match s with
    | '.' :: r =>
      if r.head?.any Char.isDigit then
        let (n, count, r) := takeDigits n 0 r
        some (n, exponent - count, r.dropWhile Char.isDigit)
      else none
    | r => some (n, exponent, r)
  let (exponent, s) ← match s with
    | 'e' :: r | 'E' :: r => (readExponent r).map fun (e, r) => (exponent + e, r)
    | r => some (exponent, r)
  (float? negative n exponent).map fun x => (x, s)

def readNumber (negative : Bool) (s : List Char) : Option (Number × List Char) :=
  let (n, count, rest) := takeDigits 0 0 s
  if count = 0 || (s.head? = some '0' && 1 < (s.takeWhile Char.isDigit).length) then none
  else
    let more := rest.takeWhile Char.isDigit
    let after := rest.drop more.length
    let plain := more.isEmpty && !after.head?.any (['.', 'e', 'E'].contains ·)
    if plain && !negative then some (.int n, after)
    else if plain && 0 < n && n ≤ 9223372036854775808 then some (.int (-(n : Int)), after)
    else readRest negative n more.length after

private def word? (w : String) (s : List Char) : Option (List Char) := w.toList.isPrefixOf? s

mutual

/-- Reads a value, in which arrays and objects are nested at most so deep. -/
def readValue : Nat → Nat → List Char → Option (Json × List Char)
  | 0, _, _ => none
  | fuel + 1, depth, s =>
    match skipBlank s with
    | 'n' :: r => (word? "ull" r).map fun rest => (.null, rest)
    | 't' :: r => (word? "rue" r).map fun rest => (.bool true, rest)
    | 'f' :: r => (word? "alse" r).map fun rest => (.bool false, rest)
    | '"' :: r => (readString (r.length + 1) [] r).map fun (s, rest) => (.string s, rest)
    | '-' :: r => (readNumber true r).map fun (n, rest) => (.number n, rest)
    | '[' :: r =>
      match depth with
      | 0 => none
      | depth + 1 =>
        match skipBlank r with
        | ']' :: rest => some (.array [], rest)
        | r => (readItems fuel depth r).map fun (items, rest) => (.array items, rest)
    | '\x7b' :: r =>
      match depth with
      | 0 => none
      | depth + 1 =>
        match skipBlank r with
        | '\x7d' :: rest => some (.object [], rest)
        | r => (readMembers fuel depth r).map fun (members, rest) => (.object members, rest)
    | r => (readNumber false r).map fun (n, rest) => (.number n, rest)

def readItems : Nat → Nat → List Char → Option (List Json × List Char)
  | 0, _, _ => none
  | fuel + 1, depth, s => do
    let (item, rest) ← readValue fuel depth s
    match skipBlank rest with
    | ',' :: r => do
      let (items, rest) ← readItems fuel depth r
      return (item :: items, rest)
    | ']' :: r => return ([item], r)
    | _ => none

private def readMembers : Nat → Nat → List Char → Option (List (String × Json) × List Char)
  | 0, _, _ => none
  | fuel + 1, depth, s => do
    match skipBlank s with
    | '"' :: r => do
      let (key, rest) ← readString (r.length + 1) [] r
      match skipBlank rest with
      | ':' :: r => do
        let (value, rest) ← readValue fuel depth r
        match skipBlank rest with
        | ',' :: r => do
          let (members, rest) ← readMembers fuel depth r
          return ((key, value) :: members, rest)
        | '\x7d' :: r => return ([(key, value)], r)
        | _ => none
      | _ => none
    | _ => none

end

def parse? (text : String) : Option Json := do
  let (value, rest) ← readValue (2 * text.length + 2) maxDepth text.toList
  if (skipBlank rest).isEmpty then return value else none

end RunPlan.Json
