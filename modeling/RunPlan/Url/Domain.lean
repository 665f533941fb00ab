import RunPlan.Text.Bytes
import RunPlan.Text.CaseFold
import RunPlan.Text.Split
import RunPlan.Url.Percent

/-!
Domain names in ASCII. Letters lose their case, and a label with characters outside ASCII is
written in Punycode: its ASCII characters first, then one number for each place and character that
has to be inserted.
-/

set_option autoImplicit false

namespace RunPlan.Url.Domain

open RunPlan.Text

def base : Nat := 36

private def firstCode : Nat := 0x80

def digit (n : Nat) : Char := if n < 26 then Char.ofNat (0x61 + n) else Char.ofNat (0x16 + n)

def digitValue? (c : Char) : Option Nat :=
  if c.isDigit then some (c.toNat - 0x16)
  else if 'a' ≤ c && c ≤ 'z' then some (c.toNat - 0x61)
  else if 'A' ≤ c && c ≤ 'Z' then some (c.toNat - 0x41)
  else none

private def threshold (bias place : Nat) : Nat := min 26 (max 1 (base * (place + 1) - bias))

private def adapt (delta count : Nat) (isFirst : Bool) : Nat :=
  let delta := if isFirst then delta / 700 else delta / 2
  let delta := delta + delta / count
  let rec halve : Nat → Nat → Nat → Nat × Nat
    | 0, d, k => (d, k)
    | fuel + 1, d, k => if d > 455 then halve fuel (d / 35) (k + base) else (d, k)
  let (d, k) := halve 64 delta 0
  k + 36 * d / (d + 38)

private def writeNumber (bias : Nat) : Nat → Nat → Nat → List Char
  | 0, _, _ => []
  | fuel + 1, place, n =>
    let t := threshold bias place
    if n < t then [digit n]
    else
      let rest := n - t
      digit (t + rest % (base - t)) :: writeNumber bias fuel (place + 1) (rest / (base - t))

private def readNumber? (bias : Nat) : Nat → Nat → List Char → Option (Nat × List Char)
  | _, _, [] => none
  | place, weight, c :: r =>
    (digitValue? c).bind fun d =>
      let t := threshold bias place
      if d < t then some (d * weight, r)
      else (readNumber? bias (place + 1) (weight * (base - t)) r).map fun (n, rest) =>
        (d * weight + n, rest)

/-- Writes the insertions of the characters from the code point `code` on. -/
private def writeFrom (label : List Nat) : Nat → Nat → Nat → Nat → Nat → List Char
  | 0, _, _, _, _ => []
  | fuel + 1, code, delta, bias, handled =>
    match (label.filter (code ≤ ·)).min? with
    | none => []
    | some next =>
      let delta := delta + (next - code) * (handled + 1)
      let (out, delta, bias, handled) := label.foldl
        (fun (out, delta, bias, handled) c =>
          if c < next then (out, delta + 1, bias, handled)
          else if c = next then
            (out ++ writeNumber bias 64 0 delta, 0,
              adapt delta (handled + 1) (handled == (label.filter (· < firstCode)).length),
              handled + 1)
          else (out, delta, bias, handled))
        ([], delta, bias, handled)
      out ++ writeFrom label fuel (next + 1) (delta + 1) bias handled

private def encodeLabel (label : List Char) : List Char :=
  let plain := label.filter (·.toNat < firstCode)
  if plain.length = label.length then label
  else "xn--".toList ++ plain ++ (if plain.isEmpty then [] else ['-']) ++
    writeFrom (label.map Char.toNat) label.length firstCode 0 72 plain.length

private def readInsertions? : Nat → List Char → List Char → Nat → Nat → Nat → Option (List Char)
  | 0, _, _, _, _, _ => none
  | _, [], label, _, _, _ => some label
  | fuel + 1, s, label, code, place, bias =>
    (readNumber? bias 0 1 s).bind fun (n, rest) =>
      let count := label.length + 1
      let code := code + (place + n) / count
      let at' := (place + n) % count
      if h : code.isValidChar then
        readInsertions? fuel rest (label.insertIdx at' (Char.ofNatAux code h)) code (at' + 1)
          (adapt n count (label.all (·.toNat < firstCode)))
      else none

private def decodeLabel? (s : List Char) : Option (List Char) :=
  let (plain, rest) := (cutLast '-' s).getD ([], s)
  readInsertions? (rest.length + 1) rest plain firstCode 0 72

/-- One case for all letters; the letter sigma at the end of words keeps its form. -/
def lower (c : Char) : Char := if c = 'ς' then c else foldCase c

/-- Characters that stand for nothing in a name: the soft hyphen, spaces and joiners without width,
and variation selectors. -/
private def isIgnored (c : Char) : Bool :=
  let n := c.toNat
  n = 0xAD || n = 0x200B || n = 0x2060 || n = 0xFEFF || (0xFE00 ≤ n && n ≤ 0xFE0F)

/-- What a character of a name stands for. Forms of full width stand for those of ASCII. -/
private def mapped (c : Char) : List Char :=
  let n := c.toNat
  if isIgnored c then []
  else if n = 0x3002 || n = 0xFF61 then ['.']
  else if 0xFF01 ≤ n && n ≤ 0xFF5E then [lower (Char.ofNat (n - 0xFEE0))]
  else [lower c]

/-- A marked label is right if it is the written form of a label that needs one and is not marked
itself. -/
private def isValidLabel (label : List Char) : Bool :=
  match "xn--".toList.isPrefixOf? label with
  | some rest =>
    match decodeLabel? rest with
    | some decoded =>
      decoded.any (firstCode ≤ ·.toNat) && encodeLabel decoded == label &&
        !"xn--".toList.isPrefixOf decoded &&
        decoded.all fun c => mapped c = [c] && (0x20 < c.toNat && c.toNat < 0x7F || 0xA0 ≤ c.toNat)
    | none => false
  | none => true

private def isForbidden (c : Char) : Bool :=
  isControl c || c = ' ' || c = replacement || "#%/:<>?@[\\]^|".toList.contains c

/-- Joiners, which would need letters around them that ask for one. -/
private def isJoiner (c : Char) : Bool := c.toNat = 0x200C || c.toNat = 0x200D

def toAscii? (name : List UInt8) : Option String := do
  let text := (← ofBytes? name).toList.flatMap mapped
  let labels := (split '.' text).map encodeLabel
  if labels.all isValidLabel && !(labels.any fun l => l.any isForbidden) && !text.any isJoiner then
    return String.ofList (join ['.'] labels)
  else none

end RunPlan.Url.Domain
