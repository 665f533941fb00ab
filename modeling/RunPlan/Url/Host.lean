import RunPlan.Url.Domain
import RunPlan.Text.Digits

/-!
Hosts: domain names and addresses of both versions of the internet protocol.
-/

set_option autoImplicit false

namespace RunPlan.Url

open RunPlan.Text

/-- What can be wrong with a URL. -/
inductive Fault
  | emptyHost
  | badDomain
  | badPortNumber
  | badIpv4
  | badIpv6
  | badHostChar
  | noBase
  deriving DecidableEq, Repr

def Fault.message : Fault → String
  | .emptyHost => "empty host"
  | .badDomain => "invalid international domain name"
  | .badPortNumber => "invalid port number"
  | .badIpv4 => "invalid IPv4 address"
  | .badIpv6 => "invalid IPv6 address"
  | .badHostChar => "invalid domain character"
  | .noBase => "relative URL without a base"

/-- A host. An address of version 4 is one number, one of version 6 eight. -/
inductive Host
  | domain (name : String)
  | ipv4 (address : Nat)
  | ipv6 (pieces : List Nat)
  deriving DecidableEq, Repr

namespace Host

/-- One part of an address of version 4: decimal, octal behind `0` or hexadecimal behind `0x`. -/
private def ipv4Part? (part : List Char) : Option Nat :=
  match part with
  | [] => none
  | ['0'] => some 0
  | '0' :: 'x' :: ds | '0' :: 'X' :: ds => if ds.isEmpty then some 0 else digitsValue? 16 ds
  | '0' :: ds => digitsValue? 8 ds
  | ds => digitsValue? 10 ds

/-- The parts of a dotted name; a point at the very end does not count. -/
private def dottedParts (name : List Char) : List (List Char) :=
  let parts := split '.' name
  if parts.getLast? = some [] then parts.dropLast else parts

/-- Whether the last part of a name is a number: then it has to be an address. -/
private def endsInNumber (name : List Char) : Bool :=
  match (dottedParts name).getLast? with
  | some last => !last.isEmpty && (last.all Char.isDigit || (ipv4Part? last).isSome)
  | none => false

/-- Reads an address of version 4. The last part fills all places that are left. -/
private def readIpv4 (name : List Char) : Except Fault Host :=
  let parts := dottedParts name
  match parts.mapM ipv4Part? with
  | none => .error .badIpv4
  | some numbers =>
    match numbers.getLast? with
    | none => .error .badIpv4
    | some last =>
      let front := numbers.dropLast
      if 4 < numbers.length || Nat.pow 256 (4 - front.length) ≤ last || front.any (255 < ·) then
        .error .badIpv4
      else .ok (.ipv4 (front.zipIdx.foldl (fun m (n, i) => m + n * Nat.pow 256 (3 - i)) last))

/-- The four numbers at the end of an address of version 6, none with a zero in front. -/
private def ipv4Tail? (s : List Char) : Option (List Nat) :=
  let parts := split '.' s
  if parts.length ≠ 4 then none
  else (parts.mapM fun p =>
    if p.isEmpty || 3 < p.length || (1 < p.length && p.head? = some '0') || !p.all Char.isDigit
    then none else (digitsValue? 10 p).filter (· ≤ 255)).map fun ns =>
      match ns with
      | [a, b, c, d] => [256 * a + b, 256 * c + d]
      | _ => []

/-- One part of an address of version 6; the last one may be an address of version 4. -/
private def ipv6Part? (isLast : Bool) (part : List Char) : Option (List Nat) :=
  if isLast && part.contains '.' then ipv4Tail? part
  else if 4 < part.length then none
  else (digitsValue? 16 part).map ([·])

private def ipv6Run? (last : Bool) (s : List Char) : Option (List Nat) :=
  if s.isEmpty then some []
  else
    let parts := split ':' s
    (parts.zipIdx.mapM fun (p, i) => ipv6Part? (last && i + 1 = parts.length) p).map List.flatten

/-- Reads an address of version 6, without its brackets. One `::` stands for a run of zeros. -/
private def readIpv6 (s : List Char) : Except Fault Host :=
  let pieces? : Option (List Nat) :=
    match cutAt [':', ':'] s with
    | some (before, after) => do
      let front ← ipv6Run? false before
      let back ← ipv6Run? true after
      let used := front.length + back.length
      if 7 < used then none else return front ++ List.replicate (8 - used) 0 ++ back
    | none => (ipv6Run? true s).filter (·.length = 8)
  match pieces? with
  | some pieces => .ok (.ipv6 pieces)
  | none => .error .badIpv6

private def readBracketed (s : List Char) : Except Fault Host :=
  if s.getLast? = some ']' then readIpv6 s.dropLast else .error .badIpv6

def read (s : List Char) : Except Fault Host :=
  match s with
  | '[' :: r => readBracketed r
  | s =>
    match Domain.toAscii? (decode s) with
    | none => .error .badDomain
    | some name =>
      if name.isEmpty then .error .emptyHost
      else if endsInNumber name.toList then readIpv4 name.toList
      else .ok (.domain name)

def readOpaque (s : List Char) : Except Fault Host :=
  match s with
  | '[' :: r => readBracketed r
  | s =>
    if s.any ("\x00\t\n\r #/:<>?@[\\]^|".toList.contains ·) then .error .badHostChar
    else .ok (.domain (String.ofList (encode isControl s)))

/-- The longest run of zeros, the first of equal ones: where it starts and how long it is. -/
private def zeroRun (pieces : List Nat) : Nat × Nat :=
  (List.range pieces.length).foldl
    (fun best i =>
      let n := ((pieces.drop i).takeWhile (· == 0)).length
      if best.2 < n then (i, n) else best)
    (0, 0)

private def hexPieces (pieces : List Nat) : List Char := join [':'] (pieces.map hexDigits)

def text : Host → String
  | .domain name => name
  | .ipv4 a => String.intercalate "."
    ([a / Nat.pow 256 3, a / Nat.pow 256 2 % 256, a / 256 % 256, a % 256].map toString)
  | .ipv6 pieces =>
    let (start, length) := zeroRun pieces
    let before := hexPieces (pieces.take start)
    let after := hexPieces (pieces.drop (start + length))
    String.ofList
      (['['] ++ (if length < 2 then hexPieces pieces else before ++ [':', ':'] ++ after) ++ [']'])

end Host

end RunPlan.Url
