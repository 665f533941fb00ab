import RunPlan.Text.Bytes
import RunPlan.Text.Digits

/-!
Characters written as `%` and two hexadecimal digits for each of their bytes, and which characters
of a URL are written so. Outside ASCII all are.
-/

set_option autoImplicit false

namespace RunPlan.Url

open RunPlan.Text

def isControl (c : Char) : Bool := c.toNat < 0x20 || c.toNat = 0x7F

def inFragmentSet (c : Char) : Bool := isControl c || [' ', '"', '<', '>', '\x60'].contains c

def inPathSet (c : Char) : Bool := inFragmentSet c || ['#', '?', '\x7b', '\x7d'].contains c

def inUserSet (c : Char) : Bool :=
  inPathSet c || ['/', ':', ';', '=', '@', '[', '\\', ']', '^', '|'].contains c

/-- Characters encoded in a query; schemes of the web also encode `'`. -/
def inQuerySet (special : Bool) (c : Char) : Bool :=
  isControl c || [' ', '"', '#', '<', '>'].contains c || (special && c = '\'')

def encodeByte (b : UInt8) : List Char :=
  ['%', upperHexDigit (b.toNat / 16), upperHexDigit (b.toNat % 16)]

def encodeChar (inSet : Char → Bool) (c : Char) : List Char :=
  if 0x80 ≤ c.toNat || inSet c then (bytesOf [c]).flatMap encodeByte else [c]

def encode (inSet : Char → Bool) (s : List Char) : List Char := s.flatMap (encodeChar inSet)

/-- Decodes. A `%` without two digits after it stands for itself. -/
def decode (s : List Char) : List UInt8 :=
  match s with
  | [] => []
  | '%' :: a :: b :: r =>
    match hexValue? a, hexValue? b with
    | some a, some b => UInt8.ofNat (16 * a + b) :: decode r
    | _, _ => bytesOf ['%'] ++ decode (a :: b :: r)
  | c :: r => bytesOf [c] ++ decode r
termination_by s.length

end RunPlan.Url
