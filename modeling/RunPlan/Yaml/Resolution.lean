import RunPlan.Yaml.Value
import RunPlan.Binary64.Decimal
import RunPlan.Text.Digits

/-!
What a scalar stands for. A plain one may be a null, a truth value, an integer or a floating-point
number; what is none of them is text.
-/

set_option autoImplicit false

namespace RunPlan.Yaml

open RunPlan.Text

private def isNullText (s : String) : Bool := ["null", "Null", "NULL", "~"].contains s

private def boolText? (s : String) : Option Bool :=
  if ["true", "True", "TRUE"].contains s then some true
  else if ["false", "False", "FALSE"].contains s then some false
  else none

/-- Decimal digits with a zero too many in front: not the form of a number. -/
private def hasLeadingZero (ds : List Char) : Bool :=
  ds.length > 1 && ds.head? == some '0' && ds.all Char.isDigit

/-- Reads digits after their sign: hexadecimal, octal and binary ones carry a mark. -/
private def unsignedText? (ds : List Char) : Option Nat :=
  match ds with
  | '0' :: 'x' :: r => digitsValue? 16 r
  | '0' :: 'o' :: r => digitsValue? 8 r
  | '0' :: 'b' :: r => digitsValue? 2 r
  | ds => if hasLeadingZero ds then none else digitsValue? 10 ds

private def integerText? (s : List Char) : Option Int :=
  match s with
  | '-' :: ds => (unsignedText? ds).map fun n => -(n : Int)
  | '+' :: ds => (unsignedText? ds).map fun n => (n : Int)
  | ds => (unsignedText? ds).map fun n => (n : Int)

private def unsigned (s : List Char) : List Char :=
  match s with
  | '-' :: ds | '+' :: ds => ds
  | ds => ds

/-- Reads a floating-point number. Finite ones too large for the format are not numbers. -/
private def floatText? (s : String) : Option Binary64 :=
  if [".inf", ".Inf", ".INF", "+.inf", "+.Inf", "+.INF"].contains s then some (.infinite false)
  else if ["-.inf", "-.Inf", "-.INF"].contains s then some (.infinite true)
  else if [".nan", ".NaN", ".NAN"].contains s then some .nan
  else ((Decimal.read? s.toList).map Decimal.toBinary64).filter Binary64.isFinite

/-- What an integer becomes: one of 64 bits is a number, one of up to 128 bits is refused, and a
larger one is not an integer. -/
inductive IntegerForm
  | fits (i : Int)
  | refused
  | tooLarge
  deriving DecidableEq, Repr

def IntegerForm.of (i : Int) : IntegerForm :=
  if -Int.ofNat (Nat.pow 2 63) ≤ i && i < Int.ofNat (Nat.pow 2 64) then .fits i
  else if -Int.ofNat (Nat.pow 2 127) ≤ i && i < Int.ofNat (Nat.pow 2 128) then .refused
  else .tooLarge

private def integerForm? (s : String) :
    Option IntegerForm := (integerText? s.toList).map IntegerForm.of

/-- The value of a plain scalar; none if it is an integer that is refused. -/
def plainValue? (s : String) : Option Value :=
  if s.isEmpty || isNullText s then some .null
  else match boolText? s, integerForm? s with
    | some b, _ => some (.bool b)
    | none, some (.fits i) => some (.number (.int i))
    | none, some .refused => none
    | none, _ =>
      if hasLeadingZero (unsigned s.toList) then some (.string s)
      else match floatText? s with
        | some x => some (.number (.float x))
        | none => some (.string s)

private def coreTag (name : String) : List UInt8 := ("tag:yaml.org,2002:" ++ name).toUTF8.toList

/-- The value of a scalar with a tag. A tag that names a kind of value must be right, another one
of that family makes the scalar text. -/
def taggedScalar? (tag : List UInt8) (s : String) (plain : Bool) : Option Value :=
  if tag = coreTag "bool" then (boolText? s).map .bool
  else if tag = coreTag "int" then
    match integerForm? s with
    | some (.fits i) => some (.number (.int i))
    | _ => none
  else if tag = coreTag "float" then (floatText? s).map fun x => .number (.float x)
  else if tag = coreTag "null" then if isNullText s then some .null else none
  else if tag.head? = some 0x21 && plain then plainValue? s
  else some (.string s)

def scalarValue? (tag? : Option (List UInt8)) (s : String) (plain : Bool) : Option Value :=
  match tag? with
  | some tag => taggedScalar? tag s plain
  | none => if plain then plainValue? s else some (.string s)

def localTag? (tag : List UInt8) : Option String :=
  match tag with
  | [0x21] => some "!"
  | 0x21 :: bytes => String.fromUTF8? ⟨bytes.toArray⟩
  | _ => none

end RunPlan.Yaml
