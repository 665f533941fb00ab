import RunPlan.Regex.Basic
import RunPlan.Regex.Flags
import RunPlan.Regex.Property
import RunPlan.Text.Digits
import RunPlan.Text.Split

/-!
What a backslash and the characters behind it mean.
-/

set_option autoImplicit false

namespace RunPlan.Regex

open RunPlan.Text

/-- The smallest part of an expression. A character that was written by its number in two digits is
a byte where there is no Unicode. -/
inductive Atom
  | char (c : Char) (byte : Bool)
  | set (members : Ranges)
  | place (a : Assertion)
  deriving Repr

private def hexChar (digits : List Char) : Except Fault Char :=
  match digitsValue? 16 digits with
  | some n => if n.isValidChar then .ok (Char.ofNat n) else .error .badEscape
  | none => .error .badEscape

/-- Reads hexadecimal digits up to the closing brace. White space may stand between them if it
counts for nothing. -/
private def readBracedHex (f : Flags) (digits : List Char) (s : List Char) :
    Except Fault (Atom × List Char) :=
  match f.skip s with
  | [] => .error .badEscape
  | c :: rest =>
    if c = '\x7d' then do
      return (.char (← hexChar digits.reverse) false, rest)
    else if rest.length < s.length then readBracedHex f (c :: digits) rest
    else .error .badEscape
termination_by s.length

private def readHex (f : Flags) (short : Bool) (digits : List Char) :
    Nat → List Char → Except Fault (Atom × List Char)
  | 0, s => do return (.char (← hexChar digits.reverse) short, s)
  | n + 1, s =>
    match f.skip s with
    | [] => .error .badEscape
    | c :: rest => readHex f short (c :: digits) n rest

private def readCode (f : Flags) (count : Nat) (s : List Char) : Except Fault (Atom × List Char) :=
  match f.skip s with
  | '\x7b' :: rest => readBracedHex f [] rest
  | s => readHex f (count == 2) [] count s

/-- The set for the text between braces, and whether its complement is meant. -/
private def propertyOf (name : List Char) : Except Fault (Ranges × Bool) :=
  let found := match cutAt ['!', '='] name with
    | some (property, value) => (Property.valued? property value, true)
    | none => match cutAt [':'] name with
      | some (property, value) => (Property.valued? property value, false)
      | none => match cutAt ['='] name with
        | some (property, value) => (Property.valued? property value, false)
        | none => (Property.named? name, false)
  match found with
  | (some rs, negated) => .ok (rs, negated)
  | (none, _) => .error .unknownSet

private def Flags.squeeze (f : Flags) (s : List Char) : List Char :=
  if f.verbose then s.filter fun c => !isBlank c else s

private def readProperty (f : Flags) (negated : Bool) (s : List Char) :
    Except Fault (Atom × List Char) := do
  if !f.unicode then throw .notText
  let (name, rest) ← match f.skip s with
    | [] => .error .badEscape
    | '\\' :: _ => .error .unknownSet
    | '\x7b' :: rest =>
      match rest.dropWhile (· ≠ '\x7d') with
      | [] => .error .badEscape
      | _ :: behind => .ok (f.squeeze (rest.takeWhile (· ≠ '\x7d')), behind)
    | c :: rest => .ok ([c], rest)
  let (rs, other) ← propertyOf name
  return (.set (← f.close (negated != other) rs), rest)

private def shorthand (f : Flags) (kind : Char) : Ranges :=
  match kind, f.unicode with
  | 'd', true => Category.ranges .decimalNumber
  | 'd', false => [(0x30, 0x39)]
  | 's', true => blankRanges
  | 's', false => [(9, 13), (0x20, 0x20)]
  | _, true => wordRanges
  | _, false => [(0x30, 0x39), (0x41, 0x5A), (0x5F, 0x5F), (0x61, 0x7A)]

/-- The set of a shorthand. Its members are closed under change of case. -/
private def readShorthand (f : Flags) (kind : Char) (negated : Bool) : Except Fault Atom :=
  (({ f with ignoreCase := false }).close negated (shorthand f kind)).map .set

/-- Whether the name of a kind of word boundary can hold a character. -/
private def isBoundaryNameChar (c : Char) : Bool := c.isAlpha || c = '-'

/-- Reads the kind of a word boundary in braces. Braces with anything else are a repetition. -/
private def readBoundary (f : Flags) (s : List Char) : Except Fault (Atom × List Char) :=
  let ascii := !f.unicode
  match s with
  | '\x7b' :: inner =>
    match f.skip inner with
    | [] => .error .badEscape
    | c :: rest =>
      if isBoundaryNameChar c then
        let inside := f.squeeze (c :: rest)
        match inside.takeWhile isBoundaryNameChar, inside.dropWhile isBoundaryNameChar with
        | name, '\x7d' :: _ =>
          let behind := ((c :: rest).dropWhile (· ≠ '\x7d')).drop 1
          match String.ofList name with
          | "start" => .ok (.place (.wordStart ascii), behind)
          | "end" => .ok (.place (.wordEnd ascii), behind)
          | "start-half" => .ok (.place (.wordStartHalf ascii), behind)
          | "end-half" => .ok (.place (.wordEndHalf ascii), behind)
          | _ => .error .badEscape
        | _, _ => .error .badEscape
      else .ok (.place (.boundary ascii), s)
  | _ => .ok (.place (.boundary ascii), s)

private def isEscapable (c : Char) : Bool :=
  c.toNat ≤ 0x7F && !(c.isAlphanum || c = '<' || c = '>')

def readEscape (f : Flags) : List Char → Except Fault (Atom × List Char)
  | [] => .error .badEscape
  | c :: rest =>
    let ascii := !f.unicode
    if c.isDigit then .error .backReference
    else if isEscapable c then .ok (.char c false, rest)
    else match c with
      | 'x' => readCode f 2 rest
      | 'u' => readCode f 4 rest
      | 'U' => readCode f 8 rest
      | 'p' => readProperty f false rest
      | 'P' => readProperty f true rest
      | 'd' | 's' | 'w' => do return (← readShorthand f c false, rest)
      | 'D' | 'S' | 'W' => do return (← readShorthand f c.toLower true, rest)
      | 'a' => .ok (.char '\x07' false, rest)
      | 'f' => .ok (.char '\x0c' false, rest)
      | 't' => .ok (.char '\t' false, rest)
      | 'n' => .ok (.char '\n' false, rest)
      | 'r' => .ok (.char '\r' false, rest)
      | 'v' => .ok (.char '\x0b' false, rest)
      | 'A' => .ok (.place .textStart, rest)
      | 'z' => .ok (.place .textEnd, rest)
      | 'b' => readBoundary f rest
      | 'B' => .ok (.place (.noBoundary ascii), rest)
      | '<' => .ok (.place (.wordStart ascii), rest)
      | '>' => .ok (.place (.wordEnd ascii), rest)
      | _ => .error .badEscape

end RunPlan.Regex
