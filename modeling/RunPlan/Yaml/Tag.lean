import RunPlan.Yaml.Token
import RunPlan.Yaml.Char
import RunPlan.Text.Digits

/-!
Names inside a document: anchors, tags and the directives at its top.
-/

set_option autoImplicit false

namespace RunPlan.Yaml

private def charBytes (c : Char) : List UInt8 := (String.singleton c).toUTF8.toList

/-- The name of an anchor, after the character that introduces it. Only white space and some
punctuation may follow. -/
def readAnchorName (c : Cursor) : Option (String × Cursor) :=
  let (name, next) := c.span isWordChar
  if !name.isEmpty && (Cursor.gapOrEnd next.peek? ||
      next.peek?.any ['?', ':', ',', ']', '}', '%', '@', '\x60'].contains) then
    some (String.ofList name, next)
  else none

namespace Tag

/-- The characters of a tag, other than escapes; some only where the tag stands between `<` and
`>`. -/
private def isUriChar (verbatim : Bool) (c : Char) : Bool :=
  isWordChar c || ";/?:@&=+$.!~*'()".toList.contains c || (verbatim && ",[]".toList.contains c)

private def escapedByte? : List Char → Option (Nat × List Char)
  | '%' :: a :: b :: r => do
    let a ← Text.hexValue? a
    let b ← Text.hexValue? b
    return (16 * a + b, r)
  | _ => none

private def width? (first : Nat) : Option Nat :=
  if first < 0x80 then some 1
  else if 0xC0 ≤ first && first < 0xE0 then some 2
  else if 0xE0 ≤ first && first < 0xF0 then some 3
  else if 0xF0 ≤ first && first < 0xF8 then some 4
  else none

private def continuation? : Nat → List Char → Option (List UInt8 × List Char)
  | 0, s => some ([], s)
  | n + 1, s => do
    let (b, s) ← escapedByte? s
    if b < 0x80 || 0xC0 ≤ b then none
    else
      let (bs, s) ← continuation? n s
      return (UInt8.ofNat b :: bs, s)

def escape? (s : List Char) : Option (List UInt8 × List Char) := do
  let (b, s) ← escapedByte? s
  let width ← width? b
  let (bs, s) ← continuation? (width - 1) s
  return (UInt8.ofNat b :: bs, s)

private def readUri (verbatim : Bool) : Nat → List Char → Option (List UInt8 × List Char)
  | 0, _ => none
  | _ + 1, [] => some ([], [])
  | fuel + 1, c :: r =>
    if c = '%' then do
      let (bs, r) ← escape? (c :: r)
      let (more, rest) ← readUri verbatim fuel r
      return (bs ++ more, rest)
    else if isUriChar verbatim c then do
      let (more, rest) ← readUri verbatim fuel r
      return (charBytes c ++ more, rest)
    else some ([], c :: r)

/-- The text of a tag behind the part `start` of it that is read already; it must not be empty. -/
private def readSuffix (verbatim : Bool) (start : List Char) (allowEmpty : Bool) (c : Cursor) :
    Option (List UInt8 × Cursor) := do
  let (bytes, rest) ← readUri verbatim (c.rest.length + 1) c.rest
  if !allowEmpty && rest.length = c.rest.length then none
  else return (start.flatMap charBytes ++ bytes, c.skip (c.rest.length - rest.length))

/-- A handle: `!`, word characters, and `!` again if it stands there. Tells whether it does. -/
private def readHandle (c : Cursor) : Option (List Char × Bool × Cursor) :=
  if c.peek? = some '!' then
    let (name, next) := (c.skip 1).span isWordChar
    if next.peek? = some '!' then some (name, true, next.skip 1) else some (name, false, next)
  else none

private def handleText (name : List Char) : String := String.ofList ('!' :: name ++ ['!'])

/-- A tag from its `!` on, as handle and suffix. The lone `!` has no handle. -/
def read (inFlow : Bool) (c : Cursor) : Option (Token × Cursor) := do
  let (tag, next) ←
    if c.peekSecond? = some '<' then do
      let (bytes, next) ← readSuffix true [] false (c.skip 2)
      if next.peek? = some '>' then pure (Token.tag "" bytes, next.skip 1) else none
    else do
      let (name, closed, next) ← readHandle c
      if closed then
        let (bytes, next) ← readSuffix false [] false next
        pure (Token.tag (handleText name) bytes, next)
      else
        let (bytes, next) ← readSuffix false name true next
        pure (if bytes.isEmpty then Token.tag "" (charBytes '!') else Token.tag "!" bytes, next)
  if Cursor.gapOrEnd next.peek? || (inFlow && next.peek? = some ',') then return (tag, next)
  else none

end Tag

namespace Directive

def readNumber (c : Cursor) : Option (Nat × Cursor) :=
  let (ds, next) := c.span Char.isDigit
  if ds.isEmpty || 9 < ds.length then none
  else some (ds.foldl (fun n d => 10 * n + (d.toNat - '0'.toNat)) 0, next)

/-- The version of the language: two numbers with a point between them. -/
private def readVersion (c : Cursor) : Option (Token × Cursor) := do
  let (major, c) ← readNumber c
  if c.peek? = some '.' then
    let (minor, c) ← readNumber (c.skip 1)
    return (.version major minor, c)
  else none

private def readTagHandle (c : Cursor) : Option (Token × Cursor) := do
  let (name, closed, c) ← Tag.readHandle c
  if !closed && !name.isEmpty then none
  else if !c.peek?.any isBlank then none
  else
    let (bytes, c) ← Tag.readSuffix true [] false (c.skipWhile isBlank)
    if Cursor.gapOrEnd c.peek? then
      return (.tagHandle (if closed then Tag.handleText name else "!") bytes, c)
    else none

/-- A directive from its `%` on. Nothing but a comment may follow in its line. -/
def read (c : Cursor) : Option (Token × Cursor) := do
  let (name, next) := (c.skip 1).span isWordChar
  if name.isEmpty || !Cursor.gapOrEnd next.peek? then none
  else
    let body := next.skipWhile isBlank
    let (token, c) ← match String.ofList name with
      | "YAML" => readVersion body
      | "TAG" => readTagHandle body
      | _ => none
    let c := c.skipWhile isBlank
    let c := if c.peek? = some '#' then c.skipWhile fun d => !isBreak d else c
    if !Cursor.breakOrEnd c.peek? then none
    else match c.lineEnd? with
      | some (_, next) => return (token, next)
      | none => return (token, c)

end Directive

end RunPlan.Yaml
