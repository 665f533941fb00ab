/-!
The character classes of YAML text, and the place of a character in it.
-/

set_option autoImplicit false

namespace RunPlan.Yaml

def isAllowed (c : Char) : Bool :=
  let n := c.toNat
  n == 0x09 || n == 0x0A || n == 0x0D || (0x20 ≤ n && n ≤ 0x7E) || n == 0x85 ||
    (0xA0 ≤ n && n ≤ 0xFFFD) || 0x10000 ≤ n

def isBlank (c : Char) : Bool := c == ' ' || c == '\t'

def isBreak (c : Char) : Bool :=
  c == '\n' || c == '\r' || c == '\u0085' || c == '\u2028' || c == '\u2029'

def isGap (c : Char) : Bool := isBlank c || isBreak c

def isWordChar (c : Char) : Bool := c.isAlphanum || c == '_' || c == '-'

/-- The mark that may stand at the start of a document to tell its byte order. -/
def byteOrderMark : Char := '\uFEFF'

/-- A place in a document: characters before it, lines before it, and characters before it in its
line. -/
structure Mark where
  index : Nat
  line : Nat
  column : Nat
  deriving DecidableEq, Repr

def Mark.forward (m : Mark) (n : Nat) : Mark :=
  { m with index := m.index + n, column := m.column + n }

/-- The start of the next line, after a line end of `n` characters. -/
def Mark.nextLine (m : Mark) (n : Nat) : Mark := ⟨m.index + n, m.line + 1, 0⟩

/-- The rest of a document and the place where it starts. -/
structure Cursor where
  rest : List Char
  mark : Mark
  deriving Repr

namespace Cursor

def peek? (c : Cursor) : Option Char := c.rest.head?

def peekSecond? (c : Cursor) : Option Char := (c.rest.drop 1).head?

/-- Whether a character, if there is one, is white space; the end of the text counts as such. -/
def gapOrEnd (c : Option Char) : Bool := c.all isGap

/-- Whether a character, if there is one, ends a line; the end of the text counts as such. -/
def breakOrEnd (c : Option Char) : Bool := c.all isBreak

def skip (c : Cursor) (n : Nat) : Cursor := ⟨c.rest.drop n, c.mark.forward n⟩

def span (c : Cursor) (p : Char → Bool) : List Char × Cursor :=
  let taken := c.rest.takeWhile p
  (taken, ⟨c.rest.dropWhile p, c.mark.forward taken.length⟩)

def skipWhile (c : Cursor) (p : Char → Bool) : Cursor := (c.span p).2

/-- Takes a line end. All but the two Unicode separators count as a line feed. -/
def lineEnd? (c : Cursor) : Option (Char × Cursor) :=
  match c.rest with
  | '\r' :: '\n' :: r => some ('\n', ⟨r, c.mark.nextLine 2⟩)
  | e :: r =>
    if isBreak e then
      some (if e = '\u2028' || e = '\u2029' then e else '\n', ⟨r, c.mark.nextLine 1⟩)
    else none
  | [] => none

/-- Whether `---` or `...` stands alone at the start of a line here. -/
def atDocumentMark (c : Cursor) : Bool :=
  c.mark.column == 0 &&
    match c.rest with
    | '-' :: '-' :: '-' :: r => gapOrEnd r.head?
    | '.' :: '.' :: '.' :: r => gapOrEnd r.head?
    | _ => false

end Cursor

end RunPlan.Yaml
