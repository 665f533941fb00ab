import RunPlan.Text.Bytes
import RunPlan.Text.Split
import RunPlan.NaturalOrder

/-!
Paths as they are written, with `/` between their pieces, and their components. Nothing here looks
at any file.
-/

set_option autoImplicit false

namespace RunPlan

open RunPlan.Text

/-- A path as the system has it: bytes, which need not be a text. -/
structure RawPath where
  bytes : List UInt8
  deriving DecidableEq, Repr

namespace RawPath

/-- What a path is made of, each component as it is written. Empty pieces count for nothing, and `.`
only at the very start. -/
def components (p : RawPath) : List (List UInt8) :=
  let pieces := split 0x2F p.bytes
  let start :=
    if p.bytes.head? = some 0x2F then [[0x2F]]
    else if pieces.head? = some [0x2E] then [[0x2E]] else []
  start ++ pieces.filter fun piece => piece ∉ [[], [0x2E]]

/-- The part of a path below a directory, the whole path if it does not lie there. It is a text, so
bytes without a meaning are replaced. -/
def relativeTo (base file : RawPath) : String :=
  let rest := (base.components.isPrefixOf? file.components).getD file.components
  String.intercalate "/" (rest.map shown)

end RawPath

/-- A path that is a text, as it is written. -/
structure Path where
  text : String
  deriving DecidableEq, Repr, Inhabited

/-- What a path is made of. Empty pieces count for nothing, and `.` only at the very start. -/
inductive Component
  | root
  | current
  | parent
  | normal (name : List Char)
  deriving DecidableEq, Repr

namespace Component

def chars : Component → List Char
  | .root => ['/']
  | .current => ['.']
  | .parent => ['.', '.']
  | .normal name => name

def rank : Component → Nat
  | .root => 0
  | .current => 1
  | .parent => 2
  | .normal _ => 3

def compare (a b : Component) : Ordering :=
  match a, b with
  | .normal n, .normal n' => NaturalOrder.compareChars n n'
  | a, b => Ord.compare a.rank b.rank

def ofPiece? (piece : List Char) : Option Component :=
  match piece with
  | [] => none
  | ['.'] => none
  | ['.', '.'] => some .parent
  | name => some (.normal name)

end Component

namespace Path

def isAbsolute (p : Path) : Bool := p.text.toList.head? = some '/'

def components (p : Path) : List Component :=
  let pieces := split '/' p.text.toList
  let start : List Component :=
    if p.isAbsolute then [.root] else if pieces.head? = some ['.'] then [.current] else []
  start ++ pieces.filterMap Component.ofPiece?

/-- The order of paths, component by component, a proper initial part first. -/
def compare (p q : Path) : Ordering :=
  List.compareLex Component.compare p.components q.components

/-- Puts a path behind another; an absolute one stands alone. -/
def join (p : Path) (q : String) : Path :=
  if q.toList.head? = some '/' then ⟨q⟩
  else if p.text.isEmpty || p.text.toList.getLast? = some '/' then ⟨p.text ++ q⟩
  else ⟨p.text ++ "/" ++ q⟩

/-- The reversed text without pieces at its end that count for nothing. A `.` at the very start
counts, and so does the `/` of the root. -/
private def dropIdle (absolute : Bool) : List Char → List Char
  | ['/'] => if absolute then ['/'] else []
  | '/' :: r => dropIdle absolute r
  | '.' :: '/' :: r => dropIdle absolute ('/' :: r)
  | r => r

/-- The path without its last component; the root and the empty path have none that could go. -/
def parent? (p : Path) : Option Path :=
  match p.components.getLast? with
  | none | some .root => none
  | some _ =>
    let whole := dropIdle p.isAbsolute p.text.toList.reverse
    let rest := whole.dropWhile (· ≠ '/')
    some ⟨String.ofList (dropIdle p.isAbsolute rest).reverse⟩

/-- The name of the file without its last extension; a name that only starts with a point has
none. -/
def stem? (p : Path) : Option String :=
  match p.components.getLast? with
  | some (.normal name) =>
    match cutLast '.' name with
    | some (before, _) => some (String.ofList (if before.isEmpty then name else before))
    | none => some (String.ofList name)
  | _ => none

def raw (p : Path) : RawPath := ⟨utf8 p.text.toList⟩

/-- The part of a path below a directory; the whole path if it does not lie there. -/
def relativeTo (base file : Path) : String := base.raw.relativeTo file.raw

end Path

/-- The name of a benchmark: its path below the directory, without the extension. -/
def benchmarkName (base file : Path) : String :=
  let relative := base.relativeTo file
  match cutLast '.' relative.toList with
  | some (stem, _) =>
    if !stem.isEmpty && stem.getLast? ≠ some '/' then String.ofList stem else relative
  | none => relative

end RunPlan
