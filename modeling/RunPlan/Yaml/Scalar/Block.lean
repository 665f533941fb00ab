import RunPlan.Yaml.Scalar.Gap

/-!
Scalars whose lines are marked by their indentation alone: `|` keeps line ends, `>` folds them. A
header says how line ends at the end are treated and may fix the indentation.
-/

set_option autoImplicit false

namespace RunPlan.Yaml.Block

/-- What happens to the line ends after the last line with text. -/
inductive Chomping
  | strip
  | clip
  | keep
  deriving DecidableEq, Repr

/-- The header: the treatment of the last line ends, and the extra indentation if it is fixed. -/
structure Header where
  chomping : Chomping
  increment : Option Nat
  deriving Repr

private def mode? : List Char → Option (Chomping × List Char)
  | '+' :: r => some (.keep, r)
  | '-' :: r => some (.strip, r)
  | _ => none

private def digit? : List Char → Option (Option Nat × List Char)
  | d :: r =>
    if d = '0' then none
    else if d.isDigit then some (some (d.toNat - '0'.toNat), r)
    else some (none, d :: r)
  | [] => some (none, [])

def Header.read (s : List Char) : Option (Header × List Char) :=
  match mode? s with
  | some (chomping, r) => (digit? r).map fun (n, r) => (⟨chomping, n⟩, r)
  | none => do
    let (n, r) ← digit? s
    match n, mode? r with
    | some _, some (chomping, r) => return (⟨chomping, n⟩, r)
    | _, _ => return (⟨.clip, n⟩, r)

/-- Empty lines, and the place of the first character after them and their indentation. -/
structure Breaks where
  ends : List Char
  widest : Nat
  next : Cursor

/-- Skips empty lines and indentation. Without a known indentation all spaces count as such; a tab
must not stand in it. -/
def Breaks.read (indent : Option Nat) :
    List Char → Mark → List Char → Nat → Option Breaks
  | '\r' :: '\n' :: r, m, ends, widest =>
    read indent r (m.nextLine 2) (ends ++ ['\n']) (max widest m.column)
  | c :: r, m, ends, widest =>
    let inside := indent.all (m.column < ·)
    if c = ' ' && inside then read indent r (m.forward 1) ends widest
    else if c = '\t' && inside then none
    else if isBreak c then
      read indent r (m.nextLine 1) (ends ++ [Gap.lineEnd c]) (max widest m.column)
    else some ⟨ends, max widest m.column, ⟨c :: r, m⟩⟩
  | [], m, ends, widest => some ⟨ends, max widest m.column, ⟨[], m⟩⟩

/-- What was read of a scalar: its text, the line end of the last line, the empty lines after it,
and whether that line started with white space. -/
structure Progress where
  text : List Char
  lineEnd : List Char
  empties : List Char
  blankStart : Bool

/-- The text of a scalar before its next line, which starts with white space or not. -/
def Progress.joined (p : Progress) (folded blank : Bool) : List Char :=
  if folded && p.lineEnd.head? == some '\n' && !p.blankStart && !blank then
    p.text ++ (if p.empties.isEmpty then [' '] else []) ++ p.empties
  else p.text ++ p.lineEnd ++ p.empties

def readLines (folded : Bool) (indent : Nat) :
    Nat → Cursor → Progress → Option (Progress × Cursor)
  | 0, _, _ => none
  | fuel + 1, c, p =>
    if c.mark.column ≠ indent || c.rest.isEmpty then some (p, c)
    else do
      let blank := c.peek?.any isBlank
      let (line, c) := c.span fun d => !isBreak d
      let text := p.joined folded blank ++ line
      let (lineEnd, c) := match c.lineEnd? with
        | some (e, next) => ([e], next)
        | none => ([], c)
      let breaks ← Breaks.read (some indent) c.rest c.mark [] 0
      readLines folded indent fuel breaks.next ⟨text, lineEnd, breaks.ends, blank⟩

/-- Reads a scalar inside a block with the indentation `outer`, from its `|` or `>` on. -/
def read (folded : Bool) (outer : Int) (c : Cursor) : Option (List Char × Cursor) := do
  let c := c.skip 1
  let (header, rest) ← Header.read c.rest
  let c := (c.skip (c.rest.length - rest.length)).skipWhile isBlank
  let c := if c.peek? = some '#' then c.skipWhile fun d => !isBreak d else c
  if !Cursor.breakOrEnd c.peek? then none
  else
    let c := match c.lineEnd? with
      | some (_, next) => next
      | none => c
    let fixed := header.increment.map fun n => (max outer 0).toNat + n
    let breaks ← Breaks.read fixed c.rest c.mark [] 0
    let indent := fixed.getD (max (max breaks.widest (outer + 1).toNat) 1)
    let (p, c) ←
      readLines folded indent (c.rest.length + 1) breaks.next ⟨[], [], breaks.ends, false⟩
    return (p.text ++ (if header.chomping = .strip then [] else p.lineEnd) ++
      (if header.chomping = .keep then p.empties else []), c)

end RunPlan.Yaml.Block
