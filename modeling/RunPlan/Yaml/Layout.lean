import RunPlan.Yaml.Tag
import RunPlan.Yaml.Scalar.Plain
import RunPlan.Yaml.Scalar.Quoted
import RunPlan.Yaml.Scalar.Block

/-!
From text to tokens. Indentation opens and closes blocks, and a `:` turns what stands before it in
its line into a key.
-/

set_option autoImplicit false

namespace RunPlan.Yaml

/-- A token that becomes a key if a `:` follows in time. It has to, where it starts a line of a
block mapping. -/
structure PendingKey where
  required : Bool
  token : Nat
  mark : Mark
  deriving Repr

/-- The state between two tokens. `indents` are the indentations of the enclosing blocks, `outer`
the pending keys of the enclosing brackets. -/
structure Layout where
  cursor : Cursor
  tokens : Array Token
  indent : Int
  indents : List Int
  outer : List (Option PendingKey)
  pending : Option PendingKey
  keyAllowed : Bool
  deriving Repr

namespace Layout

def start (text : List Char) : Layout := ⟨⟨text, ⟨0, 0, 0⟩⟩, #[], -1, [], [], none, true⟩

def inFlow (l : Layout) : Bool := !l.outer.isEmpty

def column (l : Layout) : Int := l.cursor.mark.column

def push (l : Layout) (t : Token) : Layout := { l with tokens := l.tokens.push t }

def skip (l : Layout) (n : Nat) : Layout := { l with cursor := l.cursor.skip n }

private def allowKey (l : Layout) (allowed : Bool) : Layout := { l with keyAllowed := allowed }

private def PendingKey.isStale (m : Mark) (k : PendingKey) : Bool :=
  k.mark.line < m.line || k.mark.index + 1024 < m.index

/-- Gives up a pending key, if it is stale, and unless it is required. -/
private def dropStale (m : Mark) : Option PendingKey → Option (Option PendingKey)
  | some k =>
    if PendingKey.isStale m k then (if k.required then none else some none) else some (some k)
  | none => some none

private def dropAllStale (l : Layout) : Option Layout := do
  let outer ← l.outer.mapM (dropStale l.cursor.mark)
  let pending ← dropStale l.cursor.mark l.pending
  return { l with outer, pending }

private def dropPending (l : Layout) : Option Layout :=
  match l.pending with
  | some k => if k.required then none else some { l with pending := none }
  | none => some l

private def savePending (l : Layout) : Option Layout :=
  if l.keyAllowed then do
    let l ← l.dropPending
    return { l with
      pending := some ⟨!l.inFlow && l.indent == l.column, l.tokens.size, l.cursor.mark⟩ }
  else some l

/-- Opens a block at a column right of the current block; its start goes in front of the token
`place`. -/
private def openBlock (l : Layout) (column : Int) (place : Nat) (t : Token) : Layout :=
  if l.inFlow || column ≤ l.indent then l
  else { l with
    indents := l.indent :: l.indents
    indent := column
    tokens := l.tokens.insertIdxIfInBounds place t }

private def closeBlocksAt (column : Int) : Int → List Int → Nat × Int × List Int
  | indent, [] => (0, indent, [])
  | indent, i :: is =>
    if column < indent then
      let (n, indent, is) := closeBlocksAt column i is
      (n + 1, indent, is)
    else (0, indent, i :: is)

private def closeBlocks (l : Layout) (column : Int) : Layout :=
  if l.inFlow then l
  else
    let (n, indent, indents) := closeBlocksAt column l.indent l.indents
    { l with indent, indents, tokens := l.tokens ++ Array.replicate n .blockEnd }

/-- Skips white space, comments and line ends. A tab may stand only where no key can start. A byte
order mark at the very start is skipped too, but takes up a column. -/
private def skipGapsFrom : Nat → Layout → Layout
  | 0, l => l
  | fuel + 1, l =>
    let c := if l.cursor.mark.index = 0 && l.cursor.peek? = some byteOrderMark
      then l.cursor.skip 1 else l.cursor
    let tabs := l.inFlow || !l.keyAllowed
    let c := c.skipWhile fun d => d = ' ' || (tabs && d = '\t')
    let c := if c.peek? = some '#' then c.skipWhile fun d => !isBreak d else c
    match c.lineEnd? with
    | some (_, next) =>
      skipGapsFrom fuel { l with cursor := next, keyAllowed := l.keyAllowed || !l.inFlow }
    | none => { l with cursor := c }

def skipGaps (l : Layout) : Layout := skipGapsFrom (l.cursor.rest.length + 1) l

private def readDirective (l : Layout) : Option Layout := do
  let l ← (l.closeBlocks (-1)).dropPending
  let (t, next) ← Directive.read l.cursor
  return { l with cursor := next, keyAllowed := false }.push t

private def readDocumentMark (l : Layout) (t : Token) : Option Layout := do
  let l ← (l.closeBlocks (-1)).dropPending
  return ((l.allowKey false).push t).skip 3

private def openFlow (l : Layout) (t : Token) : Option Layout := do
  let l ← l.savePending
  let inside : Layout :=
    { l with outer := l.pending :: l.outer, pending := none, keyAllowed := true }
  return (inside.push t).skip 1

private def closeFlow (l : Layout) (t : Token) : Option Layout := do
  let l ← l.dropPending
  let l := match l.outer with
    | [] => l
    | k :: ks => { l with outer := ks, pending := k }
  return ((l.allowKey false).push t).skip 1

private def readFlowEntry (l : Layout) : Option Layout := do
  let l ← l.dropPending
  return ((l.allowKey true).push .flowEntry).skip 1

private def readBlockEntry (l : Layout) : Option Layout := do
  if !l.inFlow && !l.keyAllowed then none
  else
    let l ← (l.openBlock l.column l.tokens.size .blockSequenceStart).dropPending
    return ((l.allowKey true).push .blockEntry).skip 1

def readKey (l : Layout) : Option Layout := do
  if !l.inFlow && !l.keyAllowed then none
  else
    let l ← (l.openBlock l.column l.tokens.size .blockMappingStart).dropPending
    return ((l.allowKey !l.inFlow).push .key).skip 1

/-- The start of a value. It makes the pending token a key. -/
def readValue (l : Layout) : Option Layout :=
  match l.pending with
  | some k =>
    let l := { l with tokens := l.tokens.insertIdxIfInBounds k.token .key, pending := none }
    some ((((l.openBlock k.mark.column k.token .blockMappingStart).allowKey false).push
      .value).skip 1)
  | none =>
    if !l.inFlow && !l.keyAllowed then none
    else some ((((l.openBlock l.column l.tokens.size .blockMappingStart).allowKey !l.inFlow).push
      .value).skip 1)

private def readInline (l : Layout) (read : Cursor → Option (Token × Cursor)) : Option Layout := do
  let l ← l.savePending
  let (t, next) ← read l.cursor
  return { l with cursor := next, keyAllowed := false }.push t

private def readQuoted (l : Layout) (quote : Char) : Option Layout :=
  l.readInline fun c => (Quoted.read quote c).map fun (text, next) =>
    (.scalar (String.ofList text) false, next)

/-- A scalar without quotes. A line end behind it lets a key start. -/
private def readPlain (l : Layout) : Option Layout := do
  let l ← l.savePending
  let p ← Plain.read l.inFlow (l.indent + 1).toNat l.cursor
  return { l with cursor := p.rest, keyAllowed := p.broken }.push
    (.scalar (String.ofList p.text) true)

private def readBlock (l : Layout) (folded : Bool) : Option Layout := do
  let l ← l.dropPending
  let (text, next) ← Block.read folded l.indent l.cursor
  return { l with cursor := next, keyAllowed := true }.push (.scalar (String.ofList text) false)

private def readToken (l : Layout) (c : Char) : Option Layout :=
  let beforeGap := Cursor.gapOrEnd l.cursor.peekSecond?
  if l.column = 0 && c = '%' then l.readDirective
  else if l.cursor.atDocumentMark then
    l.readDocumentMark (if c = '-' then .documentStart else .documentEnd)
  else match c with
    | '[' => l.openFlow .flowSequenceStart
    | '{' => l.openFlow .flowMappingStart
    | ']' => l.closeFlow .flowSequenceEnd
    | '}' => l.closeFlow .flowMappingEnd
    | ',' => l.readFlowEntry
    | '*' => l.readInline fun c =>
      (readAnchorName (c.skip 1)).map fun (name, next) => (.reference name, next)
    | '&' => l.readInline fun c =>
      (readAnchorName (c.skip 1)).map fun (name, next) => (.anchor name, next)
    | '!' => l.readInline (Tag.read l.inFlow)
    | '\'' => l.readQuoted '\''
    | '"' => l.readQuoted '"'
    | '-' => if beforeGap then l.readBlockEntry else l.readPlain
    | '?' => if l.inFlow || beforeGap then l.readKey else l.readPlain
    | ':' => if l.inFlow || beforeGap then l.readValue else l.readPlain
    | '|' => if l.inFlow then none else l.readBlock false
    | '>' => if l.inFlow then none else l.readBlock true
    | c => if ['#', '%', '@', '\x60', '\t'].contains c then none else l.readPlain

private def readAll : Nat → Layout → Option (Array Token)
  | 0, _ => none
  | fuel + 1, l => do
    let l ← l.skipGaps.dropAllStale
    match l.cursor.peek? with
    | none => ((l.closeBlocks (-1)).dropPending).map Layout.tokens
    | some c =>
      let l ← (l.closeBlocks l.column).readToken c
      readAll fuel l

end Layout

def tokens? (text : String) : Option (List Token) :=
  if text.toList.all isAllowed then
    (Layout.readAll (text.length + 1) (Layout.start text.toList)).map Array.toList
  else none

end RunPlan.Yaml
