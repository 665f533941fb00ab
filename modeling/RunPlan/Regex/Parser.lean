import RunPlan.Regex.CharacterClass
import RunPlan.Regex.Match

/-!
Reading regular expressions. The groups that are open are kept in a stack, and each step reads one
part or one operator.
-/

set_option autoImplicit false

namespace RunPlan.Regex

open RunPlan.Text

/-- A part of a sequence: an expression with the levels that lie in it, or a change of flags. -/
inductive Part
  | regex (r : Regex) (depth : Nat)
  | flags

/-- A group that is open: the flags outside it, its finished choices, and the parts of the one that
is being read, both last first. -/
structure Group where
  outside : Flags
  choices : List (Regex × Nat)
  parts : List Part

/-- What has been read so far. -/
structure State where
  flags : Flags
  names : List String
  group : Group
  outer : List Group

def maxDepth : Nat := 250

def levels (depths : List Nat) : Nat :=
  let deepest := depths.max?.getD 0
  if depths.length ≤ 1 then deepest else deepest + 1

namespace Group

def sequence (g : Group) : Regex × Nat :=
  let parts := g.parts.reverse
  let regexes := parts.filterMap fun
    | .regex r _ => some r
    | .flags => none
  let depths := parts.map fun
    | .regex _ d => d
    | .flags => 0
  (sequenceOf regexes, levels depths)

def value (g : Group) : Regex × Nat :=
  let choices := (g.sequence :: g.choices).reverse
  (choiceOf (choices.map Prod.fst), levels (choices.map Prod.snd))

end Group

namespace State

def push (st : State) (p : Part) : State :=
  { st with group := { st.group with parts := p :: st.group.parts } }

private def pushRegex (st : State) (r : Regex) : State := st.push (.regex r 0)

private def openGroup (st : State) (flags : Flags) : State :=
  { st with flags, group := ⟨st.flags, [], []⟩, outer := st.group :: st.outer }

private def closeGroup (st : State) : Except Fault State :=
  match st.outer with
  | [] => .error .unopenedGroup
  | g :: outer =>
    let (r, depth) := st.group.value
    .ok (State.push { st with flags := st.group.outside, group := g, outer }
      (.regex r (depth + 1)))

private def nextChoice (st : State) : State :=
  { st with group :=
      { st.group with choices := st.group.sequence :: st.group.choices, parts := [] } }

private def repeatLast (st : State) (least : Nat) (most? : Option Nat) : Except Fault State :=
  match st.group.parts with
  | .regex r depth :: parts =>
    .ok { st with group :=
        { st.group with parts := .regex (.repeated r least most?) (depth + 1) :: parts } }
  | _ => .error .nothingToRepeat

def finish (st : State) : Except Fault Regex :=
  if !st.outer.isEmpty then .error .unclosedGroup
  else
    let (r, depth) := st.group.value
    if maxDepth < depth then .error .tooDeep
    else if maxSize < r.size then .error .tooLarge
    else .ok r

end State

/-- Whether the name of a group can have a character, at its start or later. -/
private def isGroupNameChar (first : Bool) (c : Char) : Bool :=
  if first then c = '_' || alphabeticRanges.contains c.toNat
  else c = '_' || c = '.' || c = '[' || c = ']' || alphanumericRanges.contains c.toNat

private def readGroupName (st : State) (s : List Char) : Except Fault (State × List Char) :=
  let name := s.takeWhile (· ≠ '>')
  match s.dropWhile (· ≠ '>'), name with
  | _ :: rest, c :: cs =>
    let text := String.ofList name
    if isGroupNameChar true c && cs.all (isGroupNameChar false) && !st.names.contains text
    then .ok ({ st with names := text :: st.names }, rest)
    else .error .badGroupName
  | _, _ => .error .badGroupName

/-- Reads flags: the letters so far, whether they are switched off now, the flags, and the sign that
ends them. -/
private def readFlags (seen : List Char) (off : Bool) (f : Flags) :
    List Char → Except Fault (List Char × Flags × Char × List Char)
  | [] => .error .badFlags
  | c :: rest =>
    if c = ':' || c = ')' then
      if seen.head? = some '-' then .error .badFlags else .ok (seen, f, c, rest)
    else if seen.contains c then .error .badFlags
    else if c = '-' then readFlags ('-' :: seen) true f rest
    else match f.set? (!off) c with
      | some f => readFlags (c :: seen) off f rest
      | none => .error .badFlags

private def looksAround (s : List Char) : Bool :=
  [['?', '='], ['?', '!'], ['?', '<', '='], ['?', '<', '!']].any (·.isPrefixOf s)

def readGroup (st : State) (s : List Char) : Except Fault (State × List Char) := do
  if looksAround s then throw .lookAround
  match s with
  | '?' :: 'P' :: '<' :: rest | '?' :: '<' :: rest =>
    let (named, rest) ← readGroupName st rest
    return (named.openGroup st.flags, rest)
  | '?' :: rest =>
    match ← readFlags [] false st.flags rest with
    | ([], _, ')', _) => .error .nothingToRepeat
    | (_, f, ')', rest) => return (State.push { st with flags := f } .flags, rest)
    | (_, f, _, rest) => return (st.openGroup f, rest)
  | rest => return (st.openGroup st.flags, rest)

def readCount (s : List Char) : Except Fault (Option Nat × List Char) :=
  let s := trimStart s
  let digits := s.takeWhile Char.isDigit
  let rest := trimStart (s.dropWhile Char.isDigit)
  match digitsValue? 10 digits with
  | none => .ok (none, rest)
  | some n => if n < Nat.pow 2 32 then .ok (some n, rest) else .error .badCount

private def readRepetition (f : Flags) (s : List Char) :
    Except Fault (Nat × Option Nat × List Char) := do
  let (least?, rest) ← readCount (f.skip s)
  match least?, rest with
  | some least, '\x7d' :: rest => return (least, some least, rest)
  | some least, ',' :: rest =>
    match f.skip rest with
    | '\x7d' :: rest => return (least, none, rest)
    | rest =>
      match ← readCount rest with
      | (some most, '\x7d' :: rest) =>
        if most < least then .error .badCount else return (least, some most, rest)
      | _ => .error .badCount
  | _, _ => .error .badCount

/-- Goes over the sign behind a repetition that asks for few of them. -/
private def skipGreed (f : Flags) (s : List Char) : List Char :=
  match f.skip s with
  | '?' :: rest => rest
  | rest => rest

def Atom.regex (f : Flags) : Atom → Except Fault Regex
  | .char c byte =>
    if byte && !f.unicode && 0x7F < c.toNat then .error .notText
    else .ok (.set (f.fold [(c.toNat, c.toNat)]))
  | .set rs => .ok (.set rs)
  | .place a => .ok (.place a)

private def dotSet (f : Flags) : Except Fault Ranges :=
  if !f.unicode then .error .notText
  else .ok (Ranges.complement maxCode
    (if f.dotAll then [] else if f.returns then [(0xA, 0xA), (0xD, 0xD)] else [(0xA, 0xA)]))

private def startPlace (f : Flags) : Assertion :=
  if !f.multiLine then .textStart else if f.returns then .lineStartWithReturn else .lineStart

private def endPlace (f : Flags) : Assertion :=
  if !f.multiLine then .textEnd else if f.returns then .lineEndWithReturn else .lineEnd

def step (st : State) (c : Char) (rest : List Char) : Except Fault (State × List Char) := do
  let f := st.flags
  match c with
  | '(' => readGroup st (f.skip rest)
  | ')' => return (← st.closeGroup, rest)
  | '|' => return (st.nextChoice, rest)
  | '[' =>
    let (cls, rest) ← readClass f rest
    return (st.push (.regex (.set cls.members) cls.depth), rest)
  | '?' => return (← st.repeatLast 0 (some 1), skipGreed f rest)
  | '*' => return (← st.repeatLast 0 none, skipGreed f rest)
  | '+' => return (← st.repeatLast 1 none, skipGreed f rest)
  | '\x7b' =>
    let (least, most?, rest) ← readRepetition f rest
    return (← st.repeatLast least most?, skipGreed f rest)
  | '\\' =>
    let (atom, rest) ← readEscape f rest
    return (st.pushRegex (← atom.regex f), rest)
  | '.' => return (st.pushRegex (.set (← dotSet f)), rest)
  | '^' => return (st.pushRegex (.place (startPlace f)), rest)
  | '$' => return (st.pushRegex (.place (endPlace f)), rest)
  | c => return (st.pushRegex (← (Atom.char c false).regex f), rest)

def run : Nat → State → List Char → Except Fault Regex
  | 0, st, _ => st.finish
  | fuel + 1, st, s =>
    match st.flags.skip s with
    | [] => st.finish
    | c :: rest => do
      let (st, rest) ← step st c rest
      run fuel st rest

/-- Reads a regular expression. Every step takes at least one character, so there are no more steps
than characters. -/
def parse (s : String) : Except Fault Regex :=
  run (s.length + 1) ⟨{}, [], ⟨{}, [], []⟩, []⟩ s.toList

def finder (s : String) : Except String (String → Bool) :=
  match parse s with
  | .ok r => .ok r.occursIn
  | .error fault => .error fault.message

end RunPlan.Regex
