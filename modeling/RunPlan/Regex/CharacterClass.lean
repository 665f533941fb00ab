import RunPlan.Regex.Escape

/-!
Character classes in brackets: single characters, ranges, named sets and classes, and the operations
between them.
-/

set_option autoImplicit false

namespace RunPlan.Regex

open RunPlan.Text

/-- An operation between two sets. -/
inductive ClassOperation
  | intersection
  | difference
  | symmetricDifference
  deriving DecidableEq, Repr

def ClassOperation.apply : ClassOperation → Ranges → Ranges → Ranges
  | .intersection => Ranges.intersection
  | .difference => Ranges.difference
  | .symmetricDifference => Ranges.symmetricDifference

/-- A set that was read, and how many levels of classes lie in it. -/
structure ClassSet where
  members : Ranges
  depth : Nat

/-- A class that is being read: whether nothing but hyphens was read, the items since its start or
the last operation, and what stands in front of that operation. -/
structure ClassState where
  negated : Bool
  atStart : Bool
  items : List ClassSet
  before? : Option (ClassOperation × ClassSet)

namespace ClassState

def push (st : ClassState) (members : Ranges) (depth : Nat) : ClassState :=
  { st with atStart := false, items := ⟨members, depth⟩ :: st.items }

def union (st : ClassState) : ClassSet :=
  let depth := (st.items.map ClassSet.depth).max?.getD 0
  ⟨Ranges.unionAll (st.items.map ClassSet.members),
    if st.items.length ≤ 1 then depth else depth + 1⟩

def value (f : Flags) (st : ClassState) : ClassSet :=
  match st.before? with
  | some (op, left) =>
    let right := st.union
    ⟨op.apply (f.fold left.members) (f.fold right.members), max left.depth right.depth + 1⟩
  | none => st.union

private def operate (f : Flags) (op : ClassOperation) (st : ClassState) : ClassState :=
  { st with atStart := false, items := [], before? := some (op, st.value f) }

def finish (f : Flags) (st : ClassState) : Except Fault ClassSet := do
  let whole := st.value f
  return ⟨← f.close st.negated whole.members, whole.depth + 1⟩

end ClassState

private def asciiSet? (name : String) : Option Ranges :=
  match name with
  | "alnum" => some [(0x30, 0x39), (0x41, 0x5A), (0x61, 0x7A)]
  | "alpha" => some [(0x41, 0x5A), (0x61, 0x7A)]
  | "ascii" => some [(0, 0x7F)]
  | "blank" => some [(9, 9), (0x20, 0x20)]
  | "cntrl" => some [(0, 0x1F), (0x7F, 0x7F)]
  | "digit" => some [(0x30, 0x39)]
  | "graph" => some [(0x21, 0x7E)]
  | "lower" => some [(0x61, 0x7A)]
  | "print" => some [(0x20, 0x7E)]
  | "punct" => some [(0x21, 0x2F), (0x3A, 0x40), (0x5B, 0x60), (0x7B, 0x7E)]
  | "space" => some [(9, 13), (0x20, 0x20)]
  | "upper" => some [(0x41, 0x5A)]
  | "word" => some [(0x30, 0x39), (0x41, 0x5A), (0x5F, 0x5F), (0x61, 0x7A)]
  | "xdigit" => some [(0x30, 0x39), (0x41, 0x46), (0x61, 0x66)]
  | _ => none

/-- Reads a named set of ASCII characters behind its opening bracket: whether its complement is
meant, and its members. -/
private def asciiClass? : List Char → Option (Bool × Ranges × List Char)
  | ':' :: rest =>
    let (negated, rest) := match rest with
      | '^' :: rest => (true, rest)
      | rest => (false, rest)
    match rest.dropWhile (· ≠ ':') with
    | ':' :: ']' :: behind =>
      (asciiSet? (String.ofList (rest.takeWhile (· ≠ ':')))).map fun rs => (negated, rs, behind)
    | _ => none
  | _ => none

private def openClass (f : Flags) (s : List Char) : ClassState × List Char :=
  match f.skip s with
  | '^' :: rest => (⟨true, true, [], none⟩, rest)
  | rest => (⟨false, true, [], none⟩, rest)

private def readClassAtom (f : Flags) : List Char → Except Fault (Atom × List Char)
  | [] => .error .unclosedClass
  | '\\' :: rest => readEscape f rest
  | c :: rest => .ok (.char c false, rest)

/-- The number of a character in a class. Without Unicode only ASCII characters and bytes can stand
there. -/
def Atom.code (f : Flags) : Atom → Except Fault Nat
  | .char c byte => if f.unicode || byte || c.toNat ≤ 0x7F then .ok c.toNat else .error .notText
  | _ => .error .badRange

def Atom.members (f : Flags) : Atom → Except Fault Ranges
  | .set rs => .ok rs
  | .place _ => .error .badClassItem
  | a => (a.code f).map fun n => [(n, n)]

private def readClassItem (f : Flags) (s : List Char) : Except Fault (Ranges × List Char) := do
  let (first, rest) ← readClassAtom f s
  match f.skip rest with
  | [] => .error .unclosedClass
  | '-' :: behind =>
    match f.skip behind with
    | [] => .error .unclosedClass
    | ']' :: _ | '-' :: _ => return (← first.members f, '-' :: behind)
    | second =>
      let (last, rest) ← readClassAtom f second
      let lo ← first.code f
      let hi ← last.code f
      if hi < lo then .error .badRange else return ([(lo, hi)], rest)
  | rest => return (← first.members f, rest)

/-- Reads a class from behind its start up to its closing bracket. Hyphens at the start stand for
themselves, and so does a closing bracket that comes first. -/
private def readClassItems (f : Flags) :
    Nat → ClassState → List Char → Except Fault (ClassSet × List Char)
  | 0, _, _ => .error .unclosedClass
  | fuel + 1, st, s =>
    match f.skip s with
    | [] => .error .unclosedClass
    | '-' :: rest =>
      if st.atStart then
        readClassItems f fuel { st.push [(0x2D, 0x2D)] 0 with atStart := true } rest
      else match rest with
        | '-' :: rest => readClassItems f fuel (st.operate f .difference) rest
        | rest => do
          let (rs, rest) ← readClassItem f ('-' :: rest)
          readClassItems f fuel (st.push rs 0) rest
    | ']' :: rest =>
      if st.atStart && st.items.isEmpty then readClassItems f fuel (st.push [(0x5D, 0x5D)] 0) rest
      else do return (← st.finish f, rest)
    | '[' :: rest =>
      match asciiClass? rest with
      | some (negated, rs, behind) => do
        readClassItems f fuel (st.push (← f.close negated rs) 0) behind
      | none => do
        let (inner, rest) := openClass f rest
        let (inner, rest) ← readClassItems f fuel inner rest
        readClassItems f fuel (st.push inner.members inner.depth) rest
    | '&' :: '&' :: rest => readClassItems f fuel (st.operate f .intersection) rest
    | '~' :: '~' :: rest => readClassItems f fuel (st.operate f .symmetricDifference) rest
    | s => do
      let (rs, rest) ← readClassItem f s
      readClassItems f fuel (st.push rs 0) rest

/-- Reads a class behind its opening bracket. Every item has at least one character, so there are no
more items than characters. -/
def readClass (f : Flags) (s : List Char) : Except Fault (ClassSet × List Char) :=
  let (st, rest) := openClass f s
  readClassItems f (s.length + 1) st rest

end RunPlan.Regex
