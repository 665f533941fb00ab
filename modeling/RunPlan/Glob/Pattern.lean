import RunPlan.Text.Quoted

/-!
Patterns for paths: `?` is any character, `*` any run of them, brackets a set, and a `**` that is a
whole piece of the path any number of directories. None but the last matches a `/`.
-/

set_option autoImplicit false

namespace RunPlan.Glob

/-- One member of a set in brackets. -/
inductive Member
  | single (c : Char)
  | range (lo hi : Char)
  deriving DecidableEq, Repr

/-- A piece of a pattern. -/
inductive Token
  | char (c : Char)
  | anyChar
  | anySequence
  | anyDirectories
  | within (members : List Member)
  | except (members : List Member)
  deriving DecidableEq, Repr

/-- What can be wrong with a pattern. -/
inductive FaultKind
  | tooManyStars
  | starsInName
  | badRange
  deriving DecidableEq, Repr

/-- What is wrong with a pattern, and where. -/
structure Fault where
  position : Nat
  kind : FaultKind
  deriving DecidableEq, Repr

def FaultKind.message : FaultKind → String
  | .tooManyStars => "wildcards are either regular \x60*\x60 or recursive \x60**\x60"
  | .starsInName => "recursive wildcards must form a single path component"
  | .badRange => "invalid range pattern"

def Fault.message (f : Fault) : String :=
  "Pattern syntax error near position " ++ toString f.position ++ ": " ++ f.kind.message

def members : List Char → List Member
  | a :: '-' :: b :: r => .range a b :: members r
  | a :: r => .single a :: members r
  | [] => []

/-- The inside of brackets and what follows them; the first character is never the closing one. -/
private def inside? (s : List Char) : Option (List Char × List Char) :=
  match s with
  | [] => none
  | c :: r =>
    let body := r.takeWhile (· ≠ ']')
    match r.drop body.length with
    | _ :: rest => some (c :: body, rest)
    | [] => none

private def readSet? : List Char → Option (Token × List Char)
  | '!' :: r => (inside? r).map fun (body, rest) => (.except (members body), rest)
  | s => (inside? s).map fun (body, rest) => (.within (members body), rest)

/-- Reads the rest of a pattern. `before` is the character in front of it and `position` says where
it starts. -/
def readFrom : Nat → Option Char → Nat → List Char → Except Fault (List Token)
  | 0, _, _, _ => .ok []
  | _, _, _, [] => .ok []
  | fuel + 1, before, position, c :: r =>
    match c with
    | '?' => (readFrom fuel (some c) (position + 1) r).map (.anyChar :: ·)
    | '*' =>
      let stars := 1 + (r.takeWhile (· = '*')).length
      let rest := r.dropWhile (· = '*')
      if 2 < stars then .error ⟨position + 2, .tooManyStars⟩
      else if stars = 1 then
        (readFrom fuel (some c) (position + 1) rest).map (.anySequence :: ·)
      else if before.all (· = '/') then
        match rest with
        | [] => .ok [.anyDirectories]
        | '/' :: rest =>
          (readFrom fuel (some '/') (position + 3) rest).map (.anyDirectories :: ·)
        | _ => .error ⟨position + 2, .starsInName⟩
      else .error ⟨position - 1, .starsInName⟩
    | '[' =>
      match readSet? r with
      | some (t, rest) =>
        (readFrom fuel (some ']') (position + 1 + (r.length - rest.length)) rest).map (t :: ·)
      | none => .error ⟨position, .badRange⟩
    | c => (readFrom fuel (some c) (position + 1) r).map (.char c :: ·)

def parse (pattern : String) : Except Fault (List Token) :=
  readFrom (pattern.length + 1) none 0 pattern.toList

end RunPlan.Glob
