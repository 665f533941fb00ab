import RunPlan.Text.Blank
import RunPlan.Text.CaseFold
import RunPlan.Text.Ranges

/-!
How the text of a regular expression is read: the flags that change the meaning of its characters,
and what can be wrong with it.
-/

set_option autoImplicit false

namespace RunPlan.Regex

open RunPlan.Text

/-- What is wrong with the text of a regular expression. -/
inductive Fault
  | unclosedGroup
  | unopenedGroup
  | unclosedClass
  | badClassItem
  | badRange
  | nothingToRepeat
  | badCount
  | badEscape
  | badFlags
  | badGroupName
  | unknownSet
  | lookAround
  | backReference
  | notText
  | tooDeep
  | tooLarge
  deriving DecidableEq, Repr

def Fault.message : Fault → String
  | .unclosedGroup => "a group is not closed"
  | .unopenedGroup => "a group is closed that was not opened"
  | .unclosedClass => "a character class is not closed"
  | .badClassItem => "a character class holds what is no set of characters"
  | .badRange => "a range of characters ends before it starts"
  | .nothingToRepeat => "there is nothing to repeat"
  | .badCount => "a repetition has no count that can be used"
  | .badEscape => "an escape is not known or not complete"
  | .badFlags => "the flags of a group are not known, doubled or not complete"
  | .badGroupName => "the name of a group is not allowed or stands twice"
  | .unknownSet => "there is no set of characters of that name"
  | .lookAround => "looking ahead and behind is not possible"
  | .backReference => "references to groups are not possible"
  | .notText => "a match could be no text"
  | .tooDeep => "the groups lie too deep in each other"
  | .tooLarge => "the expression is too large"

/-- The settings that a group can change. -/
structure Flags where
  ignoreCase : Bool := false
  multiLine : Bool := false
  dotAll : Bool := false
  swapGreed : Bool := false
  unicode : Bool := true
  returns : Bool := false
  verbose : Bool := false
  deriving DecidableEq, Repr

namespace Flags

def set? (f : Flags) (value : Bool) : Char → Option Flags
  | 'i' => some { f with ignoreCase := value }
  | 'm' => some { f with multiLine := value }
  | 's' => some { f with dotAll := value }
  | 'U' => some { f with swapGreed := value }
  | 'u' => some { f with unicode := value }
  | 'R' => some { f with returns := value }
  | 'x' => some { f with verbose := value }
  | _ => none

/-- The largest number that stands for something in a set. Without Unicode these are bytes. -/
def top (f : Flags) : Nat := if f.unicode then maxCode else 0xFF

/-- The text without the white space and the comments in front. They count only if the flag for them
is not set. -/
def skip (f : Flags) (s : List Char) : List Char := if f.verbose then idle false s else s
where
  /-- Goes over white space, and inside a comment over everything up to the end of the line. -/
  idle (comment : Bool) : List Char → List Char
    | [] => []
    | c :: rest =>
      if comment then idle (c != '\n') rest
      else if isBlank c then idle false rest
      else if c = '#' then idle true rest
      else c :: rest

private def casedCodes : List Nat :=
  caseRuns.flatMap fun r =>
    (List.range ((r.last - r.first) / r.step + 1)).flatMap fun i =>
      let n := r.first + i * r.step
      [n, ((n : Int) + r.shift).toNat]

/-- A set with the other forms of its members, if capital and small letters are the same. -/
def fold (f : Flags) (rs : Ranges) : Ranges :=
  if !f.ignoreCase then rs
  else if f.unicode then
    let more := casedCodes.filter fun n => (caseVariants n).any rs.contains
    Ranges.ofList (rs ++ more.map fun n => (n, n))
  else
    let letters := (List.range 26).flatMap fun i =>
      if rs.contains (0x41 + i) || rs.contains (0x61 + i) then
        [(0x41 + i, 0x41 + i), (0x61 + i, 0x61 + i)]
      else []
    Ranges.ofList (rs ++ letters)

/-- The set that is left to match: with all forms of its members, then turned around if asked for.
Without Unicode it must hold ASCII characters alone. -/
def close (f : Flags) (negated : Bool) (rs : Ranges) : Except Fault Ranges :=
  let folded := f.fold rs
  let result := if negated then Ranges.complement f.top folded else folded
  if !f.unicode && result.any (fun r => 0x7F < r.2) then .error .notText else .ok result

end Flags

end RunPlan.Regex
