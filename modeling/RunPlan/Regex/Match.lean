import RunPlan.Regex.Basic
import RunPlan.Text.Property

/-!
Looking for a regular expression in a text. A run goes over the expression and carries the set of
all places of the text that can be reached, so no choice is ever taken back.
-/

set_option autoImplicit false

namespace RunPlan

open RunPlan.Text

/-- A place in a text: the characters next to it. -/
structure TextPlace where
  before? : Option Char
  after? : Option Char
  deriving DecidableEq, Repr

namespace TextPlace

private def ofText (before? : Option Char) : List Char → List TextPlace
  | [] => [⟨before?, none⟩]
  | c :: rest => ⟨before?, some c⟩ :: ofText (some c) rest

def isWordChar (ascii : Bool) (c : Char) : Bool :=
  if ascii then c.isAlphanum || c == '_' else wordRanges.contains c.toNat

end TextPlace

namespace Assertion

def holds (a : Assertion) (p : TextPlace) : Bool :=
  let wordBefore (ascii : Bool) : Bool := p.before?.any (TextPlace.isWordChar ascii)
  let wordAfter (ascii : Bool) : Bool := p.after?.any (TextPlace.isWordChar ascii)
  match a with
  | .textStart => p.before?.isNone
  | .textEnd => p.after?.isNone
  | .lineStart => p.before?.isNone || p.before? == some '\n'
  | .lineEnd => p.after?.isNone || p.after? == some '\n'
  | .lineStartWithReturn =>
    p.before?.isNone || p.before? == some '\n' ||
      (p.before? == some '\r' && !(p.after? == some '\n'))
  | .lineEndWithReturn =>
    p.after?.isNone || p.after? == some '\r' ||
      (p.after? == some '\n' && !(p.before? == some '\r'))
  | .boundary ascii => wordBefore ascii != wordAfter ascii
  | .noBoundary ascii => wordBefore ascii == wordAfter ascii
  | .wordStart ascii => !wordBefore ascii && wordAfter ascii
  | .wordEnd ascii => wordBefore ascii && !wordAfter ascii
  | .wordStartHalf ascii => !wordBefore ascii
  | .wordEndHalf ascii => !wordAfter ascii

end Assertion

abbrev Marks := List Bool

namespace Marks

def union (a b : Marks) : Marks := a.zipWith (· || ·) b

/-- Takes a step so many times, or until it changes nothing any more. -/
def after (step : Marks → Marks) : Nat → Marks → Marks
  | 0, marks => marks
  | n + 1, marks =>
    let next := step marks
    if next = marks then marks else after step n next

def within (step : Marks → Marks) (n : Nat) (marks : Marks) : Marks :=
  after (fun m => m.union (step m)) n marks

end Marks

namespace Regex

/-- The places where a match that starts at one of the marked places can end. -/
private def reach (places : List TextPlace) : Regex → Marks → Marks
  | .empty, marks => marks
  | .set rs, marks =>
    (false :: places.zipWith
      (fun p m => m && p.after?.any fun c => rs.contains c.toNat) marks).dropLast
  | .place a, marks => places.zipWith (fun p m => m && a.holds p) marks
  | .sequence r s, marks => s.reach places (r.reach places marks)
  | .choice r s, marks => (r.reach places marks).union (s.reach places marks)
  | .repeated r least most?, marks =>
    let more := match most? with
      | some most => most - least
      | none => places.length
    Marks.within (r.reach places) more (Marks.after (r.reach places) least marks)

def occursIn (r : Regex) (text : String) : Bool :=
  let places := TextPlace.ofText none text.toList
  (r.reach places (places.map fun _ => true)).any id

end Regex

end RunPlan
