/-!
The natural order of names: runs of ASCII digits compare as numbers, all else by its bytes. Main
statements: the runs of a text concatenate to it, and neighbouring runs differ in kind.
-/

set_option autoImplicit false

namespace RunPlan.NaturalOrder

/-- A maximal run of ASCII digits, or of other characters. -/
inductive Run
  | digits (cs : List Char)
  | text (cs : List Char)
  deriving DecidableEq, Repr

def Run.chars : Run → List Char
  | .digits cs => cs
  | .text cs => cs

def Run.isDigits : Run → Bool
  | .digits _ => true
  | .text _ => false

def Run.cons (c : Char) : List Run → List Run
  | .digits cs :: rs => if c.isDigit then .digits (c :: cs) :: rs else .text [c] :: .digits cs :: rs
  | .text cs :: rs => if c.isDigit then .digits [c] :: .text cs :: rs else .text (c :: cs) :: rs
  | [] => [if c.isDigit then .digits [c] else .text [c]]

def runs (s : List Char) : List Run := s.foldr Run.cons []

/-- Character lists by code point, a proper initial part first. For code points this is also the
order of the UTF-8 bytes. -/
def compareChars : List Char → List Char → Ordering := List.compareLex (compareOn Char.toNat)

def significant (cs : List Char) : List Char := cs.dropWhile (· == '0')

/-- Digit runs of any length by their value, equal values by the number of leading zeros. -/
def compareDigits (a b : List Char) : Ordering :=
  (compare (significant a).length (significant b).length).then
    ((compareChars (significant a) (significant b)).then (compare a.length b.length))

def compareRun : Run → Run → Ordering
  | .digits a, .digits b => compareDigits a b
  | .digits _, .text _ => .lt
  | .text _, .digits _ => .gt
  | .text a, .text b => compareChars a b

def compareRuns : List Run → List Run → Ordering := List.compareLex compareRun

def compareNames (a b : String) : Ordering := compareRuns (runs a.toList) (runs b.toList)

def le (a b : String) : Bool := compareNames a b != .gt

/-- Sorts by a name; equal names keep their order. -/
def sortBy {α : Type} (name : α → String) (xs : List α) : List α :=
  xs.mergeSort fun a b => le (name a) (name b)

private theorem flatMap_cons (c : Char) (rs : List Run) :
    (Run.cons c rs).flatMap Run.chars = c :: rs.flatMap Run.chars := by
  cases rs with
  | nil => simp only [Run.cons]; split <;> simp [Run.chars]
  | cons r rs =>
    cases r <;> simp only [Run.cons] <;> split <;> simp [Run.chars]

theorem flatMap_runs (s : List Char) : (runs s).flatMap Run.chars = s := by
  induction s with
  | nil => rfl
  | cons c s ih =>
    rw [runs, List.foldr_cons, flatMap_cons]
    exact congrArg (c :: ·) ih

/-- Neighbouring runs differ in kind. -/
def Alternate : List Run → Prop
  | r :: r' :: rs => r.isDigits ≠ r'.isDigits ∧ Alternate (r' :: rs)
  | _ => True

private theorem alternate_cons (c : Char) {rs : List Run} (h : Alternate rs) :
    Alternate (Run.cons c rs) := by
  cases rs with
  | nil => simp only [Run.cons]; split <;> trivial
  | cons r rs =>
    cases rs <;> cases r <;> simp only [Run.cons] <;> split <;>
      simp_all [Alternate, Run.isDigits]

theorem alternate_runs (s : List Char) : Alternate (runs s) := by
  induction s with
  | nil => trivial
  | cons c s ih => exact alternate_cons c ih

end RunPlan.NaturalOrder
