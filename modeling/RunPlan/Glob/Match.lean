import RunPlan.Glob.Pattern

/-!
Matching a path against a pattern: every token leaves some rests of the path, and the pattern
matches when nothing may be left at its end.
-/

set_option autoImplicit false

namespace RunPlan.Glob

def Member.holds (c : Char) : Member → Bool
  | .single d => c == d
  | .range lo hi => lo ≤ c && c ≤ hi

def afterRun : List Char → List (List Char)
  | [] => [[]]
  | c :: r => (c :: r) :: if c = '/' then [] else afterRun r

def afterDirectories : List Char → List (List Char)
  | [] => [[]]
  | c :: r => if c = '/' then r :: afterDirectories r else afterDirectories r

def afterChar (p : Char → Bool) : List Char → List (List Char)
  | [] => []
  | c :: r => if p c then [r] else []

def Token.rests : Token → List Char → List (List Char)
  | .char c, s => afterChar (· == c) s
  | .anyChar, s => afterChar (· != '/') s
  | .within ms, s => afterChar (fun c => c != '/' && ms.any (Member.holds c)) s
  | .except ms, s => afterChar (fun c => c != '/' && !ms.any (Member.holds c)) s
  | .anySequence, s => afterRun s
  | .anyDirectories, s => s :: afterDirectories s

def matchesChars : List Token → List Char → Bool
  | [], s => s.isEmpty
  | t :: ts, s => (t.rests s).any (matchesChars ts)

def Matches (pattern : List Token) (path : String) : Bool := matchesChars pattern path.toList

end RunPlan.Glob
