import RunPlan.Yaml.Char

/-!
The white space between two words of a scalar. Inside one line it stands for itself; across lines a
single line end becomes a space, and of several the first is dropped.
-/

set_option autoImplicit false

namespace RunPlan.Yaml

/-- White space read so far: inside one line, or from some line end on. The first line end is
missing when it was escaped. -/
inductive Gap
  | blanks (cs : List Char)
  | lines (first : Option Char) (more : List Char)
  deriving DecidableEq, Repr

namespace Gap

private def breakLine : Gap → Char → Gap
  | .blanks _, e => .lines (some e) []
  | .lines first more, e => .lines first (more ++ [e])

def isLines : Gap → Bool
  | .blanks _ => false
  | .lines .. => true

def fold : Gap → List Char
  | .blanks cs => cs
  | .lines (some '\n') [] => [' ']
  | .lines (some '\n') more => more
  | .lines first more => first.toList ++ more

def lineEnd (e : Char) : Char := if e = '\u2028' || e = '\u2029' then e else '\n'

/-- Reads on to the end of the white space. On a continued line no tab may stand left of the
column `margin`. -/
def read (margin : Nat) : Gap → List Char → Mark → Option (Gap × Cursor)
  | g, '\r' :: '\n' :: r, m => read margin (g.breakLine '\n') r (m.nextLine 2)
  | g, c :: r, m =>
    if isBlank c then
      match g with
      | .blanks cs => read margin (.blanks (cs ++ [c])) r (m.forward 1)
      | .lines .. =>
        if c = '\t' && m.column < margin then none else read margin g r (m.forward 1)
    else if isBreak c then read margin (g.breakLine (lineEnd c)) r (m.nextLine 1)
    else some (g, ⟨c :: r, m⟩)
  | g, [], m => some (g, ⟨[], m⟩)

end Gap

end RunPlan.Yaml
