import RunPlan.Yaml.Scalar.Gap

/-!
Scalars without quotes. They end before a `: `, before a comment, at a line that is indented too
little, and inside brackets at the characters that brackets give a meaning.
-/

set_option autoImplicit false

namespace RunPlan.Yaml.Plain

/-- Reads one word. Inside brackets a `:` right before a bracket, `,` or `?` is an error. -/
def word (inFlow : Bool) : List Char → Option (List Char × List Char)
  | [] => some ([], [])
  | c :: r =>
    if isGap c then some ([], c :: r)
    else if inFlow && c == ':' && r.head?.any [',', '?', '[', ']', '{', '}'].contains then none
    else if (c == ':' && Cursor.gapOrEnd r.head?) ||
        (inFlow && [',', '[', ']', '{', '}'].contains c) then some ([], c :: r)
    else (word inFlow r).map fun (w, rest) => (c :: w, rest)

/-- The text of a scalar, whether the white space after it reaches into another line, and the
rest. -/
structure Result where
  text : List Char
  broken : Bool
  rest : Cursor

/-- Reads further words; `gap` stands before the next one and counts only if one comes. -/
def readFrom (inFlow : Bool) (margin : Nat) :
    Nat → Cursor → Gap → List Char → Option Result
  | 0, _, _, _ => none
  | fuel + 1, c, gap, text =>
    if c.atDocumentMark || c.peek? = some '#' then some ⟨text, gap.isLines, c⟩
    else do
      let (w, r) ← word inFlow c.rest
      if w.isEmpty then return ⟨text, gap.isLines, c⟩
      let text := text ++ gap.fold ++ w
      let after : Cursor := ⟨r, c.mark.forward w.length⟩
      if !r.head?.any isGap then return ⟨text, false, after⟩
      let (gap, next) ← Gap.read margin (.blanks []) r after.mark
      if !inFlow && next.mark.column < margin then return ⟨text, gap.isLines, next⟩
      readFrom inFlow margin fuel next gap text

/-- Reads a scalar whose further lines start at the column `margin` or right of it. -/
def read (inFlow : Bool) (margin : Nat) (c : Cursor) : Option Result :=
  readFrom inFlow margin (c.rest.length + 1) c (.blanks []) []

end RunPlan.Yaml.Plain
