import RunPlan.Yaml.Scalar.Gap
import RunPlan.Text.Digits

/-!
Scalars in quotes. Inside single quotes a quote is written twice; inside double quotes a backslash
escapes, also a line end.
-/

set_option autoImplicit false

namespace RunPlan.Yaml.Quoted

/-- A character given by its number, in exactly `width` hexadecimal digits. -/
def numbered? (width : Nat) (s : List Char) : Option (Char × Nat) :=
  if s.length < width then none
  else (Text.digitsValue? 16 (s.take width)).bind fun n =>
    if h : n.isValidChar then some (Char.ofNatAux n h, width + 2) else none

/-- What the text behind a backslash stands for, and how many characters the escape has. -/
def escape? : List Char → Option (Char × Nat)
  | '0' :: _ => some ('\x00', 2)
  | 'a' :: _ => some ('\x07', 2)
  | 'b' :: _ => some ('\x08', 2)
  | 't' :: _ => some ('\t', 2)
  | '\t' :: _ => some ('\t', 2)
  | 'n' :: _ => some ('\n', 2)
  | 'v' :: _ => some ('\x0b', 2)
  | 'f' :: _ => some ('\x0c', 2)
  | 'r' :: _ => some ('\r', 2)
  | 'e' :: _ => some ('\x1b', 2)
  | ' ' :: _ => some (' ', 2)
  | '"' :: _ => some ('"', 2)
  | '/' :: _ => some ('/', 2)
  | '\\' :: _ => some ('\\', 2)
  | 'N' :: _ => some ('\u0085', 2)
  | '_' :: _ => some ('\u00a0', 2)
  | 'L' :: _ => some ('\u2028', 2)
  | 'P' :: _ => some ('\u2029', 2)
  | 'x' :: r => numbered? 2 r
  | 'u' :: r => numbered? 4 r
  | 'U' :: r => numbered? 8 r
  | _ => none

/-- Reads up to the closing quote; `text` holds what was read, the last character first. -/
def readFrom (quote : Char) : Nat → Cursor → List Char → Option (List Char × Cursor)
  | 0, _, _ => none
  | fuel + 1, c, text =>
    if c.atDocumentMark then none
    else match c.rest with
      | [] => none
      | d :: r =>
        if d = quote then
          if quote = '\'' && r.head? = some quote then
            readFrom quote fuel (c.skip 2) (quote :: text)
          else some (text.reverse, c.skip 1)
        else if isGap d then do
          let (gap, next) ← Gap.read 0 (.blanks []) c.rest c.mark
          readFrom quote fuel next (gap.fold.reverse ++ text)
        else if quote = '"' && d = '\\' then
          match (c.skip 1).lineEnd? with
          | some (_, next) => do
            let (gap, next) ← Gap.read 0 (.lines none []) next.rest next.mark
            readFrom quote fuel next (gap.fold.reverse ++ text)
          | none => do
            let (e, width) ← escape? r
            readFrom quote fuel (c.skip width) (e :: text)
        else readFrom quote fuel (c.skip 1) (d :: text)

def read (quote : Char) (c : Cursor) : Option (List Char × Cursor) :=
  readFrom quote (c.rest.length + 1) (c.skip 1) []

end RunPlan.Yaml.Quoted
