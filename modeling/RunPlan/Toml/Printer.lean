import RunPlan.Toml.Basic
import RunPlan.Text.Digits
import RunPlan.Text.Split

/-!
Writing TOML: strings in the quotes that need the fewest escapes, and longer arrays over several
lines.
-/

set_option autoImplicit false

namespace RunPlan.Toml

open RunPlan.Text

def needsEscape (c : Char) : Bool := (c.toNat < 0x20 && c ≠ '\t' && c ≠ '\n') || c.toNat = 0x7F

def quoteRun (s : List Char) : Nat :=
  (s.foldl (fun (longest, run) c =>
    if c = '\'' then (max longest (run + 1), run + 1) else (longest, 0)) (0, 0)).1

/-- Whether a string is written as it stands: there is something to escape, and nothing that has to
be. A single quote at the end would run into the closing ones. -/
def isLiteral (s : List Char) : Bool :=
  s.any (fun c => c = '"' || c = '\\') && !s.any needsEscape && quoteRun s < 3 &&
    s.getLast? ≠ some '\''

def escapeChar (multiline : Bool) (c : Char) : List Char :=
  if c = '\x08' then ['\\', 'b']
  else if c = '\t' then ['\\', 't']
  else if c = '\n' then if multiline then ['\n'] else ['\\', 'n']
  else if c = '\x0c' then ['\\', 'f']
  else if c = '\r' then ['\\', 'r']
  else if c = '"' then ['\\', '"']
  else if c = '\\' then ['\\', '\\']
  else if c.toNat < 0x20 || c.toNat = 0x7F then '\\' :: 'u' :: upperHexDigits 4 c.toNat
  else [c]

/-- A string. One with line ends goes over several lines. -/
def stringChars (s : List Char) : List Char :=
  let multiline := s.contains '\n'
  if isLiteral s then
    let quotes := List.replicate (if multiline || s.contains '\'' then 3 else 1) '\''
    quotes ++ (if multiline then ['\n'] else []) ++ s ++ quotes
  else
    let quotes := List.replicate (if multiline then 3 else 1) '"'
    quotes ++ (if multiline then ['\n'] else []) ++ s.flatMap (escapeChar multiline) ++ quotes

def stringText (s : String) : String := String.ofList (stringChars s.toList)

/-- A list of strings. Two or more stand on lines of their own. -/
def stringsText (items : List String) : String :=
  match items with
  | [] => "[]"
  | [item] => "[" ++ stringText item ++ "]"
  | items => "[\n" ++ String.join (items.map fun i => "    " ++ stringText i ++ ",\n") ++ "]"

def assignment (key value : String) : String := key ++ " = " ++ value ++ "\n"

end RunPlan.Toml
