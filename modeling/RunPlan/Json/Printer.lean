import RunPlan.Json.Basic
import RunPlan.Binary64.Shortest
import RunPlan.Text.Digits
import RunPlan.Text.Split

/-!
Writing JSON, on one line or with an indentation of two spaces for each level.
-/

set_option autoImplicit false

namespace RunPlan.Json

open RunPlan.Text

def escapeChar (c : Char) : List Char :=
  if c = '"' then ['\\', '"']
  else if c = '\\' then ['\\', '\\']
  else if c = '\n' then ['\\', 'n']
  else if c = '\r' then ['\\', 'r']
  else if c = '\t' then ['\\', 't']
  else if c = '\x08' then ['\\', 'b']
  else if c = '\x0c' then ['\\', 'f']
  else if c.toNat < 0x20 then
    ['\\', 'u', '0', '0', hexDigit (c.toNat / 16), hexDigit (c.toNat % 16)]
  else [c]

def stringChars (s : String) : List Char := '"' :: s.toList.flatMap escapeChar ++ ['"']

def Number.chars : Number → List Char
  | .int i => (toString i).toList
  | .float x => x.pointText.toList

mutual

def compactChars : Json → List Char
  | .null => "null".toList
  | .bool b => (if b then "true" else "false").toList
  | .number n => n.chars
  | .string s => stringChars s
  | .array items => '[' :: join [','] (compactItems items) ++ [']']
  | .object members => '\x7b' :: join [','] (compactMembers members) ++ ['\x7d']

def compactItems : List Json → List (List Char)
  | [] => []
  | v :: vs => compactChars v :: compactItems vs

def compactMembers : List (String × Json) → List (List Char)
  | [] => []
  | (k, v) :: ms => (stringChars k ++ ':' :: compactChars v) :: compactMembers ms

end

def compact (j : Json) : String := String.ofList (compactChars j)

def indent (level : Nat) : List Char := List.replicate (2 * level) ' '

private def bracketed (level : Nat) (opening closing : Char) (pieces : List (List Char)) :
    List Char :=
  if pieces.isEmpty then [opening, closing]
  else
    opening :: '\n' :: join [',', '\n'] (pieces.map fun p => indent (level + 1) ++ p) ++
      '\n' :: indent level ++ [closing]

mutual

private def prettyChars (level : Nat) : Json → List Char
  | .array items => bracketed level '[' ']' (prettyItems level items)
  | .object members => bracketed level '\x7b' '\x7d' (prettyMembers level members)
  | v => compactChars v

private def prettyItems (level : Nat) : List Json → List (List Char)
  | [] => []
  | v :: vs => prettyChars (level + 1) v :: prettyItems level vs

private def prettyMembers (level : Nat) : List (String × Json) → List (List Char)
  | [] => []
  | (k, v) :: ms =>
    (stringChars k ++ ':' :: ' ' :: prettyChars (level + 1) v) :: prettyMembers level ms

end

def pretty (j : Json) : String := String.ofList (prettyChars 0 j)

end RunPlan.Json
