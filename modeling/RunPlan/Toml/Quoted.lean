import RunPlan.Text.Digits

/-!
Strings of a TOML document: between double quotes a backslash escapes, between single quotes nothing
does. Three quotes let a string go over several lines, of which the first may be empty.
-/

set_option autoImplicit false

namespace RunPlan.Toml

open RunPlan.Text

def isPlain (c : Char) : Bool := c = '\t' || (0x20 ≤ c.toNat && c.toNat ≠ 0x7F)

def isBlank (c : Char) : Bool := c = ' ' || c = '\t'

def lineEnd? : List Char → Option (List Char)
  | '\n' :: r => some r
  | '\r' :: '\n' :: r => some r
  | _ => none

def skipBlank (s : List Char) : List Char := s.dropWhile isBlank

/-- The character with a number of exactly so many hexadecimal digits. -/
def numbered? (width : Nat) (s : List Char) : Option (Char × List Char) :=
  if s.length < width then none
  else (digitsValue? 16 (s.take width)).bind fun n =>
    if h : n.isValidChar then some (Char.ofNatAux n h, s.drop width) else none

def escape? : List Char → Option (Char × List Char)
  | 'b' :: r => some ('\x08', r)
  | 't' :: r => some ('\t', r)
  | 'n' :: r => some ('\n', r)
  | 'f' :: r => some ('\x0c', r)
  | 'r' :: r => some ('\r', r)
  | '"' :: r => some ('"', r)
  | '\\' :: r => some ('\\', r)
  | 'u' :: r => numbered? 4 r
  | 'U' :: r => numbered? 8 r
  | _ => none

def readLine (quote : Char) : Nat → List Char → List Char → Option (String × List Char)
  | 0, _, _ => none
  | _, _, [] => none
  | fuel + 1, done, c :: r =>
    if c = quote then some (String.ofList done.reverse, r)
    else if c = '\\' && quote = '"' then do
      let (e, r) ← escape? r
      readLine quote fuel (e :: done) r
    else if isPlain c then readLine quote fuel (c :: done) r
    else none

def skipGaps : List Char → List Char
  | '\r' :: '\n' :: r => skipGaps r
  | c :: r => if isBlank c || c = '\n' then skipGaps r else c :: r
  | [] => []

/-- The rest behind a line end that a backslash takes away, with the white space around it. -/
def continued? (s : List Char) : Option (List Char) := (lineEnd? (skipBlank s)).map skipGaps

/-- Reads a string over several lines, behind its opening quotes. One or two quotes may stand right
before the closing ones. -/
def readLines (quote : Char) : Nat → List Char → List Char → Option (String × List Char)
  | 0, _, _ => none
  | _, _, [] => none
  | fuel + 1, done, c :: r =>
    if c = quote then
      let count := 1 + (r.takeWhile (· = quote)).length
      if count < 3 then readLines quote fuel (c :: done) r
      else if 5 < count then none
      else
        let text := (List.replicate (count - 3) quote ++ done).reverse
        some (String.ofList text, r.drop (count - 1))
    else if c = '\\' && quote = '"' then
      match continued? r with
      | some r => readLines quote fuel done r
      | none => do
        let (e, r) ← escape? r
        readLines quote fuel (e :: done) r
    else match lineEnd? (c :: r) with
      | some r => readLines quote fuel ('\n' :: done) r
      | none => if isPlain c then readLines quote fuel (c :: done) r else none

def readString (quote : Char) (s : List Char) : Option (String × List Char) :=
  match s with
  | a :: b :: c :: r =>
    if a = quote && b = quote && c = quote then
      readLines quote (r.length + 1) [] ((lineEnd? r).getD r)
    else if a = quote then readLine quote (s.length + 1) [] (b :: c :: r)
    else none
  | a :: r => if a = quote then readLine quote (s.length + 1) [] r else none
  | [] => none

end RunPlan.Toml
