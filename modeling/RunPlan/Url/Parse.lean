import RunPlan.Url.Basic
import RunPlan.Url.PathPart

/-!
Reading URLs: the scheme decides which form the rest has.
-/

set_option autoImplicit false

namespace RunPlan.Url

open RunPlan.Text

/-- The text without what does not count: control characters and spaces around it, tabs and line
ends anywhere. -/
def significant (s : List Char) : List Char :=
  let outside (c : Char) : Bool := c.toNat ≤ 0x20
  let trimmed := ((s.dropWhile outside).reverse.dropWhile outside).reverse
  trimmed.filter fun c => !(['\t', '\n', '\r'].contains c)

def readScheme? (s : List Char) : Option (String × List Char) :=
  match cut ':' s with
  | some (name, rest) =>
    if name.head?.any Char.isAlpha &&
        name.all fun c => c.isAlphanum || c = '+' || c = '-' || c = '.' then
      some (String.ofList (name.map Char.toLower), rest)
    else none
  | none => none

def readEnd (special : Bool) (s : List Char) : Option (List Char) × Option (List Char) :=
  match s with
  | '?' :: r =>
    let query := encode (inQuerySet special) (r.takeWhile (· ≠ '#'))
    match r.dropWhile (· ≠ '#') with
    | _ :: f => (some query, some (encode inFragmentSet f))
    | [] => (some query, none)
  | '#' :: f => (none, some (encode inFragmentSet f))
  | _ => (none, none)

private def endsAuthority (special : Bool) (c : Char) : Bool :=
  c = '/' || c = '?' || c = '#' || (special && c = '\\')

/-- Encodes name and password. A password that is empty is left out. -/
private def encodeUser (s : List Char) : List Char :=
  match cut ':' s with
  | some (name, password) =>
    encode inUserSet name ++
      (if password.isEmpty then [] else ':' :: encode inUserSet password)
  | none => encode inUserSet s

private def readUser (special : Bool) (s : List Char) : Except Fault (List Char × List Char) :=
  let authority := s.takeWhile fun c => !endsAuthority special c
  match cutLast '@' authority with
  | none => .ok ([], s)
  | some (user, _) =>
    let rest := s.drop (user.length + 1)
    if user.isEmpty && rest.head?.any (endsAuthority special) then .error .emptyHost
    else .ok (encodeUser user, rest)

/-- The text of the host; a `:` between brackets belongs to it. -/
private def hostChars (special : Bool) : Bool → List Char → List Char
  | _, [] => []
  | inside, c :: r =>
    if (c = ':' && !inside) || endsAuthority special c then []
    else c :: hostChars special (if c = '[' then true else if c = ']' then false else inside) r

/-- Reads the digits of the number behind the host, up to the path. -/
private def readPortNumber (scheme : String) (s : List Char) :
    Except Fault (Option Nat × List Char) :=
  let ds := s.takeWhile Char.isDigit
  let rest := s.dropWhile Char.isDigit
  let number := ds.foldl (fun n d => 10 * n + (d.toNat - '0'.toNat)) 0
  if 65535 < number || !rest.head?.all (['/', '\\', '?', '#'].contains ·) then .error .badPortNumber
  else if ds.isEmpty || defaultPortNumber? scheme = some number then .ok (none, rest)
  else .ok (some number, rest)

private def readHost (scheme : String) (s : List Char) :
    Except Fault (Option Host × Option Nat × List Char) := do
  let special := isSpecial scheme
  let name := hostChars special false s
  let rest := s.drop name.length
  if special && name.isEmpty then throw .emptyHost
  let host ← if special then Host.read name else Host.readOpaque name
  if name.isEmpty && rest.head? = some ':' then throw .emptyHost
  let host? := if host = .domain "" then none else some host
  match rest with
  | ':' :: r => do
    let (portNumber?, rest) ← readPortNumber scheme r
    return (host?, portNumber?, rest)
  | rest => return (host?, none, rest)

private def readPath (special : Bool) (s : List Char) : List Char × List Char :=
  match s with
  | '/' :: r => PathPart.read special false ['/'] r
  | '\\' :: r =>
    if special then PathPart.read special false ['/'] r
    else PathPart.read special false ['/'] ('\\' :: r)
  | '?' :: _ | '#' :: _ | [] => if special then (['/'], s) else ([], s)
  | s => PathPart.read special false ['/'] s

private def readAuthority (scheme : String) (s : List Char) : Except Fault Url := do
  let special := isSpecial scheme
  let (user, rest) ← readUser special s
  let (host?, portNumber?, rest) ← readHost scheme rest
  if host?.isNone && !user.isEmpty then throw .emptyHost
  let (path, rest) := readPath special rest
  let (query?, fragment?) := readEnd special rest
  return ⟨scheme, some ⟨user, host?, portNumber?⟩, path, query?, fragment?⟩

/-- Reads what follows the scheme of a URL that is not of the web. -/
private def readOther (scheme : String) (s : List Char) : Except Fault Url :=
  match s with
  | '/' :: '/' :: r => readAuthority scheme r
  | '/' :: r =>
    let (path, rest) := PathPart.read false false ['/'] r
    let (query?, fragment?) := readEnd false rest
    .ok ⟨scheme, none, path, query?, fragment?⟩
  | s =>
    let isEnd (c : Char) : Bool := c = '?' || c = '#'
    let path := encode isControl (s.takeWhile fun c => !isEnd c)
    let (query?, fragment?) := readEnd false (s.dropWhile fun c => !isEnd c)
    .ok ⟨scheme, none, path, query?, fragment?⟩

def isSlash (c : Char) : Bool := c = '/' || c = '\\'

/-- The host of a file URL. This computer has no name, and a drive needs no host. -/
private def readFileHost (s : List Char) : Except Fault (Option Host × List Char) := do
  let name := s.takeWhile fun c => !endsAuthority true c
  if PathPart.isDrive name then return (none, s)
  else if name.isEmpty then return (none, s)
  else
    let host ← Host.read name
    return (if host = .domain "localhost" then none else some host, s.drop name.length)

/-- Reads what follows the scheme of a file URL. Its path starts with one `/`. -/
def readFile (s : List Char) : Except Fault Url := do
  let (host?, rest) ← match s with
    | a :: b :: r => if isSlash a && isSlash b then readFileHost r else pure (none, s)
    | s => pure (none, s)
  let rest := match rest with
    | c :: r => if isSlash c then r else c :: r
    | [] => []
  let (path, rest) := PathPart.read true true ['/'] rest
  let host? := if PathPart.startsWithDrive (path.drop 1) then none else host?
  let (query?, fragment?) := readEnd true rest
  return ⟨"file", some ⟨[], host?, none⟩, '/' :: path.dropWhile (· = '/'), query?, fragment?⟩

def parse (text : String) : Except Fault Url :=
  match readScheme? (significant text.toList) with
  | none => .error .noBase
  | some ("file", rest) => readFile rest
  | some (scheme, rest) =>
    if isSpecial scheme then readAuthority scheme (rest.dropWhile isSlash)
    else readOther scheme rest

/-- The bytes of the path of a file on this computer. The letter of a drive at the end keeps its
`/`. -/
def filePath? (u : Url) : Option (List UInt8) :=
  match u.authority?.bind Authority.host?, u.path with
  | none, '/' :: r =>
    let bytes := (split '/' r).flatMap fun segment => bytesOf ['/'] ++ decode segment
    match bytes.reverse with
    | d :: c :: _ :: _ =>
      let letter := (0x41 ≤ c && c ≤ 0x5A) || (0x61 ≤ c && c ≤ 0x7A)
      some (if letter && (d = 0x3A || d = 0x7C) then bytes ++ bytesOf ['/'] else bytes)
    | _ => some bytes
  | _, _ => none

end RunPlan.Url
