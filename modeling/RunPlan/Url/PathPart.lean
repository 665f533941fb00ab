import RunPlan.Url.Percent
import RunPlan.Text.Split

/-!
The path of a URL, read segment by segment: `.` and `..` are worked off, and in file URLs the
letter of a drive is never taken away.
-/

set_option autoImplicit false

namespace RunPlan.Url.PathPart

open RunPlan.Text

/-- A letter and `:` or `|`, at the end of the text or in front of a separator. -/
def startsWithDrive : List Char → Bool
  | c :: d :: r =>
    c.isAlpha && (d = ':' || d = '|') && r.head?.all (['/', '\\', '?', '#'].contains ·)
  | _ => false

def isDrive (s : List Char) : Bool := s.length = 2 && startsWithDrive s

def isNormalDrive (s : List Char) : Bool := isDrive s && s.getLast? = some ':'

def isDot (s : List Char) : Bool := [".", "%2e"].contains (String.ofList (s.map Char.toLower))

def isDotDot (s : List Char) : Bool :=
  ["..", ".%2e", "%2e.", "%2e%2e"].contains (String.ofList (s.map Char.toLower))

def cutSegment (path : List Char) : List Char × List Char :=
  match cutLast '/' path with
  | some (front, last) => (front ++ ['/'], last)
  | none => ([], path)

/-- Takes the `/` at the end away, unless it is the only one or belongs to a drive. -/
def dropSlash (path : List Char) : List Char :=
  if path.getLast? = some '/' then
    match cutLast '/' path.dropLast with
    | some (_, last) => if startsWithDrive (last ++ ['/']) then path else path.dropLast
    | none => path
  else path

def shorten (isFile : Bool) (path : List Char) : List Char :=
  if isFile && isNormalDrive path then path
  else
    let (front, last) := cutSegment path
    if isFile && isNormalDrive last then path else front

def closed (path : List Char) : List Char :=
  if path.getLast? = some '/' then path else path ++ ['/']

/-- Adds one encoded segment; `slash` says whether a `/` follows it. -/
def push (isFile : Bool) (path segment : List Char) (slash : Bool) : List Char :=
  let ending := if slash then ['/'] else []
  if isDotDot segment then
    let shorter := shorten isFile (dropSlash path)
    if slash then closed shorter else shorter
  else if isDot segment then closed path
  else if isFile && path.length = 1 && isDrive segment then
    path ++ segment.take 1 ++ [':'] ++ ending
  else path ++ segment ++ ending

/-- Reads the segments that follow a path up to a query or a fragment. -/
def readFrom (special isFile : Bool) :
    Nat → List Char → List Char → List Char × List Char
  | 0, path, s => (path, s)
  | fuel + 1, path, s =>
    let isEnd (c : Char) : Bool := c = '/' || (special && c = '\\') || c = '?' || c = '#'
    let segment := encode inPathSet (s.takeWhile fun c => !isEnd c)
    match s.dropWhile fun c => !isEnd c with
    | c :: r =>
      if c = '?' || c = '#' then (push isFile path segment false, c :: r)
      else readFrom special isFile fuel (push isFile path segment true) r
    | [] => (push isFile path segment false, [])

def read (special isFile : Bool) (start s : List Char) : List Char × List Char :=
  readFrom special isFile (s.length + 1) start s

end RunPlan.Url.PathPart
