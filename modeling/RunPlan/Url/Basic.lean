import RunPlan.Url.Host

/-!
URLs in their normal form, and how they are written.
-/

set_option autoImplicit false

namespace RunPlan

open RunPlan.Text

namespace Url

/-- What a URL says about whom to talk to. `user` is encoded and holds the password too. -/
structure Authority where
  user : List Char
  host? : Option Host
  portNumber? : Option Nat
  deriving Repr

def Authority.chars (a : Authority) : List Char :=
  ['/', '/'] ++ (if a.user.isEmpty then [] else a.user ++ ['@']) ++
    (a.host?.map fun h => h.text.toList).getD [] ++
    (a.portNumber?.map fun p => ':' :: (toString p).toList).getD []

end Url

/-- A URL. Path, query and fragment are encoded. -/
structure Url where
  scheme : String
  authority? : Option Url.Authority
  path : List Char
  query? : Option (List Char)
  fragment? : Option (List Char)
  deriving Repr

namespace Url

/-- How a path is written. Without an authority two slashes at its start must not look like one. -/
private def pathChars (u : Url) : List Char :=
  match u.authority?, u.path with
  | none, '/' :: '/' :: r => ['/', '.', '/', '/'] ++ r
  | _, path => path

def target (u : Url) : String :=
  String.ofList (u.pathChars ++ (u.query?.map ('?' :: ·)).getD [])

def text (u : Url) : String :=
  u.scheme ++ ":" ++ String.ofList ((u.authority?.map Authority.chars).getD []) ++ u.target ++
    String.ofList ((u.fragment?.map ('#' :: ·)).getD [])

/-- Schemes of the web and of files, for which some rules are stricter. -/
def isSpecial (scheme : String) : Bool :=
  ["http", "https", "ws", "wss", "ftp", "file"].contains scheme

def defaultPortNumber? (scheme : String) : Option Nat :=
  match scheme with
  | "http" | "ws" => some 80
  | "https" | "wss" => some 443
  | "ftp" => some 21
  | _ => none

end Url

end RunPlan
