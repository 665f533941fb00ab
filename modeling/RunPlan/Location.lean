import RunPlan.Url.Parse
import RunPlan.Error

/-!
Locations: a path below one of the class path roots, a file URL, or a path as it stands.
-/

set_option autoImplicit false

namespace RunPlan

open RunPlan.Text

/-- What a location means. A file URL may name bytes that are no text; no file has such a name
here. -/
inductive Location
  | classpath (relative : String)
  | file (path : Path)
  | undecodable (shown : String)
  deriving DecidableEq, Repr

namespace Location

def classpathMark : List Char := "classpath:".toList

def fileMark : List Char := "file:".toList

/-- Whether a text starts with a scheme and `:`. A single letter is a drive and no scheme. -/
def hasScheme (s : List Char) : Bool :=
  match cut ':' s with
  | some (scheme, _) =>
    1 < scheme.length && scheme.head?.any Char.isAlpha &&
      scheme.all fun c => c.isAlphanum || c = '+' || c = '-' || c = '.'
  | none => false

def ofUrl (location : String) : Except LoadError Location :=
  match Url.parse location with
  | .error fault => .error (.locationNotFound location (.badUrl fault))
  | .ok url =>
    match url.filePath? with
    | none => .error (.locationNotFound location .missing)
    | some bytes =>
      match ofBytes? bytes with
      | some path => .ok (.file ⟨path⟩)
      | none => .ok (.undecodable (shown bytes))

def parse (location : String) : Except LoadError Location :=
  match classpathMark.isPrefixOf? location.toList with
  | some rest => .ok (.classpath (String.ofList (rest.dropWhile (· = '/'))))
  | none =>
    match fileMark.isPrefixOf? location.toList with
    | some rest =>
      if rest.head? = some '/' then ofUrl location else .ok (.file ⟨String.ofList rest⟩)
    | none =>
      if hasScheme location.toList then .error (.locationNotFound location .unsupportedScheme)
      else .ok (.file ⟨location⟩)

end Location

end RunPlan
