import RunPlan.Template.Syntax
import RunPlan.Text.Split

/-!
Cutting a template into tokens. A marker opens an interpolation or a directive, the first closing
character after it ends it, and everything outside is text.
-/

set_option autoImplicit false

namespace RunPlan.Template

open RunPlan.Text

/-- The three markers that end plain text. -/
inductive Marker
  | interpolation
  | closing
  | directive
  deriving DecidableEq, Repr

namespace Marker

def opening : Marker → List Char
  | .interpolation => ['$', '{']
  | .closing => ['<', '/', '#']
  | .directive => ['<', '#']

def terminator : Marker → Char
  | .interpolation => '}'
  | .closing => '>'
  | .directive => '>'

def at? (s : List Char) : Option (Marker × List Char) :=
  [Marker.interpolation, .closing, .directive].findSome? fun m =>
    (m.opening.isPrefixOf? s).map fun rest => (m, rest)

def unterminated : Marker → Fault
  | .interpolation => .unterminatedInterpolation
  | .closing => .unterminatedClosing
  | .directive => .unterminatedDirective

end Marker

private theorem length_of_isPrefixOf? {p s rest : List Char} (h : p.isPrefixOf? s = some rest) :
    s.length = p.length + rest.length := by
  induction p generalizing s with
  | nil =>
    cases h
    exact (Nat.zero_add _).symm
  | cons a p ih =>
    cases s with
    | nil => cases h
    | cons b s =>
      change (if a == b then p.isPrefixOf? s else none) = some rest at h
      split at h
      · simp only [List.length_cons, ih h]
        omega
      · cases h

private theorem Marker.length_lt {s rest : List Char} {m : Marker}
    (h : Marker.at? s = some (m, rest)) :
    rest.length < s.length := by
  simp only [Marker.at?, List.findSome?_eq_some_iff] at h
  obtain ⟨_, m', _, _, hm, _⟩ := h
  obtain ⟨r, hr, he⟩ := Option.map_eq_some_iff.mp hm
  simp only [Prod.mk.injEq] at he
  obtain ⟨rfl, rfl⟩ := he
  have := length_of_isPrefixOf? hr
  cases m' <;> simp only [Marker.opening, List.length_cons, List.length_nil] at this <;> omega

/-- Reads the inside of a directive: a keyword, and after white space its argument. -/
def Token.ofDirective (directive : List Char) : Except Fault Token :=
  let keyword := directive.takeWhile fun c => !isBlank c
  let argument := trim (directive.dropWhile fun c => !isBlank c)
  match String.ofList keyword, argument.isEmpty with
  | "if", false => .ok (.ifStart argument)
  | "elseif", false => .ok (.elseIf argument)
  | "else", true => .ok .otherwise
  | "list", false => .ok (.listStart argument)
  | _, _ => .error (.unsupportedDirective (String.ofList directive))

def Token.ofInside : Marker → List Char → Except Fault Token
  | .interpolation, inside =>
    if inside.isEmpty then .error .emptyInterpolation else .ok (.interpolation inside)
  | .closing, inside =>
    match String.ofList inside with
    | "if" => .ok .ifEnd
    | "list" => .ok .listEnd
    | name => .error (.unknownClosing name)
  | .directive, inside => Token.ofDirective inside

def Token.consChar (c : Char) : List Token → List Token
  | .text cs :: ts => .text (c :: cs) :: ts
  | ts => .text [c] :: ts

def tokenize (s : List Char) : Except Fault (List Token) :=
  match h : Marker.at? s with
  | some (m, rest) =>
    match hc : cut m.terminator rest with
    | none => .error m.unterminated
    | some (inside, after) =>
      have : after.length < s.length := Nat.lt_trans (length_lt_of_cut hc) (Marker.length_lt h)
      (Token.ofInside m (trim inside)).bind fun t => (tokenize after).map (t :: ·)
  | none =>
    match s with
    | [] => .ok []
    | c :: r => (tokenize r).map (Token.consChar c)
termination_by s.length

end RunPlan.Template
