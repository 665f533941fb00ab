import RunPlan.Template.Syntax
import RunPlan.Text.Split
import RunPlan.Text.Alphanumeric

/-!
The small expressions inside tokens: variable names, quoted literals, interpolations, conditions
and loop headers.
-/

set_option autoImplicit false

namespace RunPlan.Template

open RunPlan.Text

/-- The characters of variable names: letters and numbers of all scripts, `_`, `-` and `.`. -/
def isNameChar (c : Char) : Bool :=
  isAlphanumeric c || c == '_' || c == '-' || c == '.'

def readName (s : List Char) : Except Fault String :=
  let name := trim s
  if !name.isEmpty && name.all isNameChar then .ok (String.ofList name)
  else .error (.invalidName (String.ofList name))

/-- The inside of a text that a quote opens and the same quote, written again, closes. -/
def unquote? (quote : Char) (s : List Char) : Option (List Char) :=
  ([quote].isPrefixOf? s).bind fun rest =>
    if rest.getLast? = some quote then some rest.dropLast else none

/-- A literal in double or single quotes, with white space around it left out. -/
def readLiteral? (s : List Char) : Option String :=
  ((unquote? '"' (trim s)).or (unquote? '\'' (trim s))).map String.ofList

def readLiteral (s : List Char) : Except Fault String :=
  match readLiteral? s with
  | some literal => .ok literal
  | none => .error (.missingLiteral (String.ofList (trim s)))

/-- An interpolation: a name, and after the first `!` the text for an undefined variable, quoted
or not. -/
def readInterpolation (s : List Char) : Except Fault Node :=
  match cut '!' s with
  | some (name, default) =>
    (readName name).map fun n =>
      .interpolation n (some ((readLiteral? default).getD (String.ofList (trim default))))
  | none => (readName s).map fun n => .interpolation n none

def dropExistence (s : List Char) : List Char :=
  (go s.reverse).reverse
where
  /-- The same at the start of the reversed text. -/
  go : List Char → List Char
    | '?' :: '?' :: r => go r
    | r => r

/-- A condition: `name != "literal"`, `name == "literal"`, `!name`, or `name`, which may carry
`??`. -/
def readCondition (s : List Char) : Except Fault Condition :=
  match cutAt ['!', '='] s with
  | some (name, literal) => do
    let name ← readName name
    let literal ← readLiteral literal
    return .differs name literal
  | none =>
    match cutAt ['=', '='] s with
    | some (name, literal) => do
      let name ← readName name
      let literal ← readLiteral literal
      return .equals name literal
    | none =>
      match ['!'].isPrefixOf? (trim s) with
      | some name => (readName name).map .falsy
      | none => (readName (dropExistence (trim s))).map .truthy

/-- A loop header: a source, the word `as` and the name of the item. -/
def readListHeader (s : List Char) : Except Fault (String × String) :=
  match words s with
  | [source, ['a', 's'], item] => do
    let source ← readName source
    let item ← readName item
    return (source, item)
  | _ => .error (.badListHeader (String.ofList s))

end RunPlan.Template
