import RunPlan.Binary64.Basic

/-!
The values of YAML documents, and when two of them are the same key.
-/

set_option autoImplicit false

namespace RunPlan.Yaml

/-- A number: an integer of at most 64 bits, or a floating-point number. -/
inductive Number
  | int (i : Int)
  | float (x : Binary64)
  deriving DecidableEq, Repr

/-- The same number; an integer is never the same as a floating-point number. -/
def Number.same : Number → Number → Bool
  | .int i, .int j => i == j
  | .float x, .float y => x.same y
  | _, _ => false

/-- A value. The entries of a mapping stand in the order of the document. -/
inductive Value
  | null
  | bool (b : Bool)
  | number (n : Number)
  | string (s : String)
  | sequence (items : List Value)
  | mapping (entries : List (Value × Value))
  | tagged (tag : String) (value : Value)
  deriving Repr, Inhabited

abbrev Mapping := List (Value × Value)

def bareTag (tag : String) : String :=
  match tag.toList with
  | '!' :: c :: r => String.ofList (c :: r)
  | _ => tag

mutual

/-- The same value. The order of the entries of a mapping does not matter. -/
def Value.same : Value → Value → Bool
  | .null, .null => true
  | .bool b, .bool b' => b == b'
  | .number n, .number n' => n.same n'
  | .string s, .string s' => s == s'
  | .sequence items, .sequence items' => sameItems items items'
  | .mapping es, .mapping es' => es.length == es'.length && sameEntries es es'
  | .tagged t v, .tagged t' v' => bareTag t == bareTag t' && v.same v'
  | _, _ => false

def sameItems : List Value → List Value → Bool
  | [], [] => true
  | v :: vs, v' :: vs' => v.same v' && sameItems vs vs'
  | _, _ => false

def sameEntries : List (Value × Value) → List (Value × Value) → Bool
  | [], _ => true
  | (k, v) :: es, es' => es'.any (fun e => k.same e.1 && v.same e.2) && sameEntries es es'

end

namespace Mapping

def get? (m : Mapping) (key : Value) : Option Value :=
  (m.find? fun e => key.same e.1).map Prod.snd

def getText? (m : Mapping) (key : String) : Option Value := get? m (.string key)

def hasKey (m : Mapping) (key : Value) : Bool := m.any fun e => key.same e.1

def erase (m : Mapping) (key : Value) : Mapping := m.filter fun e => !key.same e.1

/-- No two entries have the same key. -/
def DistinctKeys (m : Mapping) : Prop := m.Pairwise fun a b => b.1.same a.1 = false

end Mapping

end RunPlan.Yaml
