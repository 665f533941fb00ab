/-!
The tokens of a document. Blocks that only indentation shows have start and end tokens of their
own, so that the order of the tokens alone gives the nesting.
-/

set_option autoImplicit false

namespace RunPlan.Yaml

/-- A token. A tag is a handle and a suffix; both the suffix and the text that a handle stands for
are bytes, because escapes in them may spell any. -/
inductive Token
  | version (major minor : Nat)
  | tagHandle (handle : String) (bytes : List UInt8)
  | documentStart
  | documentEnd
  | blockSequenceStart
  | blockMappingStart
  | blockEnd
  | flowSequenceStart
  | flowSequenceEnd
  | flowMappingStart
  | flowMappingEnd
  | blockEntry
  | flowEntry
  | key
  | value
  | reference (name : String)
  | anchor (name : String)
  | tag (handle : String) (suffix : List UInt8)
  | scalar (text : String) (plain : Bool)
  deriving DecidableEq, Repr

end RunPlan.Yaml
