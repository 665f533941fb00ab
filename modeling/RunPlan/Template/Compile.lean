import RunPlan.Template.Token
import RunPlan.Template.Expression

/-!
From tokens to a node tree. The tokens are read once, left to right, with a stack of the
directives that are still open; a token that ends a directive belongs to the innermost one.
-/

set_option autoImplicit false

namespace RunPlan.Template

/-- A directive that is still open, with the nodes that stand before it in its block. -/
inductive Frame
  | branch (done : List (Condition × List Node)) (condition : Condition) (outer : List Node)
  | otherwise (branches : List (Condition × List Node)) (outer : List Node)
  | loop (header : List Char) (source item : String) (outer : List Node)
  deriving Repr

/-- The fault of a token, or of the end of the template, that does not end the open directive. -/
private def Frame.unclosed : Frame → Option Token → Fault
  | .branch .., found => .unclosedIf found
  | .otherwise .., _ => .unclosedElse
  | .loop header .., _ => .unclosedList (String.ofList header)

/-- The fault of a token that ends a block in which it has no place. -/
private def misplaced (stack : List Frame) (t : Token) : Fault :=
  match stack with
  | [] => .unexpected t
  | f :: _ => f.unclosed (some t)

/-- Reads the remaining tokens; `nodes` are those read so far of the innermost open block. -/
def nest : List Token → List Frame → List Node → Except Fault (List Node)
  | [], [], nodes => .ok nodes
  | [], f :: _, _ => .error (f.unclosed none)
  | .text cs :: ts, stack, nodes => nest ts stack (nodes ++ [.text (String.ofList cs)])
  | .interpolation e :: ts, stack, nodes => do
    let node ← readInterpolation e
    nest ts stack (nodes ++ [node])
  | .ifStart c :: ts, stack, nodes => do
    let condition ← readCondition c
    nest ts (.branch [] condition nodes :: stack) []
  | .listStart h :: ts, stack, nodes => do
    let (source, item) ← readListHeader h
    nest ts (.loop h source item nodes :: stack) []
  | .elseIf c :: ts, .branch done condition outer :: stack, nodes => do
    let next ← readCondition c
    nest ts (.branch (done ++ [(condition, nodes)]) next outer :: stack) []
  | .otherwise :: ts, .branch done condition outer :: stack, nodes =>
    nest ts (.otherwise (done ++ [(condition, nodes)]) outer :: stack) []
  | .ifEnd :: ts, .branch done condition outer :: stack, nodes =>
    nest ts stack (outer ++ [.choice (done ++ [(condition, nodes)]) []])
  | .ifEnd :: ts, .otherwise branches outer :: stack, nodes =>
    nest ts stack (outer ++ [.choice branches nodes])
  | .listEnd :: ts, .loop _ source item outer :: stack, nodes =>
    nest ts stack (outer ++ [.loop source item nodes])
  | t :: _, stack, _ => .error (misplaced stack t)

def compile (source : String) : Except Fault (List Node) := do
  let tokens ← tokenize source.toList
  nest tokens [] []

end RunPlan.Template
