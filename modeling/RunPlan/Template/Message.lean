import RunPlan.Template.Syntax
import RunPlan.Text.Quoted

/-!
The wording of template faults.
-/

set_option autoImplicit false

namespace RunPlan.Template

open RunPlan.Text

def Token.describe : Token → String
  | .text cs => "Text(" ++ quoted (String.ofList cs) ++ ")"
  | .interpolation e => "Interpolation(" ++ quoted (String.ofList e) ++ ")"
  | .ifStart c => "If(" ++ quoted (String.ofList c) ++ ")"
  | .elseIf c => "ElseIf(" ++ quoted (String.ofList c) ++ ")"
  | .otherwise => "Else"
  | .ifEnd => "EndIf"
  | .listStart h => "List(" ++ quoted (String.ofList h) ++ ")"
  | .listEnd => "EndList"

/-- How the token in a place, or its absence, is named in messages. -/
private def Token.describeFound : Option Token → String
  | none => "None"
  | some t => "Some(" ++ t.describe ++ ")"

def Fault.message : Fault → String
  | .unterminatedInterpolation => "unterminated $\x7b expression"
  | .emptyInterpolation => "empty $\x7b\x7d expression"
  | .unterminatedClosing => "unterminated closing directive"
  | .unknownClosing name => "unknown closing directive </#" ++ name ++ ">"
  | .unterminatedDirective => "unterminated directive"
  | .unsupportedDirective directive => "unsupported directive <#" ++ directive ++ ">"
  | .unexpected token => "unexpected " ++ token.describe
  | .unclosedIf found => "<#if> is not closed by </#if>, found " ++ Token.describeFound found
  | .unclosedElse => "<#else> is not closed by </#if>"
  | .unclosedList header => "<#list " ++ header ++ "> is not closed by </#list>"
  | .badListHeader header => "expected <#list name as item>, found <#list " ++ header ++ ">"
  | .invalidName name => "invalid variable name '" ++ name ++ "'"
  | .missingLiteral found => "expected quoted literal, found " ++ found
  | .undefined name => "variable '" ++ name ++ "' is not defined"

end RunPlan.Template
