import RunPlan.Text.Property
import RunPlan.Text.Script

/-!
Names of sets of characters in regular expressions: general categories, scripts and properties.
Small and capital letters are the same in them, and spaces, `_`, `-` and an `is` in front count for
nothing.
-/

set_option autoImplicit false

namespace RunPlan.Regex.Property

open RunPlan.Text

private def canonical (name : List Char) : String :=
  let kept := (name.filter fun c => c.toNat ≤ 0x7F && !(c == ' ' || c == '_' || c == '-')).map
    Char.toLower
  let starts := (name.take 2).map Char.toLower = ['i', 's']
  let bare := if starts then kept.drop 2 else kept
  -- The abbreviation of a property that has no set keeps its start.
  if starts && bare = ['c'] then "isc" else String.ofList bare

def categories : List (List String × Category) :=
  [(["lu", "uppercaseletter"], .uppercaseLetter), (["ll", "lowercaseletter"], .lowercaseLetter),
    (["lt", "titlecaseletter"], .titlecaseLetter), (["lm", "modifierletter"], .modifierLetter),
    (["lo", "otherletter"], .otherLetter), (["mn", "nonspacingmark"], .nonspacingMark),
    (["mc", "spacingmark"], .spacingMark), (["me", "enclosingmark"], .enclosingMark),
    (["nd", "decimalnumber", "digit"], .decimalNumber), (["nl", "letternumber"], .letterNumber),
    (["no", "othernumber"], .otherNumber), (["pc", "connectorpunctuation"], .connectorPunctuation),
    (["pd", "dashpunctuation"], .dashPunctuation), (["ps", "openpunctuation"], .openPunctuation),
    (["pe", "closepunctuation"], .closePunctuation),
    (["pi", "initialpunctuation"], .initialPunctuation),
    (["pf", "finalpunctuation"], .finalPunctuation),
    (["po", "otherpunctuation"], .otherPunctuation), (["sm", "mathsymbol"], .mathSymbol),
    (["sc", "currencysymbol"], .currencySymbol), (["sk", "modifiersymbol"], .modifierSymbol),
    (["so", "othersymbol"], .otherSymbol), (["zs", "spaceseparator"], .spaceSeparator),
    (["zl", "lineseparator"], .lineSeparator), (["zp", "paragraphseparator"], .paragraphSeparator),
    (["cc", "control", "cntrl"], .control), (["cf", "format"], .format),
    (["cs", "surrogate"], .surrogate), (["co", "privateuse"], .privateUse),
    (["cn", "unassigned"], .unassigned)]

private def categoryGroups : List (List String × List Category) :=
  [(["l", "letter"],
      [.uppercaseLetter, .lowercaseLetter, .titlecaseLetter, .modifierLetter, .otherLetter]),
    (["lc", "casedletter"], [.uppercaseLetter, .lowercaseLetter, .titlecaseLetter]),
    (["m", "mark", "combiningmark"], [.nonspacingMark, .spacingMark, .enclosingMark]),
    (["n", "number"], [.decimalNumber, .letterNumber, .otherNumber]),
    (["p", "punctuation", "punct"],
      [.connectorPunctuation, .dashPunctuation, .openPunctuation, .closePunctuation,
        .initialPunctuation, .finalPunctuation, .otherPunctuation]),
    (["s", "symbol"], [.mathSymbol, .currencySymbol, .modifierSymbol, .otherSymbol]),
    (["z", "separator"], [.spaceSeparator, .lineSeparator, .paragraphSeparator]),
    (["c", "other"], [.control, .format, .surrogate, .privateUse, .unassigned])]

private def category? (name : String) : Option Ranges :=
  if name = "any" then some [(0, maxCode)]
  else if name = "assigned" then some (Ranges.complement maxCode (Category.ranges .unassigned))
  else if name = "ascii" then some [(0, 0x7F)]
  else match categories.find? fun (names, _) => names.contains name with
    | some (_, c) => some c.ranges
    | none => (categoryGroups.find? fun (names, _) => names.contains name).map fun (_, cs) =>
      Ranges.unionAll (cs.map Category.ranges)

private def script? (name : String) : Option Ranges :=
  (scripts.find? fun s => s.names.contains name).map Script.ranges

private def binary? (name : String) : Option Ranges :=
  match name with
  | "alphabetic" | "alpha" => some alphabeticRanges
  | "uppercase" | "upper" => some uppercaseRanges
  | "lowercase" | "lower" => some lowercaseRanges
  | "whitespace" | "wspace" | "space" => some blankRanges
  | "asciihexdigit" | "ahex" => some [(0x30, 0x39), (0x41, 0x46), (0x61, 0x66)]
  | "hexdigit" | "hex" => some hexDigitRanges
  | "dash" => some dashRanges
  | "quotationmark" | "qmark" => some quotationMarkRanges
  | "ideographic" | "ideo" => some ideographicRanges
  | "emoji" => some emojiRanges
  | _ => none

def named? (name : List Char) : Option Ranges :=
  let name := canonical name
  match binary? name with
  | some rs => some rs
  | none =>
    match category? name with
    | some rs => some rs
    | none => script? name

/-- The members of the set of all characters that have a value of a property. -/
def valued? (property value : List Char) : Option Ranges :=
  match canonical property with
  | "generalcategory" | "gc" | "category" => category? (canonical value)
  | "script" | "sc" => script? (canonical value)
  | _ => none

end RunPlan.Regex.Property
