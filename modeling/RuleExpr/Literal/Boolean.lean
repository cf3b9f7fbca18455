/-!
Truth values as an operand may write them: `true` or `false` in any mixture of ASCII letter cases.
-/
namespace RuleExpr.Literal

def boolean? (text : List Char) : Option Bool :=
  let lower := text.map Char.toLower
  if lower = ['t', 'r', 'u', 'e'] then some true
  else if lower = ['f', 'a', 'l', 's', 'e'] then some false
  else none

def booleanText (value : Bool) : String :=
  if value then "true" else "false"

end RuleExpr.Literal
