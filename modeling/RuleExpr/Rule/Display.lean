import RuleExpr.Rule
import RuleExpr.Text.Shown
/-!
A rule as a line to read: conditions with their operands shown, groups in parentheses.
-/
namespace RuleExpr

def Condition.display (condition : Condition) : String :=
  condition.field ++ " " ++ condition.operator.name ++ " " ++ Text.shown condition.value

/-- What stands between the members of a group. -/
def Combinator.joiner : Combinator → String
  | .or => " OR "
  | .and | .not | .none => " AND "

namespace Rule

mutual

def display : Rule → String
  | .condition c => c.display
  | .group combinator _ members =>
      let body := "(" ++ combinator.joiner.intercalate (displayAll members) ++ ")"
      if combinator = .not then "(NOT " ++ body ++ ")" else body

def displayAll : List Rule → List String
  | [] => []
  | rule :: rules => rule.display :: displayAll rules

end

end Rule

end RuleExpr
