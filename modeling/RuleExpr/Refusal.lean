import RuleExpr.Literal
import RuleExpr.Rule
/-!
Refusals: why a rule has no expression. A rule is written as a whole or refused for one cause.
-/
namespace RuleExpr

inductive Refusal where
  | unknownField (entity path : String)
  | emptyGroup (combinator : Combinator)
  | unsupported (operator : Operator) (type : FieldType) (path : String)
  | malformed (path literal : String) (expected : LiteralForm)
  | invalidPath (path : String)
  deriving DecidableEq, Repr

def Refusal.message : Refusal → String
  | unknownField entity path =>
      "undefined field '" ++ path ++ "' on entity '" ++ entity ++ "'"
  | emptyGroup combinator =>
      "empty " ++ combinator.name ++ " group; a group needs at least one child"
  | unsupported operator type path =>
      "operator " ++ operator.name ++ " is not supported for " ++ type.name ++ " field '" ++
        path ++ "'"
  | malformed path literal expected =>
      "malformed literal '" ++ literal ++ "' for field '" ++ path ++ "': expected " ++
        expected.describe
  | invalidPath path => "invalid field path '" ++ path ++ "'"

end RuleExpr
