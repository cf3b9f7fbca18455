import RuleExpr.Literal.Boolean
import RuleExpr.Literal.Date
import RuleExpr.Literal.Number
import RuleExpr.Literal.Range
/-!
Literals: the forms that an operand can be required to have.
-/
namespace RuleExpr

/-- A form of operand that has a grammar. -/
inductive LiteralForm where
  | boolean
  | number
  | date
  | range
  deriving DecidableEq, Repr

def LiteralForm.describe : LiteralForm → String
  | .boolean => "'true' or 'false'"
  | .number => "a decimal number"
  | .date => "a date 'YYYY-MM-DD[THH:MM[:SS]]'"
  | .range => "a range 'low,high'"

end RuleExpr
