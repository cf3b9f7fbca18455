/-!
Decimal numbers as an operand may write them: an optional minus sign, a whole part without leading
zeros, and optionally a point with digits after it.
-/
namespace RuleExpr.Literal

/-- Nothing, or a point and at least one digit. -/
def isFraction : List Char → Bool
  | [] => true
  | '.' :: digits => !digits.isEmpty && digits.all Char.isDigit
  | _ => false

/-- A zero, or digits that start with another digit, and then a fraction. -/
def isUnsigned : List Char → Bool
  | [] => false
  | '0' :: rest => isFraction rest
  | c :: rest => c.isDigit && isFraction (rest.dropWhile Char.isDigit)

def isNumber : List Char → Bool
  | '-' :: rest => isUnsigned rest
  | rest => isUnsigned rest

end RuleExpr.Literal
