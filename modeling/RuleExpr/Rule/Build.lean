import RuleExpr.Rule
/-!
Building rules: a condition from a field's path, and groups from lists of rules.
-/
namespace RuleExpr

/-- A field, as the start of a condition. -/
structure Field where
  path : String

namespace Field

def op (field : Field) (operator : Operator) (value : String) : Rule :=
  .condition ⟨field.path, operator, value⟩

def eq (field : Field) (value : String) : Rule := field.op (.compare .equal) value

def neq (field : Field) (value : String) : Rule := field.op (.compare .notEqual) value

def iequals (field : Field) (value : String) : Rule := field.op (.compareFolded false) value

def gt (field : Field) (value : String) : Rule := field.op (.compare .greater) value

def gte (field : Field) (value : String) : Rule := field.op (.compare .greaterOrEqual) value

def lt (field : Field) (value : String) : Rule := field.op (.compare .less) value

def lte (field : Field) (value : String) : Rule := field.op (.compare .lessOrEqual) value

def contains (field : Field) (value : String) : Rule :=
  field.op (.method .contains false false) value

def isNull (field : Field) : Rule := field.op (.null false) ""

def eqField (field : Field) (other : String) : Rule := field.op (.compareField .equal) other

def neqField (field : Field) (other : String) : Rule := field.op (.compareField .notEqual) other

/-- A range without its ends. The bounds are put together into one operand. -/
def between (field : Field) (low high : String) : Rule :=
  field.op (.range false) (low ++ "," ++ high)

end Field

namespace Rule

def and (members : List Rule) : Rule := .group .and none members

def or (members : List Rule) : Rule := .group .or none members

def not (members : List Rule) : Rule := .group .not none members

/-- A group without a connective. -/
def pass (members : List Rule) : Rule := .group .none none members

/-- The denial of one rule. -/
def negate (rule : Rule) : Rule := not [rule]

/-- The group that says nothing: no connective, no quantity and no members. -/
def empty : Rule := pass []

end Rule

end RuleExpr
