import RuleExpr.FieldType
/-!
Operators of a condition. An operator says what a field is compared with: a literal, a literal with
letter case folded away, the argument of a string method, null, another field, or a range.
-/
namespace RuleExpr

/-- The comparison signs of an expression. -/
inductive Sign where
  | equal
  | notEqual
  | greater
  | greaterOrEqual
  | less
  | lessOrEqual
  deriving DecidableEq, Repr

namespace Sign

def text : Sign → String
  | equal => "=="
  | notEqual => "!="
  | greater => ">"
  | greaterOrEqual => ">="
  | less => "<"
  | lessOrEqual => "<="

/-- The sign asks for equality or for its absence, and so needs no order. -/
def isEquality : Sign → Bool
  | equal | notEqual => true
  | greater | greaterOrEqual | less | lessOrEqual => false

/-- Equality, or its negation. -/
def equality (negated : Bool) : Sign :=
  if negated then notEqual else equal

/-- The sign towards the lower bound of a range. -/
def lower (inclusive : Bool) : Sign :=
  if inclusive then greaterOrEqual else greater

/-- The sign towards the upper bound of a range. -/
def upper (inclusive : Bool) : Sign :=
  if inclusive then lessOrEqual else less

end Sign

/-- The string methods of an expression. -/
inductive Method where
  | contains
  | startsWith
  | endsWith
  deriving DecidableEq, Repr

def Method.text : Method → String
  | .contains => "contains"
  | .startsWith => "startsWith"
  | .endsWith => "endsWith"

inductive Operator where
  | compare (sign : Sign)
  | compareFolded (negated : Bool)
  | method (method : Method) (negated folded : Bool)
  | null (negated : Bool)
  | compareField (sign : Sign)
  | range (inclusive : Bool)
  deriving DecidableEq, Repr

namespace Operator

/-- The operators in the order in which they are listed for a reader. -/
def all : List Operator :=
  [compare .equal, compare .notEqual, compareFolded false, compareFolded true,
    compare .greater, compare .greaterOrEqual, compare .less, compare .lessOrEqual,
    method .contains false false, method .contains true false,
    method .contains false true, method .contains true true,
    method .startsWith false false, method .startsWith true false,
    method .startsWith false true, method .startsWith true true,
    method .endsWith false false, method .endsWith true false,
    method .endsWith false true, method .endsWith true true,
    null false, null true,
    compareField .equal, compareField .notEqual,
    compareField .greater, compareField .greaterOrEqual,
    compareField .less, compareField .lessOrEqual,
    range false, range true]

def name : Operator → String
  | compare .equal => "EQUALS"
  | compare .notEqual => "NOT_EQUAL"
  | compare .greater => "GREATER_THAN"
  | compare .greaterOrEqual => "GREATER_OR_EQUAL"
  | compare .less => "LESS_THAN"
  | compare .lessOrEqual => "LESS_OR_EQUAL"
  | compareFolded false => "IEQUALS"
  | compareFolded true => "INOT_EQUAL"
  | method .contains false false => "CONTAINS"
  | method .contains true false => "NOT_CONTAINS"
  | method .contains false true => "ICONTAINS"
  | method .contains true true => "INOT_CONTAINS"
  | method .startsWith false false => "STARTS_WITH"
  | method .startsWith true false => "NOT_STARTS_WITH"
  | method .startsWith false true => "ISTARTS_WITH"
  | method .startsWith true true => "INOT_STARTS_WITH"
  | method .endsWith false false => "ENDS_WITH"
  | method .endsWith true false => "NOT_ENDS_WITH"
  | method .endsWith false true => "IENDS_WITH"
  | method .endsWith true true => "INOT_ENDS_WITH"
  | null false => "IS_NULL"
  | null true => "IS_NOT_NULL"
  | compareField .equal => "EQUALS_FIELD"
  | compareField .notEqual => "NOT_EQUAL_FIELD"
  | compareField .greater => "GREATER_THAN_FIELD"
  | compareField .greaterOrEqual => "GREATER_OR_EQUAL_FIELD"
  | compareField .less => "LESS_THAN_FIELD"
  | compareField .lessOrEqual => "LESS_OR_EQUAL_FIELD"
  | range false => "BETWEEN"
  | range true => "BETWEEN_INCLUSIVE"

/-- The operator of exactly that name. -/
def ofName? (text : String) : Option Operator :=
  all.find? (·.name == text)

def parse (text : String) : Except UnknownName Operator :=
  match ofName? text with
  | some operator => .ok operator
  | none => .error ⟨.operator, text⟩

/-- The operator compares with another field, which its operand names. -/
def comparesFields : Operator → Bool
  | compareField _ => true
  | _ => false

/-- The operator can be written for a field of that type. Order needs an ordered type, case folding
and methods need text, and a reference has no literal. -/
def permits : Operator → FieldType → Bool
  | compare sign, .string | compare sign, .boolean => sign.isEquality
  | compare _, .numeric | compare _, .monetary | compare _, .date => true
  | compare _, .reference => false
  | compareFolded _, type | method .., type => type == .string
  | null _, _ => true
  | compareField sign, .string | compareField sign, .boolean
  | compareField sign, .reference => sign.isEquality
  | compareField _, .numeric | compareField _, .monetary | compareField _, .date => true
  | range _, .numeric | range _, .monetary | range _, .date => true
  | range _, .string | range _, .boolean | range _, .reference => false

/-- No two operators share a name. -/
theorem ofName?_name (operator : Operator) : ofName? operator.name = some operator := by
  cases operator with
  | compare sign => cases sign <;> rfl
  | compareFolded negated => cases negated <;> rfl
  | method method negated folded => cases method <;> cases negated <;> cases folded <;> rfl
  | null negated => cases negated <;> rfl
  | compareField sign => cases sign <;> rfl
  | range inclusive => cases inclusive <;> rfl

end Operator

end RuleExpr
