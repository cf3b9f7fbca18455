import RuleExpr.Dialect
import RuleExpr.Inquiry
import RuleExpr.Path
import RuleExpr.Text.Quoted
/-!
The expression of a condition. Every text on the left of a comparison comes from checked paths and
every text on the right from a checked or quoted operand, so an operand can end nothing but itself.
-/
namespace RuleExpr

/-- What an expression is written for: a dialect, and the entity that paths start from. -/
structure Target where
  dialect : Dialect
  entity : String

namespace Target

/-- A field as a whole value. -/
def path (target : Target) (field : String) : String :=
  target.entity ++ "." ++ field

/-- A field as it is compared: money by its amount, everything else as it is. -/
def access (target : Target) (field : String) (type : FieldType) : String :=
  if type = .monetary then target.path field ++ target.dialect.amountAccessor
  else target.path field

/-- The type of a field. Only a path is asked for. -/
def typeOf (target : Target) (field : String) : Inquiry FieldType :=
  if Path.isPath field then
    .ask target.entity field fun
      | some type => .done type
      | none => .refuse (.unknownField target.entity field)
  else .refuse (.invalidPath field)

/-- An operand of the condition as a literal of the type. Text is quoted as it is; any other operand
is trimmed and must have the form of its type. -/
def literal (target : Target) (condition : Condition) (type : FieldType) (operand : String) :
    Except Refusal String :=
  let trimmed := Text.trim operand
  let malformed (form : LiteralForm) := Refusal.malformed condition.field operand form
  match type with
  | .string => .ok (Text.quoted operand)
  | .boolean =>
      match Literal.boolean? trimmed.toList with
      | some value => .ok (Literal.booleanText value)
      | none => .error (malformed .boolean)
  | .numeric | .monetary =>
      if Literal.isNumber trimmed.toList then .ok trimmed else .error (malformed .number)
  | .date =>
      if Literal.isDate trimmed.toList then .ok (target.dialect.date (Text.quoted trimmed))
      else .error (malformed .date)
  | .reference => .error (.unsupported condition.operator type condition.field)

/-- A comparison with a literal. -/
def compare (target : Target) (condition : Condition) (type : FieldType) (sign : Sign) :
    Except Refusal String := do
  let right ← target.literal condition type condition.value
  return target.access condition.field type ++ sign.text ++ right

/-- A comparison of texts with their letter case folded away. -/
def compareFolded (target : Target) (condition : Condition) (type : FieldType) (negated : Bool) :
    String :=
  target.dialect.fold (target.access condition.field type) ++ (Sign.equality negated).text ++
    target.dialect.fold (Text.quoted condition.value)

/-- A call of a string method, denied or not, on texts as they are or folded. -/
def call (target : Target) (condition : Condition) (type : FieldType) (method : Method)
    (negated folded : Bool) : String :=
  let fold (operand : String) := if folded then target.dialect.fold operand else operand
  (if negated then "!" else "") ++ fold (target.access condition.field type) ++ "." ++
    method.text ++ "(" ++ fold (Text.quoted condition.value) ++ ")"

/-- A comparison with null, of the field as a whole value. -/
def compareNull (target : Target) (condition : Condition) (negated : Bool) : String :=
  target.path condition.field ++ (Sign.equality negated).text ++ target.dialect.nullLiteral

/-- Two comparisons, one for each bound of a range. -/
def compareRange (target : Target) (condition : Condition) (type : FieldType) (inclusive : Bool) :
    Except Refusal String :=
  match Literal.range? condition.value.toList with
  | none => .error (.malformed condition.field condition.value .range)
  | some (low, high) => do
      let low ← target.literal condition type (String.ofList low)
      let high ← target.literal condition type (String.ofList high)
      let left := target.access condition.field type
      return left ++ (Sign.lower inclusive).text ++ low ++ "&&" ++
        left ++ (Sign.upper inclusive).text ++ high

/-- A comparison with the field that the trimmed operand names. Its type must be one that the
operator permits, and one that meets the type on the left. -/
def compareField (target : Target) (condition : Condition) (type : FieldType) (sign : Sign) :
    Inquiry String := do
  let other := Text.trim condition.value
  let otherType ← target.typeOf other
  if !condition.operator.permits otherType then
    .refuse (.unsupported condition.operator otherType condition.field)
  else if !type.comparable otherType then
    .refuse (.unsupported condition.operator otherType other)
  else
    .done (target.access condition.field type ++ sign.text ++ target.access other otherType)

/-- The comparison that the operator names, for a field of a type that it permits. -/
def comparison (target : Target) (condition : Condition) (type : FieldType) : Inquiry String :=
  match condition.operator with
  | .compare sign => .ofExcept (target.compare condition type sign)
  | .compareFolded negated => .done (target.compareFolded condition type negated)
  | .method method negated folded => .done (target.call condition type method negated folded)
  | .null negated => .done (target.compareNull condition negated)
  | .compareField sign => target.compareField condition type sign
  | .range inclusive => .ofExcept (target.compareRange condition type inclusive)

/-- The expression of a condition, noted once it is complete. -/
def condition (target : Target) (condition : Condition) : Inquiry String := do
  let type ← target.typeOf condition.field
  if !condition.operator.permits type then
    .refuse (.unsupported condition.operator type condition.field)
  else
    let text ← target.comparison condition type
    .note (.rendered condition.field condition.operator type) (.done text)

end Target

end RuleExpr
