import RuleExpr.Name
/-!
Field types: what the values of a field are, and which two may stand on either side of one
comparison.
-/
namespace RuleExpr

inductive FieldType where
  | string
  | boolean
  | numeric
  | monetary
  | date
  | reference
  deriving DecidableEq, Repr

namespace FieldType

def all : List FieldType :=
  [string, boolean, numeric, monetary, date, reference]

def name : FieldType → String
  | string => "STRING"
  | boolean => "BOOLEAN"
  | numeric => "NUMERIC"
  | monetary => "MONETARY"
  | date => "DATE"
  | reference => "FIELD_REFERENCE"

/-- The type of exactly that name. -/
def ofName? (text : String) : Option FieldType :=
  all.find? (·.name == text)

/-- The type of that name, or of another word that catalogs use for it. -/
def parse (text : String) : Except UnknownName FieldType :=
  match text with
  | "INTEGER" | "LONG" | "DECIMAL" => .ok numeric
  | "MONEY" => .ok monetary
  | "ENTITY" => .ok reference
  | _ =>
      match ofName? text with
      | some type => .ok type
      | none => .error ⟨.fieldType, text⟩

/-- Whether the values of two fields can meet in one comparison. Money meets numbers through its
amount. -/
def comparable (left right : FieldType) : Bool :=
  left == right ||
    match left, right with
    | numeric, monetary | monetary, numeric => true
    | _, _ => false

/-- No two types share a name. -/
theorem ofName?_name (type : FieldType) : ofName? type.name = some type := by
  cases type <;> rfl

end FieldType

end RuleExpr
