import RuleExpr.Json.Reader
import RuleExpr.Json.Writer
import RuleExpr.Rule
/-!
Rules as JSON. A rule is an object with a `kind`; a condition or a group by itself goes without.
Reading takes the members in any order and passes over those it does not know, and refuses a part
that is given twice.
-/
namespace RuleExpr

/-- How many lists and objects may be inside one another. -/
def Json.depthLimit : Nat := 127

/-- The value can be held and is not nested deeper than the limit. -/
def Json.isSound (limit : Nat) (value : Json) : Bool :=
  value.isUsable && value.depth ≤ limit

namespace Rule

/-- The two kinds of rule. -/
inductive Kind where
  | group
  | condition
  deriving DecidableEq, Repr

namespace Kind

def name : Kind → String
  | group => "group"
  | condition => "condition"

/-- A kind by its name; where `numbered`, also by its place among the kinds. -/
def ofJson? (numbered : Bool) : Json → Option Kind
  | .text "group" => some group
  | .text "condition" => some condition
  | .natural 0 => if numbered then some group else none
  | .natural 1 => if numbered then some condition else none
  | _ => none

def parts : Kind → List Json.Part
  | group => [⟨"combinator", false⟩, ⟨"quantity", true⟩, ⟨"children", false⟩]
  | condition => [⟨"field", false⟩, ⟨"operator", false⟩, ⟨"value", false⟩]

end Kind

/-- A quantity has 32 bits and may be absent. -/
def quantity? : Json → Option (Option UInt32)
  | .null => some none
  | .natural n => if n < UInt32.size then some (some (UInt32.ofNat n)) else none
  | _ => none

/-- A condition from the values of its parts. -/
def ofConditionParts? (lenient : Bool) : List Json → Option Rule
  | [field, operator, value] => do
      let field ← field.text?
      let operator ← operator.name? lenient >>= Operator.ofName?
      let value ← value.text?
      return .condition ⟨field, operator, value⟩
  | _ => none

/-- A group from the values of its parts, with a reader for its members. -/
def ofGroupParts? (lenient : Bool) (member? : Json → Option Rule) : List Json → Option Rule
  | [combinator, quantity, .list members] => do
      let combinator ← combinator.name? lenient >>= Combinator.ofName?
      let quantity ← quantity? quantity
      let members ← members.mapM member?
      return .group combinator quantity members
  | _ => none

/-- A rule of at most so many levels of groups. In a list the kind comes before the parts. A kind may
be a number in the members of a rule, and only there. -/
def ofSound? : (levels : Nat) → (numbered : Bool) → Json → Option Rule
  | 0, _, _ => none
  | levels + 1, numbered, value => do
      let (kind, parts) ← match value with
        | .object members => do
            let kind ← Json.part? members ⟨"kind", false⟩ >>= Kind.ofJson? numbered
            pure (kind, ← Json.parts? kind.parts value)
        | .list (kind :: items) => do
            let kind ← Kind.ofJson? numbered kind
            pure (kind, ← Json.parts? kind.parts (.list items))
        | _ => none
      match kind with
      | .condition => ofConditionParts? true parts
      | .group => ofGroupParts? true (ofSound? levels true) parts

/-- A rule within the given depth. All of its value is held while it is read, so all of it must be
sound. -/
def ofJson? (limit : Nat) (value : Json) : Option Rule :=
  if value.isSound limit then ofSound? (value.depth + 1) false value else none

/-- A condition by itself. What it does not know is passed over unread. -/
def ofConditionJson? (value : Json) : Option Rule :=
  Json.parts? Kind.condition.parts value >>= ofConditionParts? false

/-- A group by itself. Its members are two levels inside it. -/
def ofGroupJson? (value : Json) : Option Rule :=
  Json.parts? Kind.group.parts value >>= ofGroupParts? false (ofJson? (Json.depthLimit - 2))

/-- The members of a condition's object. -/
def conditionMembers (condition : Condition) : List (String × Json) :=
  [("field", .text condition.field), ("operator", .text condition.operator.name),
    ("value", .text condition.value)]

/-- The members of a group's object. -/
def groupMembers (combinator : Combinator) (quantity : Option UInt32) (members : List Json) :
    List (String × Json) :=
  [("combinator", .text combinator.name),
    ("quantity", match quantity with
      | some n => .natural n.toNat
      | none => .null),
    ("children", .list members)]

mutual

def toJson : Rule → Json
  | .condition c =>
      .object (("kind", .text Kind.condition.name) :: conditionMembers c)
  | .group combinator quantity members =>
      .object (("kind", .text Kind.group.name) ::
        groupMembers combinator quantity (toJsonAll members))

def toJsonAll : List Rule → List Json
  | [] => []
  | rule :: rules => rule.toJson :: toJsonAll rules

end

/-- The rule without its kind, its members with theirs. -/
def toBareJson : Rule → Json
  | .condition c => .object (conditionMembers c)
  | .group combinator quantity members =>
      .object (groupMembers combinator quantity (toJsonAll members))

/-- The rule as one line of JSON. -/
def encode (rule : Rule) : String :=
  rule.toJson.render

/-- The rule that a JSON text writes. -/
def decode? (source : String) : Option Rule :=
  Json.read? source >>= ofJson? Json.depthLimit

end Rule

end RuleExpr
