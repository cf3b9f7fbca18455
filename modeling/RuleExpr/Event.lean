import RuleExpr.Json
import RuleExpr.Refusal
/-!
Events: what is noted while a rule is written. A condition is noted once it is complete, and the
end of the writing is noted whichever way it went.
-/
namespace RuleExpr

inductive Event where
  | rendered (field : String) (operator : Operator) (type : FieldType)
  | written (entity : String) (length : Nat)
  | refused (entity : String) (refusal : Refusal)
  deriving DecidableEq, Repr

namespace Event

/-- How closely one has to look to see the event. -/
def level : Event → String
  | rendered .. => "TRACE"
  | written .. | refused .. => "DEBUG"

def message : Event → String
  | rendered .. => "rendered condition"
  | written .. => "translated rule tree"
  | refused .. => "rule tree translation failed"

/-- What the event is about, by name. -/
def details : Event → List (String × Json)
  | rendered field operator type =>
      [("field", .text field), ("operator", .text operator.name), ("field_type", .text type.name)]
  | written entity length => [("entity", .text entity), ("len", .natural length)]
  | refused entity refusal => [("entity", .text entity), ("error", .text refusal.message)]

/-- The event at the end of writing: how long the text is in UTF-8, or why there is none. -/
def closing (entity : String) : Except Refusal String → Event
  | .ok text => written entity text.utf8ByteSize
  | .error refusal => refused entity refusal

end Event

end RuleExpr
