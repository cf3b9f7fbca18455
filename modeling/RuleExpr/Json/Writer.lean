import RuleExpr.Json
import RuleExpr.Json.Quoted
import RuleExpr.Text.Braced
/-!
Writing JSON, without white space between its parts.
-/
namespace RuleExpr.Json

mutual

def render : Json → String
  | null => "null"
  | bool value => if value then "true" else "false"
  | natural value => String.ofList (Nat.toDigits 10 value)
  | number literal => literal
  | text value => quotedText value
  | list items => "[" ++ ",".intercalate (renderItems items) ++ "]"
  | object members => Text.braced (",".intercalate (renderMembers members))
  | unusable => "null"

def renderItems : List Json → List String
  | [] => []
  | value :: values => value.render :: renderItems values

def renderMembers : List (String × Json) → List String
  | [] => []
  | (name, value) :: members =>
      (quotedText name ++ ":" ++ value.render) :: renderMembers members

end

end RuleExpr.Json
