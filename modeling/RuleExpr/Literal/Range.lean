import RuleExpr.Text.Blank
/-!
Ranges as an operand may write them: two bounds with a comma between them, bare or in one pair of
brackets. A bound is any text without commas and brackets, and is trimmed once it is cut out.
-/
namespace RuleExpr.Literal

/-- A comma and the brackets end a bound. -/
def isBoundChar (c : Char) : Bool :=
  c != ',' && c != '[' && c != ']'

/-- Two bounds, not yet trimmed, and what follows the second. Each has at least one character. -/
def bounds? (text : List Char) : Option (List Char × List Char × List Char) :=
  let low := text.takeWhile isBoundChar
  match text.dropWhile isBoundChar with
  | ',' :: rest =>
      let high := rest.takeWhile isBoundChar
      if low.isEmpty || high.isEmpty then none
      else some (low, high, rest.dropWhile isBoundChar)
  | _ => none

/-- The trimmed bounds of a range. -/
def range? (text : List Char) : Option (List Char × List Char) :=
  match text with
  | '[' :: inner =>
      match bounds? inner with
      | some (low, high, [']']) => some (Text.trimChars low, Text.trimChars high)
      | _ => none
  | _ =>
      match bounds? text with
      | some (low, high, []) => some (Text.trimChars low, Text.trimChars high)
      | _ => none

end RuleExpr.Literal
