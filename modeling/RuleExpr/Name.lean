/-!
Names that a rule is written with: operators, combinators and field types each have a closed list of
names, and a text outside the list is refused with the list it was looked up in.
-/
namespace RuleExpr

/-- The lists of names. -/
inductive Vocabulary where
  | operator
  | combinator
  | fieldType
  deriving DecidableEq, Repr

def Vocabulary.describe : Vocabulary → String
  | .operator => "operator"
  | .combinator => "group operator"
  | .fieldType => "field type"

/-- A text that is none of the names in a vocabulary. -/
structure UnknownName where
  vocabulary : Vocabulary
  name : String
  deriving DecidableEq, Repr

def UnknownName.message (unknown : UnknownName) : String :=
  "parse error: unknown " ++ unknown.vocabulary.describe ++ " '" ++ unknown.name ++ "'"

end RuleExpr
