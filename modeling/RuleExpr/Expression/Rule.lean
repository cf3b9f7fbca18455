import RuleExpr.Expression.Condition
/-!
The expression of a rule. A disjunction is put in parentheses wherever it is an operand of another
connective; a conjunction never needs them, since it binds tighter than a disjunction and a denial
has parentheses of its own.
-/
namespace RuleExpr

/-- Where a text stands: by itself, or between connectives. -/
inductive Position where
  | standalone
  | operand
  deriving DecidableEq, Repr

/-- A disjunction in its position. -/
def Position.disjunction : Position → String → String
  | .standalone, text => text
  | .operand, text => "(" ++ text ++ ")"

namespace Target

mutual

/-- The expression of a rule in a position. A group without a connective and with one member is that
member, in the same position. -/
def rule (target : Target) (position : Position) : Rule → Inquiry String
  | .condition condition => target.condition condition
  | .group combinator _ [] => .refuse (.emptyGroup combinator)
  | .group .none _ [only] => target.rule position only
  | .group .not _ [only] => do
      let text ← target.rule .standalone only
      return "!(" ++ text ++ ")"
  | .group .and _ members | .group .none _ members => do
      let texts ← target.operands members
      return "&&".intercalate texts
  | .group .or _ members => do
      let texts ← target.operands members
      return position.disjunction ("||".intercalate texts)
  | .group .not _ members => do
      let texts ← target.operands members
      return "!(" ++ "&&".intercalate texts ++ ")"

/-- The expressions of rules as operands, in order. -/
def operands (target : Target) : List Rule → Inquiry (List String)
  | [] => .done []
  | rule :: rules => do
      let text ← target.rule .operand rule
      let texts ← target.operands rules
      return text :: texts

end

/-- The expression of a rule by itself, for an entity whose name is a path. -/
def expression (target : Target) (rule : Rule) : Inquiry String :=
  if Path.isPath target.entity then target.rule .standalone rule
  else .refuse (.invalidPath target.entity)

end Target

namespace Dialect

/-- Writes a rule about an entity as an expression. -/
def write (dialect : Dialect) (entity : String) (rule : Rule) : Inquiry String :=
  ((Target.mk dialect entity).expression rule).closing (Event.closing entity)

/-- Writes rules that must all hold, as one group without a connective. -/
def writeAll (dialect : Dialect) (entity : String) (rules : List Rule) : Inquiry String :=
  dialect.write entity (.group .none none rules)

end Dialect

end RuleExpr
