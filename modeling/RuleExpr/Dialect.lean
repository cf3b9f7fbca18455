import RuleExpr.Dialect.Template
/-!
Dialects: how an expression language spells what is not a plain operator, and the settings that make
one dialect from another.
-/
namespace RuleExpr

/-- The spelling of case folding and of dates, as templates, and of a money field's amount and of
null, as they are. -/
structure Dialect where
  caseFold : String
  amountAccessor : String
  dateConversion : String
  nullLiteral : String
  deriving DecidableEq, Repr

/-- The two settings that are templates. -/
inductive TemplateSetting where
  | caseFold
  | dateConversion
  deriving DecidableEq, Repr

def TemplateSetting.describe : TemplateSetting → String
  | .caseFold => "case fold"
  | .dateConversion => "date conversion"

/-- A template that has no place for its operand. -/
structure MissingPlaceholder where
  setting : TemplateSetting
  template : String
  deriving DecidableEq, Repr

def MissingPlaceholder.message (missing : MissingPlaceholder) : String :=
  missing.setting.describe ++ " template '" ++ missing.template ++ "' has no '" ++
    Template.placeholder ++ "' placeholder"

namespace Dialect

open Template (placeholder)

/-- The dialect of MVEL expressions. -/
def mvel : Dialect where
  caseFold := s!"MVEL.eval(\"toUpperCase()\",{placeholder})"
  amountAccessor := ".getAmount()"
  dateConversion := s!"MvelHelper.convertField(\"DATE\",{placeholder})"
  nullLiteral := "null"

/-- An operand with its letter case folded away. -/
def fold (dialect : Dialect) (operand : String) : String :=
  Template.fill dialect.caseFold operand

/-- A date, given as a quoted text. -/
def date (dialect : Dialect) (literal : String) : String :=
  Template.fill dialect.dateConversion literal

/-- Both templates have a placeholder; of two that have none, case folding is reported. -/
def check (dialect : Dialect) : Except MissingPlaceholder Dialect :=
  if !Template.hasPlaceholder dialect.caseFold then .error ⟨.caseFold, dialect.caseFold⟩
  else if !Template.hasPlaceholder dialect.dateConversion then
    .error ⟨.dateConversion, dialect.dateConversion⟩
  else .ok dialect

/-- One step of making a dialect: a new text for one of its parts, or all of another dialect. -/
inductive Setting where
  | caseFold (template : String)
  | amountAccessor (accessor : String)
  | dateConversion (template : String)
  | nullLiteral (literal : String)
  | dialect (dialect : Dialect)
  deriving DecidableEq, Repr

def set (dialect : Dialect) : Setting → Dialect
  | .caseFold template => { dialect with caseFold := template }
  | .amountAccessor accessor => { dialect with amountAccessor := accessor }
  | .dateConversion template => { dialect with dateConversion := template }
  | .nullLiteral literal => { dialect with nullLiteral := literal }
  | .dialect other => other

/-- The settings one after the other, from MVEL. Only the result is checked, so a template may lack
its placeholder for a while. -/
def ofSettings (settings : List Setting) : Except MissingPlaceholder Dialect :=
  (settings.foldl set mvel).check

end Dialect

end RuleExpr
