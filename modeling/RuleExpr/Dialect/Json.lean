import RuleExpr.Dialect
import RuleExpr.Json.Reader
import RuleExpr.Json.Writer
/-!
Dialects as JSON: an object of four texts. Whether templates have placeholders is not asked here.
-/
namespace RuleExpr.Dialect

def parts : List Json.Part :=
  [⟨"case_fold", false⟩, ⟨"amount_accessor", false⟩, ⟨"date_conversion", false⟩,
    ⟨"null_literal", false⟩]

def ofJson? (value : Json) : Option Dialect := do
  match ← Json.parts? parts value with
  | [caseFold, amountAccessor, dateConversion, nullLiteral] =>
      return {
        caseFold := ← caseFold.text?
        amountAccessor := ← amountAccessor.text?
        dateConversion := ← dateConversion.text?
        nullLiteral := ← nullLiteral.text? }
  | _ => none

def toJson (dialect : Dialect) : Json :=
  .object [("case_fold", .text dialect.caseFold), ("amount_accessor", .text dialect.amountAccessor),
    ("date_conversion", .text dialect.dateConversion), ("null_literal", .text dialect.nullLiteral)]

/-- The dialect that a JSON text writes. -/
def decode? (source : String) : Option Dialect :=
  Json.read? source >>= ofJson?

def encode (dialect : Dialect) : String :=
  dialect.toJson.render

end RuleExpr.Dialect
