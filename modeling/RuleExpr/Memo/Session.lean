import RuleExpr.Catalog
import RuleExpr.Expression.Rule
import RuleExpr.Memo
/-!
Sessions: a memo in front of a catalog that may change behind it. What the memo remembers stays as it
was when it was first asked for.
-/
namespace RuleExpr

/-- A rule as an expression of the dialect. -/
def Memo.write (memo : Memo) (resolve : Resolver) (dialect : Dialect) (entity : String)
    (rule : Rule) : Served (Except Refusal String) :=
  memo.serve resolve (dialect.write entity rule)

/-- A memo and the catalog behind it, with a record of the questions that came through to the
catalog, the newest first. -/
structure Session where
  catalog : Catalog
  memo : Memo
  passed : List (String × String) := []

namespace Session

/-- The answer of a use, and the session after it. -/
def take {α : Type} (session : Session) (served : Served α) : α × Session :=
  (served.answer,
    { session with memo := served.memo, passed := served.passed.reverse ++ session.passed })

/-- The type of one field. -/
def resolve (session : Session) (entity path : String) : Option FieldType × Session :=
  session.take (session.memo.resolve session.catalog.resolver entity path)

/-- A rule as an expression of the dialect. -/
def write (session : Session) (dialect : Dialect) (entity : String) (rule : Rule) :
    Except Refusal String × Session :=
  session.take (session.memo.write session.catalog.resolver dialect entity rule)

/-- The number of answers remembered. -/
def count (session : Session) : Nat × Session :=
  session.take session.memo.count

/-- A change of the catalog behind the memo. -/
def insert (session : Session) (entity path : String) (type : FieldType) : Session :=
  { session with catalog := session.catalog.insert entity path type }

/-- A new, empty memo in front of the same catalog. -/
def renew (session : Session) (capacity : Nat) : Session :=
  { session with memo := { capacity } }

end Session

end RuleExpr
