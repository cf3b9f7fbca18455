import RuleExpr.Operator
/-!
Rules: a condition compares one field, and a group puts rules together under a combinator.
-/
namespace RuleExpr

/-- How the members of a group belong together. `not` denies the conjunction of its members, and
`none` names no connective at all. -/
inductive Combinator where
  | and
  | or
  | not
  | none
  deriving DecidableEq, Repr

namespace Combinator

def all : List Combinator :=
  [and, or, not, none]

def name : Combinator → String
  | and => "AND"
  | or => "OR"
  | not => "NOT"
  | none => "NONE"

/-- The combinator of exactly that name. -/
def ofName? (text : String) : Option Combinator :=
  all.find? (·.name == text)

/-- The combinator of that name; an absent one may also be an empty text or the word `null`. -/
def parse (text : String) : Except UnknownName Combinator :=
  match text with
  | "" | "null" => .ok none
  | _ =>
      match ofName? text with
      | some combinator => .ok combinator
      | .none => .error ⟨.combinator, text⟩

/-- No two combinators share a name. -/
theorem ofName?_name (combinator : Combinator) : ofName? combinator.name = some combinator := by
  cases combinator <;> rfl

end Combinator

/-- A comparison of a field, given by its path from the entity, with an operand as it was typed. -/
structure Condition where
  field : String
  operator : Operator
  value : String
  deriving DecidableEq, Repr

/-- A rule. The quantity of a group ("at least so many") belongs to whoever built it: it is kept and
compared, and has no part in the meaning here. -/
inductive Rule where
  | condition (condition : Condition)
  | group (combinator : Combinator) (quantity : Option UInt32) (members : List Rule)
  deriving Repr

namespace Rule

mutual

/-- Equality of rules, quantities included. -/
def decEq : (left right : Rule) → Decidable (left = right)
  | .condition left, .condition right =>
      if h : left = right then isTrue (by rw [h]) else isFalse (by simpa using h)
  | .group c q members, .group c' q' members' =>
      if hc : c = c' then
        if hq : q = q' then
          match decEqList members members' with
          | isTrue h => isTrue (by rw [hc, hq, h])
          | isFalse h => isFalse (by simp [h])
        else isFalse (by simp [hq])
      else isFalse (by simp [hc])
  | .condition .., .group .. => isFalse (by simp)
  | .group .., .condition .. => isFalse (by simp)

def decEqList : (left right : List Rule) → Decidable (left = right)
  | [], [] => isTrue rfl
  | [], _ :: _ => isFalse (by simp)
  | _ :: _, [] => isFalse (by simp)
  | r :: rs, r' :: rs' =>
      match decEq r r' with
      | isFalse h => isFalse (by simp [h])
      | isTrue h =>
          match decEqList rs rs' with
          | isTrue hs => isTrue (by rw [h, hs])
          | isFalse hs => isFalse (by simp [hs])

end

instance : DecidableEq Rule := decEq

end Rule

end RuleExpr
