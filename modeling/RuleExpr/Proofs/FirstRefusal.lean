import RuleExpr.Proofs.Writing
/-!
The first refusal wins. A rule is read depth first and from left to right, and what can be refused in
it by itself is a condition or a group without members. Writing the rule ends as the first refused one
of these items says, through every combinator and in every position.
-/
namespace RuleExpr

/-- What can be refused in a rule by itself. -/
inductive Item where
  | condition (condition : Condition)
  | childless (combinator : Combinator)
  deriving DecidableEq, Repr

namespace Rule

mutual

/-- The items of a rule, depth first and from left to right. -/
def items : Rule → List Item
  | .condition c => [.condition c]
  | .group combinator _ [] => [.childless combinator]
  | .group _ _ (member :: members) => member.items ++ itemsOf members

def itemsOf : List Rule → List Item
  | [] => []
  | rule :: rules => rule.items ++ itemsOf rules

end

theorem itemsOf_eq_flatMap (rules : List Rule) : itemsOf rules = rules.flatMap items := by
  induction rules with
  | nil => rfl
  | cons rule rules ih => rw [itemsOf, ih, List.flatMap_cons]

/-- A group with members has the items of its members and no others. -/
theorem items_group {members : List Rule} (hmembers : members ≠ []) (combinator : Combinator)
    (quantity : Option UInt32) :
    (group combinator quantity members).items = members.flatMap items := by
  cases members with
  | nil => exact absurd rfl hmembers
  | cons member members => rw [items, itemsOf_eq_flatMap, List.flatMap_cons]

/-- The conditions of a rule, depth first and from left to right. -/
def conditions (rule : Rule) : List Condition :=
  rule.items.filterMap fun
    | .condition c => some c
    | .childless _ => none

theorem conditions_condition (c : Condition) : (condition c).conditions = [c] :=
  rfl

theorem conditions_group {members : List Rule} (hmembers : members ≠ []) (combinator : Combinator)
    (quantity : Option UInt32) :
    (group combinator quantity members).conditions = members.flatMap conditions := by
  rw [conditions, items_group hmembers, List.filterMap_flatMap]
  rfl

end Rule

namespace Target

variable (target : Target) (resolve : Resolver)

/-- Why an item is refused, if it is. -/
def itemRefusal? : Item → Option Refusal
  | .condition c => (target.condition c).refusal? resolve
  | .childless combinator => some (.emptyGroup combinator)

theorem refusal?_operands {rules : List Rule}
    (hrules : ∀ rule ∈ rules, (target.rule .operand rule).refusal? resolve =
      rule.items.findSome? (target.itemRefusal? resolve)) :
    (target.operands rules).refusal? resolve =
      (rules.flatMap Rule.items).findSome? (target.itemRefusal? resolve) := by
  induction rules with
  | nil => rfl
  | cons rule rules ih =>
      have hlater : (target.operands rules).refusal? resolve =
          (rules.flatMap Rule.items).findSome? (target.itemRefusal? resolve) := by
        apply ih
        intro member hmember
        exact hrules member (List.mem_cons_of_mem rule hmember)
      rw [operands, List.flatMap_cons, List.findSome?_append, ← hrules rule List.mem_cons_self,
        ← hlater]
      apply Inquiry.refusal?_bind
      intro text
      exact Inquiry.refusal?_bind_done

/-- In any position, a rule is refused as the first refused one of its items. -/
theorem refusal?_rule (position : Position) (rule : Rule) :
    (target.rule position rule).refusal? resolve =
      rule.items.findSome? (target.itemRefusal? resolve) := by
  induction position, rule using Rule.writing_induction with
  | condition position c =>
      rw [Rule.items, List.findSome?_singleton]
      rfl
  | childless position combinator quantity =>
      rw [Rule.items, List.findSome?_singleton]
      rfl
  | passed position quantity only ih =>
      rw [Rule.items_group (by simp), List.flatMap_singleton, ← ih]
      rfl
  | denied position quantity only ih =>
      rw [Rule.items_group (by simp), List.flatMap_singleton, ← ih]
      exact Inquiry.refusal?_bind_done
  | joined position combinator quantity members hjoins ih =>
      rw [target.rule_of_joins hjoins, Inquiry.refusal?_bind_done, Rule.items_group hjoins.1]
      exact target.refusal?_operands resolve ih

/-- A rule is refused for a cause if that is the cause of an item, and no item before it has one. -/
theorem outcome_rule_eq_error_iff {position : Position} {rule : Rule} {refusal : Refusal} :
    (target.rule position rule).outcome resolve = .error refusal ↔
      ∃ before item after, rule.items = before ++ item :: after ∧
        target.itemRefusal? resolve item = some refusal ∧
          ∀ earlier ∈ before, target.itemRefusal? resolve earlier = none := by
  rw [← Inquiry.refusal?_eq_some_iff, refusal?_rule, List.findSome?_eq_some_iff]

theorem outcome_rule_eq_ok_iff {position : Position} {rule : Rule} :
    (∃ text, (target.rule position rule).outcome resolve = .ok text) ↔
      ∀ item ∈ rule.items, target.itemRefusal? resolve item = none := by
  rw [← Inquiry.refusal?_eq_none_iff, refusal?_rule, List.findSome?_eq_none_iff]

end Target

namespace Dialect

/-- Why an item is refused when it is written alone, if it is. -/
def itemRefusal? (dialect : Dialect) (entity : String) (resolve : Resolver) :
    Item → Option Refusal
  | .condition c => (dialect.write entity (.condition c)).refusal? resolve
  | .childless combinator => some (.emptyGroup combinator)

/-- An entity that is no path is refused before the rule is looked at. With any other entity the rule
has an expression if no item of it is refused, and else the refusal of its first refused item. -/
structure FirstRefusalDecides (dialect : Dialect) (entity : String) (resolve : Resolver)
    (rule : Rule) (outcome : Except Refusal String) : Prop where
  entity_first : Path.isPath entity = false → outcome = .error (.invalidPath entity)
  written_iff : Path.isPath entity = true →
    ((∃ text, outcome = .ok text) ↔
      ∀ item ∈ rule.items, dialect.itemRefusal? entity resolve item = none)
  refused_iff : Path.isPath entity = true → ∀ refusal, outcome = .error refusal ↔
    ∃ before item after, rule.items = before ++ item :: after ∧
      dialect.itemRefusal? entity resolve item = some refusal ∧
        ∀ earlier ∈ before, dialect.itemRefusal? entity resolve earlier = none

variable {dialect : Dialect} {entity : String} {resolve : Resolver}

theorem itemRefusal?_eq (hentity : Path.isPath entity = true) :
    dialect.itemRefusal? entity resolve =
      (Target.mk dialect entity).itemRefusal? resolve := by
  funext item
  cases item with
  | condition c =>
      simp only [itemRefusal?, Target.itemRefusal?, Inquiry.refusal?,
        outcome_write_of_isPath hentity]
      rfl
  | childless combinator => rfl

theorem firstRefusalDecides_write (rule : Rule) :
    dialect.FirstRefusalDecides entity resolve rule
      ((dialect.write entity rule).outcome resolve) where
  entity_first := outcome_write_of_not_isPath
  written_iff hentity := by
    rw [outcome_write_of_isPath hentity, itemRefusal?_eq hentity]
    exact Target.outcome_rule_eq_ok_iff _ resolve
  refused_iff hentity refusal := by
    rw [outcome_write_of_isPath hentity, itemRefusal?_eq hentity]
    exact Target.outcome_rule_eq_error_iff _ resolve

/-- One rule and a list of rules follow the same law; of a list, it is the group without a connective
that counts, so that an empty list is refused as an empty group. -/
theorem first_refusal_decides (dialect : Dialect) (entity : String) (resolve : Resolver) :
    (∀ rule, dialect.FirstRefusalDecides entity resolve rule
      ((dialect.write entity rule).outcome resolve)) ∧
    (∀ rules, dialect.FirstRefusalDecides entity resolve (.group .none none rules)
      ((dialect.writeAll entity rules).outcome resolve)) ∧
    (dialect.writeAll entity []).outcome resolve =
      .error (if Path.isPath entity then .emptyGroup .none else .invalidPath entity) := by
  refine ⟨firstRefusalDecides_write, fun rules => firstRefusalDecides_write _, ?_⟩
  by_cases hentity : Path.isPath entity = true
  · rw [writeAll, outcome_write_of_isPath hentity, if_pos hentity]
    rfl
  · rw [writeAll, outcome_write_of_not_isPath (by simpa using hentity), if_neg hentity]

end Dialect

end RuleExpr
