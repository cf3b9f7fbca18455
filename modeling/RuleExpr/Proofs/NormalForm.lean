import RuleExpr.Proofs.Composition
/-!
Normal forms of rules. Quantities go, a group without a connective gives way to its only member, and one
with several members is a conjunction. Nothing that can be observed of writing a rule tells it from its
normal form: the inquiries are the same, so they end alike for every source of answers, with the same
questions and the same notes.
-/
namespace RuleExpr

/-- The combinator that joins the members of a group in a normal form. -/
def Combinator.connective : Combinator → Combinator
  | .none => .and
  | combinator => combinator

namespace Rule

mutual

/-- The rule with every quantity cleared, every group without a connective that has one member replaced
by that member, and every such group of several members turned into a conjunction. -/
def normalForm : Rule → Rule
  | .condition c => .condition c
  | .group .none _ [only] => only.normalForm
  | .group .none _ (first :: second :: rest) =>
      .group .and none (first.normalForm :: second.normalForm :: normalForms rest)
  | .group combinator _ members => .group combinator none (normalForms members)

def normalForms : List Rule → List Rule
  | [] => []
  | rule :: rules => rule.normalForm :: normalForms rules

end

theorem normalForms_eq_map (rules : List Rule) : normalForms rules = rules.map normalForm := by
  induction rules with
  | nil => rfl
  | cons rule rules ih => rw [normalForms, ih, List.map_cons]

/-- A rule of which the normal form leaves nothing out. Only an empty group can be without a connective. -/
inductive IsNormal : Rule → Prop where
  | condition (c : Condition) : IsNormal (.condition c)
  | childless (combinator : Combinator) : IsNormal (.group combinator none [])
  | group {combinator : Combinator} {members : List Rule} (hconnective : combinator ≠ .none)
      (hmembers : ∀ member ∈ members, IsNormal member) : IsNormal (.group combinator none members)

theorem normalForm_childless (combinator : Combinator) (quantity : Option UInt32) :
    (group combinator quantity []).normalForm = .group combinator none [] := by
  cases combinator <;> rfl

theorem normalForm_of_joins {combinator : Combinator} {members : List Rule}
    (hjoins : combinator.Joins members) (quantity : Option UInt32) :
    (group combinator quantity members).normalForm =
      .group combinator.connective none (members.map normalForm) := by
  obtain ⟨hmembers, hone⟩ := hjoins
  match members with
  | [] => exact absurd rfl hmembers
  | [only] => rcases hone rfl with rfl | rfl <;> rfl
  | first :: second :: rest =>
      rw [← normalForms_eq_map]
      cases combinator <;> rfl

theorem isNormal_normalForm (rule : Rule) : rule.normalForm.IsNormal := by
  induction rule using Rule.induction with
  | condition c => exact .condition c
  | group combinator quantity members ih =>
      rcases combinator.joins_or members with rfl | ⟨only, rfl, rfl | rfl⟩ | hjoins
      · rw [normalForm_childless]
        exact .childless combinator
      · exact ih only List.mem_cons_self
      · exact .group (by simp) (by simpa [normalForms] using ih)
      · rw [normalForm_of_joins hjoins]
        exact .group (by cases combinator <;> simp [Combinator.connective]) (by simpa using ih)

/-- Normal rules, and no others, are their own normal forms. -/
theorem normalForm_eq_self_iff (rule : Rule) : rule.normalForm = rule ↔ rule.IsNormal := by
  constructor
  · intro heq
    rw [← heq]
    exact isNormal_normalForm rule
  · intro hnormal
    induction hnormal with
    | condition c => rfl
    | childless combinator => exact normalForm_childless combinator none
    | @group combinator members hconnective _ ih =>
        have hmembers : normalForms members = members := by
          rw [normalForms_eq_map, List.map_congr_left ih, List.map_id']
        cases combinator with
        | none => exact absurd rfl hconnective
        | and | or | not => rw [normalForm, hmembers] <;> simp

end Rule

theorem Combinator.Joins.normalForm {combinator : Combinator} {members : List Rule}
    (h : combinator.Joins members) : combinator.connective.Joins (members.map Rule.normalForm) := by
  refine ⟨by simpa using h.1, ?_⟩
  intro hlength
  rcases h.2 (by simpa using hlength) with rfl | rfl
  · exact Or.inl rfl
  · exact Or.inr rfl

/-- A conjunction and a group without a connective join their members alike. -/
theorem Combinator.joined_connective (combinator : Combinator) (position : Position) :
    combinator.connective.joined position = combinator.joined position := by
  cases combinator <;> rfl

namespace Target

variable (target : Target)

theorem operands_map_normalForm {rules : List Rule}
    (hrules : ∀ rule ∈ rules, target.rule .operand rule.normalForm = target.rule .operand rule) :
    target.operands (rules.map Rule.normalForm) = target.operands rules := by
  induction rules with
  | nil => rfl
  | cons rule rules ih =>
      have hlater := ih fun member hmember => hrules member (List.mem_cons_of_mem rule hmember)
      rw [List.map_cons, operands, operands, hrules rule List.mem_cons_self, hlater]

/-- In every position, a rule and its normal form are one inquiry. -/
theorem rule_normalForm (position : Position) (rule : Rule) :
    target.rule position rule.normalForm = target.rule position rule := by
  induction position, rule using Rule.writing_induction with
  | condition position c => rfl
  | childless position combinator quantity =>
      rw [Rule.normalForm_childless]
      rfl
  | passed position quantity only ih => exact ih
  | denied position quantity only ih =>
      change (target.rule .standalone only.normalForm >>= _) = _
      rw [ih]
      rfl
  | joined position combinator quantity members hjoins ih =>
      rw [Rule.normalForm_of_joins hjoins, target.rule_of_joins hjoins.normalForm,
        target.rule_of_joins hjoins, target.operands_map_normalForm ih,
        combinator.joined_connective]

end Target

namespace Dialect

theorem write_normalForm (dialect : Dialect) (entity : String) (rule : Rule) :
    dialect.write entity rule.normalForm = dialect.write entity rule := by
  rw [write, write, Target.expression, Target.expression, Target.rule_normalForm]

/-- Normal forms are normal, and normal rules are their own. Whatever the dialect, the entity and the
source of answers are, the normal form of a rule has the same expression or refusal, and it asks and notes
the same on the way. -/
theorem normal_form_observed_alike (dialect : Dialect) (entity : String) (resolve : Resolver)
    (rule : Rule) :
    rule.normalForm.IsNormal ∧ (rule.normalForm = rule ↔ rule.IsNormal) ∧
      (dialect.write entity rule.normalForm).outcome resolve =
          (dialect.write entity rule).outcome resolve ∧
        (dialect.write entity rule.normalForm).lookups resolve =
            (dialect.write entity rule).lookups resolve ∧
          (dialect.write entity rule.normalForm).events resolve =
            (dialect.write entity rule).events resolve := by
  rw [dialect.write_normalForm]
  exact ⟨rule.isNormal_normalForm, rule.normalForm_eq_self_iff, rfl, rfl, rfl⟩

example :
    let isNull (field : String) := Rule.condition ⟨field, .null false, ""⟩
    let either := Rule.group .or (some 1) [isNull "a", isNull "b"]
    let passed := Rule.group .none none [.group .none (some 2) [either]]
    (Rule.group .none (some 2) [passed, .group .none none []]).normalForm =
      .group .and none [.group .or none [isNull "a", isNull "b"], .group .none none []] := by
  rfl

end Dialect

end RuleExpr
