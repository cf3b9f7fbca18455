import Mathlib.Data.List.Forall2
import RuleExpr.Proofs.Outcome
/-!
How a rule is written, by the shape of the rule. A group without a connective and with one member is
passed through, a denial of one member writes the member by itself, and every other group with members
joins what its members are as operands. The induction has one case for each of these shapes.
-/
namespace RuleExpr

/-- The texts of a group's members put together in a position. -/
def Combinator.joined (position : Position) : Combinator → List String → String
  | .and, texts | .none, texts => "&&".intercalate texts
  | .or, texts => position.disjunction ("||".intercalate texts)
  | .not, texts => "!(" ++ "&&".intercalate texts ++ ")"

/-- What parentheses and a denial keep holds of the joined texts if it holds of their conjunction and of
their disjunction. -/
theorem Combinator.joined_of {motive : String → Prop} {texts : List String}
    (conjunction : motive ("&&".intercalate texts)) (disjunction : motive ("||".intercalate texts))
    (parens : ∀ text, motive text → motive ("(" ++ text ++ ")"))
    (deny : ∀ text, motive text → motive ("!" ++ text)) (combinator : Combinator)
    (position : Position) : motive (combinator.joined position texts) := by
  cases combinator with
  | and | none => exact conjunction
  | or =>
      cases position with
      | standalone => exact disjunction
      | operand => exact parens _ disjunction
  | not => exact deny _ (parens _ conjunction)

/-- The group has members that are written as operands. -/
def Combinator.Joins (combinator : Combinator) (members : List Rule) : Prop :=
  members ≠ [] ∧ (members.length = 1 → combinator = .and ∨ combinator = .or)

/-- What is known of texts that are joined, from what is known of a single text and of one that is put
in front of others. -/
theorem Text.intercalate_induction {α : Type} {written : α → String → Prop}
    {motive : List α → String → Prop} {separator : String}
    (single : ∀ item text, written item text → motive [item] text)
    (cons : ∀ item text items later, written item text → motive items later →
      motive (item :: items) (text ++ separator ++ later))
    {items : List α} (hne : items ≠ []) {texts : List String}
    (h : List.Forall₂ written items texts) : motive items (separator.intercalate texts) := by
  induction h with
  | nil => exact absurd rfl hne
  | @cons item text items texts hitem hitems ih =>
      by_cases hnil : items = []
      · subst hnil
        cases hitems
        simpa using single item text hitem
      · have htexts : texts ≠ [] := by
          rintro rfl
          cases hitems
          exact hnil rfl
        rw [String.intercalate_cons_of_ne_nil htexts]
        exact cons item text items _ hitem (ih hnil)

namespace Target

variable (target : Target)

/-- Operands are written if each of them is, in the order of the rules. -/
theorem outcome_operands_eq_ok_iff {resolve : Resolver} {rules : List Rule}
    {texts : List String} :
    (target.operands rules).outcome resolve = .ok texts ↔
      List.Forall₂ (fun rule text => (target.rule .operand rule).outcome resolve = .ok text)
        rules texts := by
  induction rules generalizing texts with
  | nil => simp [operands, Inquiry.outcome, eq_comm]
  | cons rule rules ih =>
      simp only [operands, Inquiry.outcome_bind_eq_ok_iff, ih, List.forall₂_cons_left_iff]
      constructor
      · rintro ⟨text, htext, later, hlater, heq⟩
        cases heq
        exact ⟨text, later, htext, hlater, rfl⟩
      · rintro ⟨text, later, htext, hlater, rfl⟩
        exact ⟨text, htext, later, hlater, rfl⟩

theorem rule_of_joins {combinator : Combinator} {members : List Rule}
    (hjoins : combinator.Joins members) (position : Position) (quantity : Option UInt32) :
    target.rule position (.group combinator quantity members) = do
      let texts ← target.operands members
      return combinator.joined position texts := by
  obtain ⟨hmembers, hone⟩ := hjoins
  match members with
  | [] => exact absurd rfl hmembers
  | [only] => rcases hone rfl with rfl | rfl <;> rfl
  | first :: second :: rest => cases combinator <;> rfl

theorem outcome_rule_of_joins_eq_ok_iff {combinator : Combinator} {members : List Rule}
    (hjoins : combinator.Joins members) {position : Position} {quantity : Option UInt32}
    {resolve : Resolver} {text : String} :
    (target.rule position (.group combinator quantity members)).outcome resolve = .ok text ↔
      ∃ texts, List.Forall₂ (fun member text =>
          (target.rule .operand member).outcome resolve = .ok text) members texts ∧
        text = combinator.joined position texts := by
  rw [target.rule_of_joins hjoins, Inquiry.outcome_bind_eq_ok_iff]
  simp only [outcome_operands_eq_ok_iff]
  apply exists_congr
  intro texts
  apply and_congr_right
  intro _
  constructor
  · intro hdone
    exact (Except.ok.inj hdone).symm
  · rintro rfl
    rfl

end Target

namespace Rule

/-- Induction over a rule, with what is known of every member of a group. -/
theorem induction {motive : Rule → Prop} (condition : ∀ c, motive (.condition c))
    (group : ∀ combinator quantity members, (∀ member ∈ members, motive member) →
      motive (.group combinator quantity members)) : (rule : Rule) → motive rule
  | .condition c => condition c
  | .group combinator quantity members =>
      group combinator quantity members fun member _ => induction condition group member

/-- Induction along the writing of a rule: the position is the one that the rule is written in. -/
theorem writing_induction {motive : Position → Rule → Prop}
    (condition : ∀ position c, motive position (.condition c))
    (childless : ∀ position combinator quantity,
      motive position (.group combinator quantity []))
    (passed : ∀ position quantity only, motive position only →
      motive position (.group .none quantity [only]))
    (denied : ∀ position quantity only, motive .standalone only →
      motive position (.group .not quantity [only]))
    (joined : ∀ position combinator quantity members, combinator.Joins members →
      (∀ member ∈ members, motive .operand member) →
        motive position (.group combinator quantity members))
    (position : Position) (rule : Rule) : motive position rule := by
  induction rule using Rule.induction generalizing position with
  | condition c => exact condition position c
  | group combinator quantity members ih =>
      match combinator, members with
      | combinator, [] => exact childless position combinator quantity
      | .none, [only] => exact passed position quantity only (ih only (by simp) position)
      | .not, [only] => exact denied position quantity only (ih only (by simp) .standalone)
      | .and, [only] | .or, [only] =>
          exact joined position _ quantity [only] ⟨by simp, by simp⟩
            fun member hmember => ih member hmember .operand
      | combinator, first :: second :: rest =>
          exact joined position combinator quantity _ ⟨by simp, by simp⟩
            fun member hmember => ih member hmember .operand

end Rule

/-- Induction over what is written for a rule: the text of a group, from the texts of its members. -/
theorem Target.written_induction (target : Target) {resolve : Resolver}
    {motive : Position → Rule → String → Prop}
    (condition : ∀ position c text, (target.condition c).outcome resolve = .ok text →
      motive position (.condition c) text)
    (passed : ∀ position quantity only text, motive position only text →
      motive position (.group .none quantity [only]) text)
    (denied : ∀ position quantity only text, motive .standalone only text →
      motive position (.group .not quantity [only]) ("!(" ++ text ++ ")"))
    (joined : ∀ position combinator quantity members texts, combinator.Joins members →
      List.Forall₂ (motive .operand) members texts →
        motive position (.group combinator quantity members) (combinator.joined position texts))
    {position : Position} {rule : Rule} {text : String}
    (h : (target.rule position rule).outcome resolve = .ok text) : motive position rule text := by
  induction position, rule using Rule.writing_induction generalizing text with
  | condition position c => exact condition position c text h
  | childless position combinator quantity => cases h
  | passed position quantity only ih => exact passed position quantity only text (ih h)
  | denied position quantity only ih =>
      obtain ⟨inner, hinner, htext⟩ := Inquiry.outcome_bind_eq_ok_iff.mp h
      cases htext
      exact denied position quantity only inner (ih hinner)
  | joined position combinator quantity members hjoins ih =>
      obtain ⟨texts, htexts, rfl⟩ := (target.outcome_rule_of_joins_eq_ok_iff hjoins).mp h
      have hmembers : List.Forall₂ (motive .operand) members texts := by
        -- The hypothesis is about every text of a member, so it passes to the texts in the list.
        have hboth := (List.forall₂_and_left members texts).mpr ⟨ih, htexts⟩
        apply hboth.imp
        rintro member text ⟨hmotive, hwritten⟩
        exact hmotive hwritten
      exact joined position combinator quantity members texts hjoins hmembers

end RuleExpr
