import RuleExpr.Proofs.Writing
/-!
Composition: a group is put together from what its members are by themselves. A member that comes down to
a disjunction is put in parentheses between connectives, however many groups it is passed through, and no
other member is. So one part of a rule can stand for another that ends alike in every position, wherever
it is.
-/
namespace RuleExpr

theorem except_map_eq_ok_iff {α β : Type} {first : Except Refusal α} {f : α → β} {answer : β} :
    first.map f = .ok answer ↔ ∃ middle, first = .ok middle ∧ answer = f middle := by
  cases first <;> simp [Except.map, eq_comm]

/-- What is done with an answer afterwards is done with the outcome. -/
theorem Inquiry.outcome_bind_done {α β : Type} {resolve : Resolver} (first : Inquiry α) (f : α → β) :
    (first >>= fun answer => pure (f answer)).outcome resolve = (first.outcome resolve).map f := by
  change (first.bind _).outcome resolve = _
  rw [outcome_bind]
  cases first.outcome resolve <;> rfl

theorem Inquiry.outcome_bind_congr {α β : Type} {resolve : Resolver} {first first' : Inquiry α}
    {next next' : α → Inquiry β} (hfirst : first.outcome resolve = first'.outcome resolve)
    (hnext : ∀ answer, (next answer).outcome resolve = (next' answer).outcome resolve) :
    (first >>= next).outcome resolve = (first' >>= next').outcome resolve := by
  change (first.bind next).outcome resolve = (first'.bind next').outcome resolve
  rw [outcome_bind, outcome_bind, hfirst]
  exact congrArg _ (funext hnext)

/-- How a group of these members is written: not at all, as its only member, as the denial of its only
member, or by joining them. -/
theorem Combinator.joins_or (combinator : Combinator) (members : List Rule) :
    members = [] ∨
      (∃ only, members = [only] ∧ (combinator = .none ∨ combinator = .not)) ∨
        combinator.Joins members := by
  match members with
  | [] => exact Or.inl rfl
  | [only] =>
      cases combinator with
      | none => exact Or.inr (Or.inl ⟨only, rfl, Or.inl rfl⟩)
      | not => exact Or.inr (Or.inl ⟨only, rfl, Or.inr rfl⟩)
      | and => exact Or.inr (Or.inr ⟨by simp, fun _ => Or.inl rfl⟩)
      | or => exact Or.inr (Or.inr ⟨by simp, fun _ => Or.inr rfl⟩)
  | first :: second :: rest => exact Or.inr (Or.inr ⟨by simp, by simp⟩)

namespace Rule

/-- What is left of a rule without the groups around it that have no connective and one member. -/
def core : Rule → Rule
  | .group .none _ [only] => only.core
  | rule => rule

/-- The rule comes down to a disjunction. -/
def isDisjunction (rule : Rule) : Bool :=
  match rule.core with
  | .group .or _ _ => true
  | _ => false

/-- The text of a rule by itself, as it stands between connectives. -/
def asOperand (rule : Rule) (text : String) : String :=
  if rule.isDisjunction then "(" ++ text ++ ")" else text

end Rule

/-- The text of a group, from the texts that its members have by themselves. -/
def Combinator.composed (combinator : Combinator) (members : List Rule) (texts : List String) :
    String :=
  let operands := List.zipWith Rule.asOperand members texts
  match combinator, texts with
  | .none, [text] => text
  | .not, [text] => "!(" ++ text ++ ")"
  | .and, _ | .none, _ => "&&".intercalate operands
  | .or, _ => "||".intercalate operands
  | .not, _ => "!(" ++ "&&".intercalate operands ++ ")"

namespace Rule

theorem core_group (combinator : Combinator) (quantity : Option UInt32) {members : List Rule}
    (hpassed : ∀ only, combinator = .none → members ≠ [only]) :
    (group combinator quantity members).core = .group combinator quantity members := by
  unfold core
  split
  · rename_i only heq
    cases heq
    exact absurd rfl (hpassed only rfl)
  · rfl

theorem asOperand_of_not {rule : Rule} (h : rule.isDisjunction = false) : rule.asOperand = id := by
  funext text
  simp [asOperand, h]

end Rule

/-- The position of joined members makes a difference to a disjunction only. -/
theorem Combinator.joined_operand {combinator : Combinator} {members : List Rule}
    (hjoins : combinator.Joins members) (quantity : Option UInt32) :
    combinator.joined .operand =
      (Rule.group combinator quantity members).asOperand ∘ combinator.joined .standalone := by
  have hcore : (Rule.group combinator quantity members).core = .group combinator quantity members := by
    apply Rule.core_group
    rintro only rfl rfl
    rcases hjoins.2 rfl with h | h <;> cases h
  funext texts
  cases combinator <;>
    simp [joined, Position.disjunction, Rule.asOperand, Rule.isDisjunction, hcore]

namespace Target

variable {target : Target} {resolve : Resolver}

/-- Between connectives, a rule has its own text or that text in parentheses. -/
theorem outcome_rule_operand (rule : Rule) :
    (target.rule .operand rule).outcome resolve =
      ((target.rule .standalone rule).outcome resolve).map rule.asOperand := by
  induction rule using Rule.induction with
  | condition c =>
      rw [Rule.asOperand_of_not rfl, Except.map_id]
      rfl
  | group combinator quantity members ih =>
      rcases combinator.joins_or members with rfl | ⟨only, rfl, rfl | rfl⟩ | hjoins
      · rfl
      · exact ih only List.mem_cons_self
      · rw [Rule.asOperand_of_not rfl, Except.map_id]
        rfl
      · rw [target.rule_of_joins hjoins, target.rule_of_joins hjoins, Inquiry.outcome_bind_done,
          Inquiry.outcome_bind_done, combinator.joined_operand hjoins quantity]
        cases (target.operands members).outcome resolve <;> rfl

theorem outcome_rule_operand_eq_ok_iff {rule : Rule} {text : String} :
    (target.rule .operand rule).outcome resolve = .ok text ↔
      ∃ own, (target.rule .standalone rule).outcome resolve = .ok own ∧
        text = rule.asOperand own := by
  rw [outcome_rule_operand, except_map_eq_ok_iff]

/-- The texts of operands are those of the rules by themselves, made operands one by one. -/
theorem forall₂_operand_iff {rules : List Rule} {texts : List String} :
    List.Forall₂ (fun rule text => (target.rule .operand rule).outcome resolve = .ok text)
        rules texts ↔
      ∃ owns, List.Forall₂ (fun rule own =>
          (target.rule .standalone rule).outcome resolve = .ok own) rules owns ∧
        texts = List.zipWith Rule.asOperand rules owns := by
  induction rules generalizing texts with
  | nil => simp
  | cons rule rules ih =>
      simp only [List.forall₂_cons_left_iff, ih]
      constructor
      · rintro ⟨text, later, htext, ⟨owns, howns, rfl⟩, rfl⟩
        obtain ⟨own, hown, rfl⟩ := outcome_rule_operand_eq_ok_iff.mp htext
        exact ⟨own :: owns, ⟨own, owns, hown, howns, rfl⟩, rfl⟩
      · rintro ⟨_, ⟨own, owns, hown, howns, rfl⟩, rfl⟩
        have htext := outcome_rule_operand_eq_ok_iff.mpr ⟨own, hown, rfl⟩
        exact ⟨_, _, htext, ⟨owns, howns, rfl⟩, rfl⟩

theorem composed_of_joins {combinator : Combinator} {members : List Rule}
    (hjoins : combinator.Joins members) {texts : List String}
    (hlength : members.length = texts.length) :
    combinator.composed members texts =
      combinator.joined .standalone (List.zipWith Rule.asOperand members texts) := by
  obtain ⟨hne, hone⟩ := hjoins
  match members, texts with
  | [only], [text] => rcases hone rfl with rfl | rfl <;> rfl
  | first :: second :: rest, own :: owns :: later => cases combinator <;> rfl

/-- A group by itself is written if it has members and all of them are, and its text is composed of
theirs. -/
theorem outcome_group_eq_ok_iff {combinator : Combinator} {quantity : Option UInt32}
    {members : List Rule} {text : String} :
    (target.rule .standalone (.group combinator quantity members)).outcome resolve = .ok text ↔
      members ≠ [] ∧ ∃ texts, List.Forall₂ (fun member own =>
          (target.rule .standalone member).outcome resolve = .ok own) members texts ∧
        text = combinator.composed members texts := by
  rcases combinator.joins_or members with rfl | ⟨only, rfl, rfl | rfl⟩ | hjoins
  · simp [rule, Inquiry.outcome]
  · simp [rule, Combinator.composed, List.forall₂_cons_left_iff]
  · rw [rule, Inquiry.outcome_bind_done, except_map_eq_ok_iff]
    simp [Combinator.composed, List.forall₂_cons_left_iff]
  · rw [target.outcome_rule_of_joins_eq_ok_iff hjoins]
    simp only [forall₂_operand_iff]
    constructor
    · rintro ⟨_, ⟨owns, howns, rfl⟩, rfl⟩
      exact ⟨hjoins.1, owns, howns, (composed_of_joins hjoins howns.length_eq).symm⟩
    · rintro ⟨-, owns, howns, rfl⟩
      exact ⟨_, ⟨owns, howns, rfl⟩, composed_of_joins hjoins howns.length_eq⟩

end Target

/-! ## Replacing parts -/

/-- The rules end alike in every position. -/
def Target.EndsAlike (target : Target) (resolve : Resolver) (rule other : Rule) : Prop :=
  ∀ position, (target.rule position rule).outcome resolve =
    (target.rule position other).outcome resolve

/-- The part is replaced by the other at one place of a rule, at any depth. -/
inductive Rule.Replaced (part other : Rule) : Rule → Rule → Prop where
  | here : Replaced part other part other
  | inside {combinator : Combinator} {quantity : Option UInt32} {before after : List Rule}
      {member member' : Rule} : Replaced part other member member' →
        Replaced part other (.group combinator quantity (before ++ member :: after))
          (.group combinator quantity (before ++ member' :: after))

namespace Target.EndsAlike

variable {target : Target} {resolve : Resolver}

theorem outcome_operands {members others : List Rule}
    (h : List.Forall₂ (target.EndsAlike resolve) members others) :
    (target.operands members).outcome resolve = (target.operands others).outcome resolve := by
  induction h with
  | nil => rfl
  | cons hmember _ ih =>
      apply Inquiry.outcome_bind_congr (hmember .operand)
      intro text
      exact Inquiry.outcome_bind_congr ih fun texts => rfl

/-- Groups of members that end alike one by one end alike. -/
theorem group {members others : List Rule}
    (h : List.Forall₂ (target.EndsAlike resolve) members others) (combinator : Combinator)
    (quantity : Option UInt32) :
    target.EndsAlike resolve (.group combinator quantity members)
      (.group combinator quantity others) := by
  intro position
  rcases combinator.joins_or members with rfl | ⟨only, rfl, hpassed⟩ | hjoins
  · cases h
    rfl
  · obtain ⟨other, _, halike, hnil, rfl⟩ := List.forall₂_cons_left_iff.mp h
    cases hnil
    rcases hpassed with rfl | rfl
    · exact halike position
    · exact Inquiry.outcome_bind_congr (halike .standalone) fun text => rfl
  · have hothers : combinator.Joins others := by
      constructor
      · rintro rfl
        cases h
        exact hjoins.1 rfl
      · intro hlength
        exact hjoins.2 (h.length_eq.trans hlength)
    rw [target.rule_of_joins hjoins, target.rule_of_joins hothers]
    exact Inquiry.outcome_bind_congr (outcome_operands h) fun texts => rfl

theorem replaced {part other rule rule' : Rule} (hpart : target.EndsAlike resolve part other)
    (h : Rule.Replaced part other rule rule') : target.EndsAlike resolve rule rule' := by
  induction h with
  | here => exact hpart
  | inside _ ih =>
      apply group
      have hsame (members : List Rule) : List.Forall₂ (target.EndsAlike resolve) members members :=
        List.forall₂_same.mpr fun _ _ _ => rfl
      exact List.rel_append (hsame _) (.cons ih (hsame _))

end Target.EndsAlike

namespace Dialect

/-- A group has an expression if it has members and all of them have one by themselves, and it is
composed of theirs. Rules that must all hold are such a group without a connective. -/
theorem written_from_members (dialect : Dialect) (entity : String) (resolve : Resolver) :
    (∀ combinator quantity members text,
      (dialect.write entity (.group combinator quantity members)).outcome resolve = .ok text ↔
        members ≠ [] ∧ ∃ texts, List.Forall₂ (fun member own =>
            (dialect.write entity member).outcome resolve = .ok own) members texts ∧
          text = combinator.composed members texts) ∧
    (∀ rules text, (dialect.writeAll entity rules).outcome resolve = .ok text ↔
        rules ≠ [] ∧ ∃ texts, List.Forall₂ (fun rule own =>
            (dialect.write entity rule).outcome resolve = .ok own) rules texts ∧
          text = Combinator.none.composed rules texts) := by
  have hgroup (combinator : Combinator) (quantity : Option UInt32) (members : List Rule)
      (text : String) :
      (dialect.write entity (.group combinator quantity members)).outcome resolve = .ok text ↔
        members ≠ [] ∧ ∃ texts, List.Forall₂ (fun member own =>
            (dialect.write entity member).outcome resolve = .ok own) members texts ∧
          text = combinator.composed members texts := by
    cases hentity : Path.isPath entity with
    | true =>
        simp only [outcome_write_of_isPath hentity]
        exact Target.outcome_group_eq_ok_iff
    | false =>
        simp only [outcome_write_of_not_isPath hentity, reduceCtorEq, false_iff]
        rintro ⟨hne, texts, htexts, -⟩
        cases htexts with
        | nil => exact hne rfl
        | cons hmember => cases hmember
  exact ⟨hgroup, fun rules text => hgroup .none none rules text⟩

example :
    let isNull (field : String) := Rule.condition ⟨field, .null false, ""⟩
    let either := Rule.group .or none [isNull "a", isNull "b"]
    let passed := Rule.group .none none [.group .none (some 2) [either]]
    (mvel.write "order" (.group .and none [passed, isNull "c"])).outcome (fun _ _ => some .date) =
      .ok "(order.a==null||order.b==null)&&order.c==null" := by
  decide +kernel

end Dialect

end RuleExpr
