import Mathlib.Algebra.BigOperators.Group.Multiset.Basic
import Mathlib.Algebra.GroupWithZero.Nat
import Mathlib.Logic.Relation
import RuleExpr.Proofs.Composition
import RuleExpr.Proofs.FirstRefusal
import RuleExpr.Proofs.Meaning
/-!
The order of members. Where the members of groups change places, at any number of places and depths, the
text of a rule changes and nothing else about it: it has an expression as before, of the same length, and
in MVEL the expression has the same truth value. What is found of a group from what is found of its
members in any order is the same for reordered rules, and each of the three is such a finding.
-/
namespace RuleExpr

namespace Rule

/-- One group in the rule, at any depth, has its members in another order. -/
def ReorderedOnce (rule rule' : Rule) : Prop :=
  ∃ combinator quantity members members', List.Perm members members' ∧
    Replaced (.group combinator quantity members) (.group combinator quantity members') rule rule'

/-- Any number of groups have their members in another order, one after the other. -/
def Reordered : Rule → Rule → Prop :=
  Relation.ReflTransGen ReorderedOnce

theorem Reordered.members {combinator : Combinator} {quantity : Option UInt32}
    {members members' : List Rule} (hperm : members.Perm members') :
    (group combinator quantity members).Reordered (.group combinator quantity members') :=
  Relation.ReflTransGen.single ⟨combinator, quantity, members, members', hperm, .here⟩

/-- A reordered member makes a reordered group. -/
theorem Reordered.inside {combinator : Combinator} {quantity : Option UInt32}
    {before after : List Rule} {member member' : Rule} (h : member.Reordered member') :
    (group combinator quantity (before ++ member :: after)).Reordered
      (.group combinator quantity (before ++ member' :: after)) := by
  induction h with
  | refl => exact .refl
  | tail _ honce ih =>
      obtain ⟨inner, innerQuantity, members, members', hperm, hreplaced⟩ := honce
      exact ih.tail ⟨inner, innerQuantity, members, members', hperm, .inside hreplaced⟩

section

variable {α : Type} {find : Rule → α}

/-- Members with the same findings in another order make groups with the same finding. -/
def OrderBlind (find : Rule → α) : Prop :=
  ∀ combinator quantity members members', (members.map find).Perm (members'.map find) →
    find (.group combinator quantity members) = find (.group combinator quantity members')

theorem ReorderedOnce.find_eq (hfind : OrderBlind find) {rule rule' : Rule}
    (h : rule.ReorderedOnce rule') : find rule = find rule' := by
  obtain ⟨combinator, quantity, members, members', hperm, hreplaced⟩ := h
  induction hreplaced with
  | here => exact hfind combinator quantity members members' (hperm.map find)
  | @inside outer outerQuantity before after member member' _ ih =>
      apply hfind
      rw [List.map_append, List.map_append, List.map_cons, List.map_cons, ih]

theorem Reordered.find_eq (hfind : OrderBlind find) {rule rule' : Rule}
    (h : rule.Reordered rule') : find rule = find rule' := by
  induction h with
  | refl => rfl
  | tail _ honce ih => exact ih.trans (honce.find_eq hfind)

end

/-! ## Items -/

theorem coe_flatMap_items (rules : List Rule) :
    (rules.flatMap items : Multiset Item) =
      (rules.map fun rule => (rule.items : Multiset Item)).sum := by
  induction rules with
  | nil => rfl
  | cons rule rules ih =>
      rw [List.flatMap_cons, ← Multiset.coe_add, ih, List.map_cons, List.sum_cons]

theorem orderBlind_items : OrderBlind fun rule => (rule.items : Multiset Item) := by
  intro combinator quantity members members' hperm
  by_cases hmembers : members = []
  · subst hmembers
    have hmembers' : members' = [] := by simpa using hperm.symm.eq_nil
    rw [hmembers']
  · have hmembers' : members' ≠ [] := by
      rintro rfl
      exact hmembers (by simpa using hperm.eq_nil)
    dsimp only
    rw [items_group hmembers, items_group hmembers', coe_flatMap_items, coe_flatMap_items,
      hperm.sum_eq]

/-- Reordered rules have the same items, in another order. -/
theorem Reordered.perm_items {rule rule' : Rule} (h : rule.Reordered rule') :
    rule.items.Perm rule'.items :=
  Multiset.coe_eq_coe.mp (h.find_eq orderBlind_items)

/-! ## Values -/

theorem orderBlind_value (holds : Condition → Bool) : OrderBlind (value holds) := by
  intro combinator quantity members members' hperm
  rw [value, value, values_eq_map, values_eq_map]
  cases combinator with
  | and | none => exact hperm.all_eq
  | or => exact hperm.any_eq
  | not => exact congrArg (!·) hperm.all_eq

end Rule

/-! ## Lengths -/

theorem Text.utf8ByteSize_intercalate (separator : String) (texts : List String) :
    (separator.intercalate texts).utf8ByteSize =
      (texts.map String.utf8ByteSize).sum + separator.utf8ByteSize * (texts.length - 1) := by
  induction texts with
  | nil => simp
  | cons text texts ih =>
      by_cases htexts : texts = []
      · simp [htexts]
      · obtain ⟨next, later, rfl⟩ := List.exists_cons_of_ne_nil htexts
        rw [String.intercalate_cons_of_ne_nil htexts, String.utf8ByteSize_append,
          String.utf8ByteSize_append, ih]
        simp only [List.map_cons, List.sum_cons, List.length_cons, Nat.add_sub_cancel, Nat.mul_succ]
        omega

namespace Combinator

/-- The length of what is put around the joined texts of a group's members. -/
def frameLength : Combinator → Position → Nat
  | .not, _ => 3
  | .or, .operand => 2
  | _, _ => 0

/-- The length of a group's text, from the lengths of its members. A connective has two characters. -/
def joinedLength (combinator : Combinator) (position : Position) (lengths : List Nat) : Nat :=
  lengths.sum + 2 * (lengths.length - 1) + combinator.frameLength position

theorem utf8ByteSize_joined (combinator : Combinator) (position : Position) (texts : List String) :
    (combinator.joined position texts).utf8ByteSize =
      combinator.joinedLength position (texts.map String.utf8ByteSize) := by
  have hconnective : "&&".utf8ByteSize = 2 ∧ "||".utf8ByteSize = 2 := by decide
  have hframe : "(".utf8ByteSize = 1 ∧ ")".utf8ByteSize = 1 ∧ "!(".utf8ByteSize = 2 := by decide
  cases combinator <;> cases position <;>
    simp only [joined, joinedLength, frameLength, Position.disjunction,
      String.utf8ByteSize_append, Text.utf8ByteSize_intercalate, List.length_map, hconnective,
      hframe] <;>
    omega

theorem joinedLength_perm (combinator : Combinator) (position : Position)
    {lengths lengths' : List Nat} (hperm : lengths.Perm lengths') :
    combinator.joinedLength position lengths = combinator.joinedLength position lengths' := by
  rw [joinedLength, joinedLength, hperm.sum_eq, hperm.length_eq]

theorem Joins.of_length_eq {combinator : Combinator} {members members' : List Rule}
    (h : combinator.Joins members) (hlength : members.length = members'.length) :
    combinator.Joins members' := by
  constructor
  · rintro rfl
    exact h.1 (List.eq_nil_of_length_eq_zero hlength)
  · intro hone
    exact h.2 (hlength.trans hone)

end Combinator

namespace Rule

mutual

/-- The length of the text of a rule in a position, from the lengths of its conditions' texts. -/
def length (lengthOf : Condition → Nat) : Rule → Position → Nat
  | .condition c, _ => lengthOf c
  | .group .none _ [only], position => only.length lengthOf position
  | .group .not _ [only], _ => only.length lengthOf .standalone + 3
  | .group combinator _ members, position =>
      combinator.joinedLength position (lengths lengthOf members)

/-- The lengths of the texts of rules as operands. -/
def lengths (lengthOf : Condition → Nat) : List Rule → List Nat
  | [] => []
  | rule :: rules => rule.length lengthOf .operand :: lengths lengthOf rules

end

variable {lengthOf : Condition → Nat}

theorem lengths_eq_map (rules : List Rule) :
    lengths lengthOf rules = rules.map fun rule => rule.length lengthOf .operand := by
  induction rules with
  | nil => rfl
  | cons rule rules ih => rw [lengths, ih, List.map_cons]

theorem length_of_joins {combinator : Combinator} {members : List Rule}
    (hjoins : combinator.Joins members) (quantity : Option UInt32) (position : Position) :
    (group combinator quantity members).length lengthOf position =
      combinator.joinedLength position
        (members.map fun member => member.length lengthOf .operand) := by
  obtain ⟨hmembers, hone⟩ := hjoins
  rw [← lengths_eq_map]
  match members with
  | [] => exact absurd rfl hmembers
  | [only] => rcases hone rfl with rfl | rfl <;> rfl
  | first :: second :: rest => cases combinator <;> rfl

theorem orderBlind_length : OrderBlind (length lengthOf) := by
  intro combinator quantity members members' hperm
  have hlength : members.length = members'.length := by simpa using hperm.length_eq
  funext position
  rcases combinator.joins_or members with rfl | ⟨only, rfl, hpassed⟩ | hjoins
  · rw [List.eq_nil_of_length_eq_zero hlength.symm]
  · obtain ⟨only', rfl⟩ := List.length_eq_one_iff.mp hlength.symm
    have honly : only.length lengthOf = only'.length lengthOf := by simpa using hperm
    rcases hpassed with rfl | rfl
    · exact congrFun honly position
    · exact congrArg (· + 3) (congrFun honly .standalone)
  · have hoperands := hperm.map fun lengthIn => lengthIn .operand
    rw [List.map_map, List.map_map] at hoperands
    rw [length_of_joins hjoins, length_of_joins (hjoins.of_length_eq hlength)]
    exact combinator.joinedLength_perm position hoperands

end Rule

namespace Target

variable {target : Target} {resolve : Resolver}

/-- The length of the text of a condition, and zero if it is refused. -/
def conditionLength (target : Target) (resolve : Resolver) (c : Condition) : Nat :=
  match (target.condition c).outcome resolve with
  | .ok text => text.utf8ByteSize
  | .error _ => 0

/-- The text of a rule is as long as the lengths of its conditions' texts say. -/
theorem utf8ByteSize_eq_length {position : Position} {rule : Rule} {text : String}
    (h : (target.rule position rule).outcome resolve = .ok text) :
    text.utf8ByteSize = rule.length (target.conditionLength resolve) position := by
  refine Target.written_induction _
    (motive := fun position rule text =>
      text.utf8ByteSize = rule.length (target.conditionLength resolve) position)
    ?condition ?passed ?denied ?joined h
  case condition =>
      intro position c text hwritten
      rw [Rule.length, conditionLength, hwritten]
  case passed =>
      intro position quantity only text honly
      exact honly
  case denied =>
      intro position quantity only text honly
      have hmarks : "!(".utf8ByteSize = 2 ∧ ")".utf8ByteSize = 1 := by decide
      rw [Rule.length, ← honly, String.utf8ByteSize_append, String.utf8ByteSize_append, hmarks.1,
        hmarks.2]
      omega
  case joined =>
      intro position combinator quantity members texts hjoins hmembers
      have hlengths : texts.map String.utf8ByteSize =
          members.map fun member => member.length (target.conditionLength resolve) .operand := by
        rw [← List.forall₂_eq_eq_eq, List.forall₂_map_left_iff, List.forall₂_map_right_iff]
        exact hmembers.flip
      rw [combinator.utf8ByteSize_joined, Rule.length_of_joins hjoins, hlengths]

end Target

namespace Dialect

/-- Reordered rules both have an expression or both have none. Their expressions are of one length, and in
MVEL they are read with the same truth value whatever truth values single comparisons have. -/
theorem order_in_text_only (dialect : Dialect) (entity : String) (resolve : Resolver)
    {rule rule' : Rule} (h : rule.Reordered rule') :
    ((∃ text, (dialect.write entity rule).outcome resolve = .ok text) ↔
      ∃ text, (dialect.write entity rule').outcome resolve = .ok text) ∧
    ∀ text text', (dialect.write entity rule).outcome resolve = .ok text →
      (dialect.write entity rule').outcome resolve = .ok text' →
        text.utf8ByteSize = text'.utf8ByteSize ∧
          (dialect = mvel → ∀ truth : String → Bool, ∃ value,
            reading truth text = some value ∧ reading truth text' = some value) := by
  refine ⟨?_, ?_⟩
  · cases hentity : Path.isPath entity with
    | true =>
        simp only [outcome_write_of_isPath hentity, Target.outcome_rule_eq_ok_iff,
          h.perm_items.mem_iff]
    | false => simp only [outcome_write_of_not_isPath hentity]
  · intro text text' htext htext'
    obtain ⟨hentity, hwritten⟩ := outcome_write_eq_ok_iff.mp htext
    obtain ⟨-, hwritten'⟩ := outcome_write_eq_ok_iff.mp htext'
    refine ⟨?_, ?_⟩
    · rw [Target.utf8ByteSize_eq_length hwritten, Target.utf8ByteSize_eq_length hwritten',
        h.find_eq Rule.orderBlind_length]
    · rintro rfl truth
      have hvalue := h.find_eq (Rule.orderBlind_value (Condition.holds truth entity resolve))
      refine ⟨_, Disjunction.reading_eq (Rule.reads hentity hwritten), ?_⟩
      rw [hvalue]
      exact Disjunction.reading_eq (Rule.reads hentity hwritten')

/-- A conjunction and a disjunction in it, both with their members exchanged. A range stays one operand. -/
theorem exchanged_members_read_alike :
    let catalog := (Catalog.empty.insert "order" "status" .string).insert "order" "total" .numeric
    let listed := Rule.condition ⟨"status", .compare .equal, "a\"||b"⟩
    let range := Rule.condition ⟨"total", .range false, "1,2"⟩
    let denied := Rule.group .not none [.condition ⟨"status", .null false, ""⟩]
    let rule := Rule.group .and none [.group .or none [listed, range], denied]
    let rule' := Rule.group .and none [denied, .group .or none [range, listed]]
    let text := "(order.status==\"a\\\"||b\"||order.total>1&&order.total<2)&&!(order.status==null)"
    let text' := "!(order.status==null)&&(order.total>1&&order.total<2||order.status==\"a\\\"||b\")"
    (rule.Reordered rule' ∧ (mvel.write "order" rule).outcome catalog.resolver = .ok text ∧
      (mvel.write "order" rule').outcome catalog.resolver = .ok text') ∧
    text.utf8ByteSize = text'.utf8ByteSize ∧ ∀ truth, ∃ value,
      reading truth text = some value ∧ reading truth text' = some value := by
  intro catalog listed range denied rule rule' text text'
  have hinner : (Rule.group .or none [listed, range]).Reordered (.group .or none [range, listed]) :=
    .members (.swap range listed [])
  have houter : rule.Reordered (.group .and none [.group .or none [range, listed], denied]) :=
    @Rule.Reordered.inside .and none [] [denied] _ _ hinner
  have hreordered : rule.Reordered rule' :=
    Relation.ReflTransGen.trans houter (Rule.Reordered.members (.swap denied _ []))
  have htext : (mvel.write "order" rule).outcome catalog.resolver = .ok text := by
    decide +kernel
  have htext' : (mvel.write "order" rule').outcome catalog.resolver = .ok text' := by
    decide +kernel
  have halike := (order_in_text_only mvel "order" catalog.resolver hreordered).2 text text' htext
    htext'
  exact ⟨⟨hreordered, htext, htext'⟩, halike.1, halike.2 rfl⟩

end Dialect

end RuleExpr
