import RuleExpr.Proofs.FirstRefusal
/-!
The trail of a rule: what can be observed of its writing along the way, such as the questions put. It is
the trails of its items in order, up to the first refused one, through every combinator and in every
position.
-/
namespace RuleExpr

/-- An observation of inquiries that adds up when one follows another. Nothing is observed of a second
inquiry if the first one is refused. -/
structure Inquiry.Observes {γ : Type} (resolve : Resolver)
    (observe : {α : Type} → Inquiry α → List γ) : Prop where
  done : ∀ {α : Type} (answer : α), observe (.done answer) = []
  refuse : ∀ {α : Type} (refusal : Refusal), observe (.refuse refusal : Inquiry α) = []
  bind : ∀ {α β : Type} (first : Inquiry α) (next : α → Inquiry β),
    observe (first >>= next) = observe first ++
      match first.outcome resolve with
      | .ok answer => observe (next answer)
      | .error _ => []

theorem Inquiry.observes_lookups (resolve : Resolver) :
    Observes resolve fun inquiry => inquiry.lookups resolve where
  done _ := rfl
  refuse _ := rfl
  bind := lookups_bind resolve

namespace Inquiry.Observes

variable {γ : Type} {resolve : Resolver} {observe : {α : Type} → Inquiry α → List γ}

/-- A second inquiry of which nothing can be observed leaves no trail. -/
theorem bind_of_nil (h : Observes resolve observe) {α β : Type} (first : Inquiry α)
    {next : α → Inquiry β} (hnext : ∀ answer, observe (next answer) = []) :
    observe (first >>= next) = observe first := by
  rw [h.bind]
  cases first.outcome resolve <;> simp [hnext]

/-- What is done with an answer afterwards leaves no trail. -/
theorem bind_done (h : Observes resolve observe) {α β : Type} (first : Inquiry α) (f : α → β) :
    observe (first >>= fun answer => pure (f answer)) = observe first :=
  h.bind_of_nil first fun answer => h.done (f answer)

end Inquiry.Observes

/-- The trails of items, up to the first refused one and with its own. -/
def Item.trail {γ : Type} (refused : Item → Bool) (observe : Item → List γ) :
    List Item → List γ
  | [] => []
  | item :: items => observe item ++ if refused item then [] else trail refused observe items

namespace Item

variable {γ : Type} {refused : Item → Bool} {observe : Item → List γ}

theorem trail_append (first last : List Item) :
    trail refused observe (first ++ last) =
      trail refused observe first ++
        if first.any refused then [] else trail refused observe last := by
  induction first with
  | nil => rfl
  | cons item items ih =>
      rw [List.cons_append, trail, trail, List.any_cons]
      cases refused item with
      | true => simp
      | false => simp [ih]

/-- If no item is refused, then all of them count. -/
theorem trail_eq_flatMap {items : List Item} (h : ∀ item ∈ items, refused item = false) :
    trail refused observe items = items.flatMap observe := by
  induction items with
  | nil => rfl
  | cons item items ih =>
      rw [trail, h item List.mem_cons_self, List.flatMap_cons,
        ih fun later hlater => h later (List.mem_cons_of_mem item hlater)]
      rfl

/-- Of the items from the first refused one on, only this one counts. -/
theorem trail_of_refused {before after : List Item} {item : Item}
    (hbefore : ∀ earlier ∈ before, refused earlier = false) (hitem : refused item = true) :
    trail refused observe (before ++ item :: after) = before.flatMap observe ++ observe item := by
  have hnone : before.any refused = false := by simpa using hbefore
  rw [trail_append, trail_eq_flatMap hbefore, hnone, trail, hitem]
  simp

/-- Every observation of a trail is one of an item. -/
theorem exists_of_mem_trail {items : List Item} {seen : γ}
    (hseen : seen ∈ trail refused observe items) : ∃ item ∈ items, seen ∈ observe item := by
  induction items with
  | nil => cases hseen
  | cons item items ih =>
      rw [trail, List.mem_append] at hseen
      rcases hseen with hitem | hlater
      · exact ⟨item, List.mem_cons_self, hitem⟩
      · split at hlater
        · cases hlater
        · obtain ⟨later, hmem, hlater⟩ := ih hlater
          exact ⟨later, List.mem_cons_of_mem item hmem, hlater⟩

end Item

namespace Target

variable (target : Target) {resolve : Resolver} {γ : Type}

/-- What is observed of an item that is written alone. -/
def observeItem (observe : {α : Type} → Inquiry α → List γ) : Item → List γ
  | .condition c => observe (target.condition c)
  | .childless _ => []

section

variable {observe : {α : Type} → Inquiry α → List γ}
  (hobserve : Inquiry.Observes resolve observe)

include hobserve

theorem observe_operands {rules : List Rule}
    (hrules : ∀ rule ∈ rules, observe (target.rule .operand rule) =
      Item.trail (fun item => (target.itemRefusal? resolve item).isSome)
        (target.observeItem observe) rule.items) :
    observe (target.operands rules) =
      Item.trail (fun item => (target.itemRefusal? resolve item).isSome)
        (target.observeItem observe) (rules.flatMap Rule.items) := by
  induction rules with
  | nil => exact hobserve.done []
  | cons rule rules ih =>
      have hlater := ih fun member hmember => hrules member (List.mem_cons_of_mem rule hmember)
      have hrefused : (rule.items.any fun item => (target.itemRefusal? resolve item).isSome) =
          ((target.rule .operand rule).refusal? resolve).isSome := by
        rw [refusal?_rule, List.isSome_findSome?]
      rw [operands, List.flatMap_cons, Item.trail_append, hrefused, ← hlater,
        ← hrules rule List.mem_cons_self, hobserve.bind, Inquiry.refusal?]
      cases (target.rule .operand rule).outcome resolve with
      | ok text => simp [hobserve.bind_done]
      | error refusal => rfl

/-- The trail of a rule in any position is the one of its items. -/
theorem observe_rule (position : Position) (rule : Rule) :
    observe (target.rule position rule) =
      Item.trail (fun item => (target.itemRefusal? resolve item).isSome)
        (target.observeItem observe) rule.items := by
  induction position, rule using Rule.writing_induction with
  | condition position c => simp [Rule.items, Item.trail, observeItem, rule]
  | childless position combinator quantity =>
      simp only [Rule.items, Item.trail, observeItem, rule, hobserve.refuse, List.nil_append]
      split <;> rfl
  | passed position quantity only ih =>
      rw [Rule.items_group (by simp), List.flatMap_singleton, ← ih]
      rfl
  | denied position quantity only ih =>
      rw [Rule.items_group (by simp), List.flatMap_singleton, ← ih]
      exact hobserve.bind_done _ _
  | joined position combinator quantity members hjoins ih =>
      rw [target.rule_of_joins hjoins, hobserve.bind_done, Rule.items_group hjoins.1]
      exact target.observe_operands hobserve ih

end

end Target

end RuleExpr
