import RuleExpr.Proofs.Trail
/-!
The questions that writing a rule puts to the resolver. They come from the conditions in order: the field
of a condition, and after it the field that it is compared with. The first refused condition may end its
own questions early, and nothing is asked after it.
-/
namespace RuleExpr

namespace Condition

/-- The fields that a condition compares. -/
def lookups (c : Condition) (entity : String) : List (String × String) :=
  (entity, c.field) ::
    if c.operator.comparesFields then [(entity, Text.trim c.value)] else []

/-- The fields that are asked for, whether or not the condition is refused. The field on the right comes
up once the one on the left is known to have a permitted type, if it is a path. -/
def asked (c : Condition) (entity : String) (resolve : Resolver) : List (String × String) :=
  if !Path.isPath c.field then []
  else if c.operator.comparesFields && (resolve entity c.field).any c.operator.permits &&
      Path.isPath (Text.trim c.value) then
    [(entity, c.field), (entity, Text.trim c.value)]
  else [(entity, c.field)]

theorem isPath_of_mem_asked {c : Condition} {entity : String} {resolve : Resolver}
    {lookup : String × String} (h : lookup ∈ c.asked entity resolve) :
    lookup.1 = entity ∧ Path.isPath lookup.2 = true := by
  unfold asked at h
  split at h
  · cases h
  · rename_i hfield
    have hfield : Path.isPath c.field = true := by simpa using hfield
    split at h
    · rename_i hright
      rw [Bool.and_eq_true] at hright
      simp only [List.mem_cons, List.not_mem_nil, or_false] at h
      rcases h with rfl | rfl
      · exact ⟨rfl, hfield⟩
      · exact ⟨rfl, hright.2⟩
    · rw [List.mem_singleton] at h
      subst h
      exact ⟨rfl, hfield⟩

end Condition

namespace Item

def lookups (entity : String) : Item → List (String × String)
  | .condition c => c.lookups entity
  | .childless _ => []

def asked (entity : String) (resolve : Resolver) : Item → List (String × String)
  | .condition c => c.asked entity resolve
  | .childless _ => []

end Item

/-- Groups without members compare nothing. -/
theorem Rule.flatMap_lookups_items (rule : Rule) (entity : String) :
    rule.items.flatMap (Item.lookups entity) =
      rule.conditions.flatMap (Condition.lookups · entity) := by
  rw [conditions]
  induction rule.items with
  | nil => rfl
  | cons item items ih =>
      cases item with
      | condition c => simp [Item.lookups, ih]
      | childless combinator => simp [Item.lookups, ih]

namespace Target

open Inquiry

variable {target : Target} {resolve : Resolver} {c : Condition} {type : FieldType}

@[simp] theorem lookups_ofExcept {α : Type} (result : Except Refusal α) :
    (ofExcept result).lookups resolve = [] := by
  cases result <;> rfl

theorem lookups_typeOf (field : String) :
    (target.typeOf field).lookups resolve =
      if Path.isPath field then [(target.entity, field)] else [] := by
  unfold typeOf
  split
  · rw [lookups]
    cases resolve target.entity field <;> rfl
  · rfl

theorem lookups_comparison :
    (target.comparison c type).lookups resolve =
      if c.operator.comparesFields && Path.isPath (Text.trim c.value) then
        [(target.entity, Text.trim c.value)]
      else [] := by
  unfold comparison
  cases hoperator : c.operator with
  | compare sign => simp [Operator.comparesFields]
  | compareFolded negated => rfl
  | method method negated folded => rfl
  | null negated => rfl
  | range inclusive => simp [Operator.comparesFields]
  | compareField sign =>
      rw [Operator.comparesFields, Bool.true_and, ← lookups_typeOf]
      apply (observes_lookups resolve).bind_of_nil
      intro otherType
      split
      · rfl
      · split <;> rfl

theorem lookups_condition :
    (target.condition c).lookups resolve = c.asked target.entity resolve := by
  rw [condition, (observes_lookups resolve).bind, lookups_typeOf, Condition.asked]
  by_cases hpath : Path.isPath c.field = true
  · cases hknown : resolve target.entity c.field with
    | none =>
        have hunknown : (target.typeOf c.field).outcome resolve =
            .error (.unknownField target.entity c.field) :=
          outcome_typeOf_eq_error_iff.mpr (Or.inr ⟨hpath, hknown, rfl⟩)
        simp [hpath, hunknown]
    | some type =>
        have htype : (target.typeOf c.field).outcome resolve = .ok type :=
          outcome_typeOf_eq_ok_iff.mpr ⟨hpath, hknown⟩
        by_cases hpermits : c.operator.permits type = true
        · have hcomparison : (target.comparison c type >>= fun text =>
                note (.rendered c.field c.operator type) (done text)).lookups resolve =
              (target.comparison c type).lookups resolve :=
            (observes_lookups resolve).bind_of_nil _ fun _ => rfl
          simp only [hpath, htype, hpermits, Option.any_some, Bool.not_true, Bool.false_eq_true,
            if_true, if_false, hcomparison, lookups_comparison, Bool.and_true]
          split <;> rfl
        · simp [hpath, htype, hpermits, lookups]
  · have hrefused : (target.typeOf c.field).outcome resolve = .error (.invalidPath c.field) :=
      outcome_typeOf_eq_error_iff.mpr (Or.inl ⟨by simpa using hpath, rfl⟩)
    simp [hpath, hrefused]

/-- A condition that is not refused asks for all fields that it compares. -/
theorem asked_eq_lookups (h : target.itemRefusal? resolve (.condition c) = none) :
    c.asked target.entity resolve = c.lookups target.entity := by
  obtain ⟨text, htext⟩ := refusal?_eq_none_iff.mp h
  obtain ⟨type, htype, hpermits, hcomparison⟩ := outcome_condition_eq_ok_iff.mp htext
  obtain ⟨hpath, hknown⟩ := outcome_typeOf_eq_ok_iff.mp htype
  have hright : c.operator.comparesFields = true → Path.isPath (Text.trim c.value) = true := by
    intro hcompares
    cases hoperator : c.operator with
    | compareField sign =>
        rw [comparison, hoperator] at hcomparison
        obtain ⟨otherType, hother, -⟩ := outcome_compareField_eq_ok_iff.mp hcomparison
        exact (outcome_typeOf_eq_ok_iff.mp hother).1
    | compare | compareFolded | method | null | range =>
        rw [hoperator] at hcompares
        contradiction
  unfold Condition.asked Condition.lookups
  cases hcompares : c.operator.comparesFields with
  | true => simp [hpath, hknown, hpermits, hright hcompares]
  | false => simp [hpath]

theorem observeItem_lookups (item : Item) :
    target.observeItem (fun inquiry => inquiry.lookups resolve) item =
      item.asked target.entity resolve := by
  cases item with
  | condition c => exact lookups_condition
  | childless combinator => rfl

theorem asked_item_eq_lookups {item : Item} (h : target.itemRefusal? resolve item = none) :
    item.asked target.entity resolve = item.lookups target.entity := by
  cases item with
  | condition c => exact asked_eq_lookups h
  | childless combinator => cases h

end Target

namespace Dialect

/-- Only paths of the entity are asked for. An entity that is no path is asked nothing. If the rule has
an expression, its conditions ask for their fields in order; and if it is refused, the first refused item
is the last one to ask. -/
structure AsksInOrder (dialect : Dialect) (entity : String) (resolve : Resolver) (rule : Rule)
    (outcome : Except Refusal String) (lookups : List (String × String)) : Prop where
  paths : ∀ lookup ∈ lookups, lookup.1 = entity ∧ Path.isPath lookup.2 = true
  entity_first : Path.isPath entity = false → lookups = []
  written : ∀ text, outcome = .ok text →
    lookups = rule.conditions.flatMap (Condition.lookups · entity)
  refused : Path.isPath entity = true → ∀ refusal, outcome = .error refusal →
    ∃ before item after, rule.items = before ++ item :: after ∧
      (∀ earlier ∈ before, dialect.itemRefusal? entity resolve earlier = none) ∧
        dialect.itemRefusal? entity resolve item = some refusal ∧
          lookups = before.flatMap (Item.lookups entity) ++ item.asked entity resolve

variable {dialect : Dialect} {entity : String} {resolve : Resolver}

theorem lookups_write (rule : Rule) :
    (dialect.write entity rule).lookups resolve =
      if Path.isPath entity then
        Item.trail (fun item => (dialect.itemRefusal? entity resolve item).isSome)
          (Item.asked entity resolve) rule.items
      else [] := by
  rw [write, Inquiry.lookups_closing, Target.expression]
  split
  · rename_i hentity
    have hasked : (Target.mk dialect entity).observeItem (fun inquiry => inquiry.lookups resolve) =
        Item.asked entity resolve :=
      funext Target.observeItem_lookups
    rw [itemRefusal?_eq hentity, ← hasked]
    exact Target.observe_rule _ (Inquiry.observes_lookups resolve) .standalone rule
  · rfl

theorem isPath_of_mem_trail {refused : Item → Bool} {items : List Item}
    {lookup : String × String} (h : lookup ∈ Item.trail refused (Item.asked entity resolve) items) :
    lookup.1 = entity ∧ Path.isPath lookup.2 = true := by
  obtain ⟨item, _, hasked⟩ := Item.exists_of_mem_trail h
  cases item with
  | condition c => exact Condition.isPath_of_mem_asked hasked
  | childless combinator => cases hasked

/-- Items that are not refused ask for all that they compare. -/
theorem flatMap_asked_eq_lookups (hentity : Path.isPath entity = true) {items : List Item}
    (h : ∀ item ∈ items, dialect.itemRefusal? entity resolve item = none) :
    items.flatMap (Item.asked entity resolve) = items.flatMap (Item.lookups entity) := by
  rw [itemRefusal?_eq hentity] at h
  apply List.flatMap_congr
  intro item hitem
  exact Target.asked_item_eq_lookups (h item hitem)

theorem asksInOrder_write (rule : Rule) :
    dialect.AsksInOrder entity resolve rule ((dialect.write entity rule).outcome resolve)
      ((dialect.write entity rule).lookups resolve) where
  paths lookup hlookup := by
    rw [lookups_write] at hlookup
    split at hlookup
    · exact isPath_of_mem_trail hlookup
    · cases hlookup
  entity_first hentity := by
    rw [lookups_write, if_neg (by simp [hentity])]
  written text htext := by
    have hentity := (outcome_write_eq_ok_iff.mp htext).1
    have hnone := ((firstRefusalDecides_write rule).written_iff hentity).mp ⟨text, htext⟩
    rw [lookups_write, if_pos hentity, Item.trail_eq_flatMap (by simpa using hnone),
      flatMap_asked_eq_lookups hentity hnone, Rule.flatMap_lookups_items]
  refused hentity refusal hrefused := by
    obtain ⟨before, item, after, hitems, hitem, hearlier⟩ :=
      ((firstRefusalDecides_write rule).refused_iff hentity refusal).mp hrefused
    refine ⟨before, item, after, hitems, hearlier, hitem, ?_⟩
    rw [lookups_write, if_pos hentity, hitems, ← flatMap_asked_eq_lookups hentity hearlier]
    exact Item.trail_of_refused (by simpa using hearlier) (by simp [hitem])

/-- One rule and a list of rules ask in the same order. -/
theorem asks_in_order (dialect : Dialect) (entity : String) (resolve : Resolver) :
    (∀ rule, dialect.AsksInOrder entity resolve rule
      ((dialect.write entity rule).outcome resolve)
      ((dialect.write entity rule).lookups resolve)) ∧
    (∀ rules, dialect.AsksInOrder entity resolve (.group .none none rules)
      ((dialect.writeAll entity rules).outcome resolve)
      ((dialect.writeAll entity rules).lookups resolve)) :=
  ⟨asksInOrder_write, fun _ => asksInOrder_write _⟩

end Dialect

end RuleExpr
