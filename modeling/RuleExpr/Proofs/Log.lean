import RuleExpr.Proofs.Trail
/-!
The log of writing a rule. It has one event for each condition that is finished, in order, and one event
at the end, whichever way the writing ends. Of the first refused item and of what comes after it nothing
is noted.
-/
namespace RuleExpr

/-- The event is the trace of the condition. It carries the field, the operator and the type that the
resolver has for the field. -/
structure Event.Traces (event : Event) (entity : String) (resolve : Resolver) (c : Condition) :
    Prop where
  level : event.level = "TRACE"
  details : ∃ type, resolve entity c.field = some type ∧
    event.details = [("field", .text c.field), ("operator", .text c.operator.name),
      ("field_type", .text type.name)]

/-- The event is the one at the end of a writing. It carries the entity, and the length of the text in
UTF-8 or the message of the refusal. -/
structure Event.Closes (event : Event) (entity : String) (outcome : Except Refusal String) :
    Prop where
  level : event.level = "DEBUG"
  details : event.details = ("entity", .text entity) ::
    match outcome with
    | .ok text => [("len", .natural text.utf8ByteSize)]
    | .error refusal => [("error", .text refusal.message)]

/-- The events are the traces of the finished conditions, in order, and the one at the end. -/
def IsLog (entity : String) (resolve : Resolver) (finished : List Condition)
    (outcome : Except Refusal String) (events : List Event) : Prop :=
  ∃ traces last, events = traces ++ [last] ∧
    List.Forall₂ (fun c event => event.Traces entity resolve c) finished traces ∧
      last.Closes entity outcome

theorem Event.closes_closing (entity : String) (outcome : Except Refusal String) :
    (Event.closing entity outcome).Closes entity outcome := by
  cases outcome with
  | ok text => exact ⟨rfl, rfl⟩
  | error refusal => exact ⟨rfl, rfl⟩

theorem Inquiry.observes_events (resolve : Resolver) :
    Observes resolve fun inquiry => inquiry.events resolve where
  done _ := rfl
  refuse _ := rfl
  bind := events_bind resolve

namespace Target

open Inquiry

variable {target : Target} {resolve : Resolver} {c : Condition} {type : FieldType}

@[simp] theorem events_ofExcept {α : Type} (result : Except Refusal α) :
    (ofExcept result).events resolve = [] := by
  cases result <;> rfl

theorem events_typeOf (field : String) : (target.typeOf field).events resolve = [] := by
  unfold typeOf
  split
  · rw [events]
    cases resolve target.entity field <;> rfl
  · rfl

theorem events_compareField {sign : Sign} : (target.compareField c type sign).events resolve = [] := by
  have hother : (target.compareField c type sign).events resolve =
      (target.typeOf (Text.trim c.value)).events resolve := by
    apply (observes_events resolve).bind_of_nil
    intro otherType
    split
    · rfl
    · split <;> rfl
  rw [hother, events_typeOf]

/-- Nothing is noted before the text of a comparison is complete. -/
theorem events_comparison : (target.comparison c type).events resolve = [] := by
  unfold comparison
  cases c.operator with
  | compare sign => exact events_ofExcept _
  | range inclusive => exact events_ofExcept _
  | compareFolded | method | null => rfl
  | compareField sign => exact events_compareField

/-- A refused condition leaves no trace. -/
theorem events_condition_of_error {refusal : Refusal}
    (hrefused : (target.condition c).outcome resolve = .error refusal) :
    (target.condition c).events resolve = [] := by
  rw [condition, (observes_events resolve).bind, events_typeOf]
  rcases outcome_condition_eq_error_iff.mp hrefused with
    hfield | ⟨type, htype, ⟨hpermits, -⟩ | ⟨hpermits, hcomparison⟩⟩
  · simp [hfield]
  · simp [htype, hpermits, events]
  · simp [htype, hpermits, (observes_events resolve).bind, events_comparison, hcomparison]

/-- A finished condition leaves one trace, with the type of its field. -/
theorem events_condition_of_ok {text : String}
    (hwritten : (target.condition c).outcome resolve = .ok text) :
    ∃ type, resolve target.entity c.field = some type ∧
      (target.condition c).events resolve = [.rendered c.field c.operator type] := by
  obtain ⟨type, htype, hpermits, hcomparison⟩ := outcome_condition_eq_ok_iff.mp hwritten
  refine ⟨type, (outcome_typeOf_eq_ok_iff.mp htype).2, ?_⟩
  rw [condition, (observes_events resolve).bind, events_typeOf]
  simp [htype, hpermits, (observes_events resolve).bind, events_comparison, hcomparison, events]

/-- Of items that are not refused, each is a condition and leaves its trace. -/
theorem exists_finished {items : List Item}
    (hitems : ∀ item ∈ items, target.itemRefusal? resolve item = none) :
    ∃ finished : List Condition, items = finished.map .condition ∧
      List.Forall₂ (fun c event => event.Traces target.entity resolve c) finished
        (items.flatMap (target.observeItem fun inquiry => inquiry.events resolve)) := by
  induction items with
  | nil => exact ⟨[], rfl, .nil⟩
  | cons item items ih =>
      obtain ⟨finished, hfinished, htraces⟩ :=
        ih fun later hlater => hitems later (List.mem_cons_of_mem item hlater)
      have hitem := hitems item List.mem_cons_self
      cases item with
      | childless combinator => cases hitem
      | condition c =>
          obtain ⟨text, hwritten⟩ := refusal?_eq_none_iff.mp hitem
          obtain ⟨type, hknown, hevents⟩ := events_condition_of_ok hwritten
          refine ⟨c :: finished, by rw [List.map_cons, hfinished], ?_⟩
          rw [List.flatMap_cons, observeItem, hevents, List.singleton_append]
          exact .cons ⟨rfl, type, hknown, rfl⟩ htraces

theorem observeItem_events_of_refused {item : Item} {refusal : Refusal}
    (hitem : target.itemRefusal? resolve item = some refusal) :
    target.observeItem (fun inquiry => inquiry.events resolve) item = [] := by
  cases item with
  | childless combinator => rfl
  | condition c => exact events_condition_of_error (refusal?_eq_some_iff.mp hitem)

end Target

theorem Rule.items_ne_nil (rule : Rule) : rule.items ≠ [] := by
  induction rule using Rule.induction with
  | condition c => simp [items]
  | group combinator quantity members ih =>
      cases members with
      | nil => simp [items]
      | cons member members => simp [items, ih member]

/-- The items of a rule without childless groups are its conditions. -/
theorem Rule.conditions_of_items {rule : Rule} {finished : List Condition}
    (hitems : rule.items = finished.map .condition) : rule.conditions = finished := by
  rw [conditions, hitems, List.filterMap_map]
  exact List.filterMap_some

namespace Dialect

/-- The log is in step with the writing. If the rule is written, all of its conditions are finished; and
if it is refused, those before the first refused item are. -/
structure LogsInStep (dialect : Dialect) (entity : String) (resolve : Resolver) (rule : Rule)
    (outcome : Except Refusal String) (events : List Event) : Prop where
  written : ∀ text, outcome = .ok text → IsLog entity resolve rule.conditions outcome events
  refused : ∀ refusal, outcome = .error refusal →
    ∃ finished item after, rule.items = finished.map .condition ++ item :: after ∧
      (∀ c ∈ finished, dialect.itemRefusal? entity resolve (.condition c) = none) ∧
        (dialect.itemRefusal? entity resolve item).isSome = true ∧
          IsLog entity resolve finished outcome events

variable {dialect : Dialect} {entity : String} {resolve : Resolver}

/-- What is noted of a rule before the end of its writing. -/
def traces (dialect : Dialect) (entity : String) (resolve : Resolver) (rule : Rule) : List Event :=
  if Path.isPath entity then
    Item.trail (fun item => (dialect.itemRefusal? entity resolve item).isSome)
      ((Target.mk dialect entity).observeItem fun inquiry => inquiry.events resolve) rule.items
  else []

theorem events_write (rule : Rule) :
    (dialect.write entity rule).events resolve = dialect.traces entity resolve rule ++
      [Event.closing entity ((dialect.write entity rule).outcome resolve)] := by
  rw [write, Inquiry.events_closing, Inquiry.outcome_closing, Target.expression, traces]
  congr 1
  split
  · rename_i hentity
    rw [itemRefusal?_eq hentity]
    exact Target.observe_rule _ (Inquiry.observes_events resolve) .standalone rule
  · rfl

theorem isLog_of_traces {rule : Rule} {finished : List Condition}
    (htraces : List.Forall₂ (fun c event => event.Traces entity resolve c) finished
      (dialect.traces entity resolve rule)) :
    IsLog entity resolve finished ((dialect.write entity rule).outcome resolve)
      ((dialect.write entity rule).events resolve) :=
  ⟨_, _, events_write rule, htraces, Event.closes_closing entity _⟩

/-- Without a path for an entity, no item can be written. -/
theorem isSome_itemRefusal?_of_not_isPath (hentity : Path.isPath entity = false) (item : Item) :
    (dialect.itemRefusal? entity resolve item).isSome = true := by
  cases item with
  | childless combinator => rfl
  | condition c =>
      rw [itemRefusal?, Inquiry.refusal?, outcome_write_of_not_isPath hentity]
      rfl

theorem logsInStep_write (rule : Rule) :
    dialect.LogsInStep entity resolve rule ((dialect.write entity rule).outcome resolve)
      ((dialect.write entity rule).events resolve) where
  written text htext := by
    have hentity := (outcome_write_eq_ok_iff.mp htext).1
    have hnone := ((firstRefusalDecides_write rule).written_iff hentity).mp ⟨text, htext⟩
    rw [itemRefusal?_eq hentity] at hnone
    obtain ⟨finished, hitems, htraces⟩ := Target.exists_finished hnone
    rw [Rule.conditions_of_items hitems]
    apply isLog_of_traces
    rwa [traces, if_pos hentity, itemRefusal?_eq hentity,
      Item.trail_eq_flatMap (by simpa using hnone)]
  refused refusal hrefused := by
    by_cases hentity : Path.isPath entity = true
    · obtain ⟨before, item, after, hitems, hitem, hearlier⟩ :=
        ((firstRefusalDecides_write rule).refused_iff hentity refusal).mp hrefused
      rw [itemRefusal?_eq hentity] at hitem hearlier ⊢
      obtain ⟨finished, rfl, htraces⟩ := Target.exists_finished hearlier
      refine ⟨finished, item, after, hitems, ?_, by simp [hitem], ?_⟩
      · intro c hc
        exact hearlier _ (List.mem_map_of_mem hc)
      · apply isLog_of_traces
        rwa [traces, if_pos hentity, itemRefusal?_eq hentity, hitems,
          Item.trail_of_refused (by simpa using hearlier) (by simp [hitem]),
          Target.observeItem_events_of_refused hitem, List.append_nil]
    · -- No item is finished, so the first one is already the first that is refused.
      obtain ⟨item, after, hitems⟩ := List.exists_cons_of_ne_nil rule.items_ne_nil
      have hitem : (dialect.itemRefusal? entity resolve item).isSome = true :=
        isSome_itemRefusal?_of_not_isPath (by simpa using hentity) item
      refine ⟨[], item, after, hitems, by simp, hitem, ?_⟩
      apply isLog_of_traces
      rw [traces, if_neg hentity]
      exact .nil

/-- One rule and a list of rules are logged alike. -/
theorem logs_in_step (dialect : Dialect) (entity : String) (resolve : Resolver) :
    (∀ rule, dialect.LogsInStep entity resolve rule
      ((dialect.write entity rule).outcome resolve)
      ((dialect.write entity rule).events resolve)) ∧
    (∀ rules, dialect.LogsInStep entity resolve (.group .none none rules)
      ((dialect.writeAll entity rules).outcome resolve)
      ((dialect.writeAll entity rules).events resolve)) :=
  ⟨logsInStep_write, fun _ => logsInStep_write _⟩

end Dialect

end RuleExpr
