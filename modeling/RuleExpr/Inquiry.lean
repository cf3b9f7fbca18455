import RuleExpr.Event
/-!
Inquiries: a computation that asks for the types of fields and leaves notes on the way. It is a tree
of questions, the same for every source of answers; a catalog or a memory of earlier answers only
says how it is walked. The lemmas say what the walk of one inquiry after another is made of.
-/
namespace RuleExpr

/-- An answer, a refusal, or a question or note before the rest. A question names an entity and a
path, and its answer is the type of that field, if there is such a field. -/
inductive Inquiry (α : Type) where
  | done (answer : α)
  | refuse (refusal : Refusal)
  | ask (entity path : String) (next : Option FieldType → Inquiry α)
  | note (event : Event) (next : Inquiry α)

/-- Where field types come from. -/
abbrev Resolver := String → String → Option FieldType

namespace Inquiry

variable {α β : Type}

/-- One inquiry, then another that starts from its answer. -/
def bind : Inquiry α → (α → Inquiry β) → Inquiry β
  | done answer, next => next answer
  | refuse refusal, _ => refuse refusal
  | ask entity path rest, next => ask entity path fun type => (rest type).bind next
  | note event rest, next => note event (rest.bind next)

instance : Monad Inquiry where
  pure := done
  bind := bind

def ofExcept : Except Refusal α → Inquiry α
  | .ok answer => done answer
  | .error refusal => refuse refusal

/-- The inquiry with one more note at its end, which depends on how it ended. -/
def closing (event : Except Refusal α → Event) : Inquiry α → Inquiry α
  | done answer => note (event (.ok answer)) (done answer)
  | refuse refusal => note (event (.error refusal)) (refuse refusal)
  | ask entity path next => ask entity path fun type => (next type).closing event
  | note first rest => note first (rest.closing event)

/-- How the inquiry ends when the resolver answers. -/
def outcome (resolve : Resolver) : Inquiry α → Except Refusal α
  | done answer => .ok answer
  | refuse refusal => .error refusal
  | ask entity path next => (next (resolve entity path)).outcome resolve
  | note _ rest => rest.outcome resolve

/-- The questions put to the resolver, in order. -/
def lookups (resolve : Resolver) : Inquiry α → List (String × String)
  | done _ | refuse _ => []
  | ask entity path next => (entity, path) :: (next (resolve entity path)).lookups resolve
  | note _ rest => rest.lookups resolve

/-- The notes left, in order. -/
def events (resolve : Resolver) : Inquiry α → List Event
  | done _ | refuse _ => []
  | ask entity path next => (next (resolve entity path)).events resolve
  | note event rest => event :: rest.events resolve

variable (resolve : Resolver)

theorem outcome_bind (first : Inquiry α) (next : α → Inquiry β) :
    (first.bind next).outcome resolve =
      (first.outcome resolve).bind fun answer => (next answer).outcome resolve := by
  induction first with
  | done answer => rfl
  | refuse refusal => rfl
  | ask entity path rest ih => exact ih (resolve entity path)
  | note event rest ih => exact ih

/-- The second inquiry asks nothing unless the first one ends with an answer. -/
theorem lookups_bind (first : Inquiry α) (next : α → Inquiry β) :
    (first.bind next).lookups resolve =
      first.lookups resolve ++
        match first.outcome resolve with
        | .ok answer => (next answer).lookups resolve
        | .error _ => [] := by
  induction first with
  | done answer => rfl
  | refuse refusal => rfl
  | ask entity path rest ih =>
      exact congrArg ((entity, path) :: ·) (ih (resolve entity path))
  | note event rest ih => exact ih

/-- The second inquiry notes nothing unless the first one ends with an answer. -/
theorem events_bind (first : Inquiry α) (next : α → Inquiry β) :
    (first.bind next).events resolve =
      first.events resolve ++
        match first.outcome resolve with
        | .ok answer => (next answer).events resolve
        | .error _ => [] := by
  induction first with
  | done answer => rfl
  | refuse refusal => rfl
  | ask entity path rest ih => exact ih (resolve entity path)
  | note event rest ih => exact congrArg (event :: ·) ih

theorem outcome_closing (event : Except Refusal α → Event) (inquiry : Inquiry α) :
    (inquiry.closing event).outcome resolve = inquiry.outcome resolve := by
  induction inquiry with
  | done answer => rfl
  | refuse refusal => rfl
  | ask entity path next ih => exact ih (resolve entity path)
  | note first rest ih => exact ih

theorem lookups_closing (event : Except Refusal α → Event) (inquiry : Inquiry α) :
    (inquiry.closing event).lookups resolve = inquiry.lookups resolve := by
  induction inquiry with
  | done answer => rfl
  | refuse refusal => rfl
  | ask entity path next ih =>
      exact congrArg ((entity, path) :: ·) (ih (resolve entity path))
  | note first rest ih => exact ih

/-- Whichever way the inquiry ends, there is exactly one note more. -/
theorem events_closing (event : Except Refusal α → Event) (inquiry : Inquiry α) :
    (inquiry.closing event).events resolve =
      inquiry.events resolve ++ [event (inquiry.outcome resolve)] := by
  induction inquiry with
  | done answer => rfl
  | refuse refusal => rfl
  | ask entity path next ih => exact ih (resolve entity path)
  | note first rest ih => exact congrArg (first :: ·) ih

end Inquiry

end RuleExpr
