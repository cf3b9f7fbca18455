import Std.Data.HashMap
import RuleExpr.Inquiry
import RuleExpr.Text.Braced
/-!
Memos: remembered answers about fields, that there is no such field included. A memo stands between
an inquiry and a resolver and passes a question on only if it does not know the answer.
-/
namespace RuleExpr

/-- Answers by entity and path. -/
abbrev Answers := Std.HashMap (String × String) (Option FieldType)

/-- The answers without those to some questions. -/
def Answers.without (answers : Answers) (keys : List (String × String)) : Answers :=
  keys.foldl (fun answers key => answers.erase key) answers

theorem Answers.getElem?_without (answers : Answers) (keys : List (String × String))
    (key : String × String) :
    (answers.without keys)[key]? = if key ∈ keys then none else answers[key]? := by
  induction keys generalizing answers with
  | nil => simp [without]
  | cons first keys ih =>
      have hlater := ih (answers.erase first)
      simp only [without, List.foldl_cons] at hlater ⊢
      rw [hlater, Std.HashMap.getElem?_erase]
      by_cases hfirst : first = key
      · simp [hfirst]
      · simp [hfirst, Ne.symm hfirst]

/-- Each of the questions has an answer less. -/
theorem Answers.size_without {answers : Answers} {keys : List (String × String)}
    (hdistinct : keys.Nodup) (hkeys : ∀ key ∈ keys, key ∈ answers) :
    (answers.without keys).size = answers.size - keys.length := by
  induction keys generalizing answers with
  | nil => rfl
  | cons first keys ih =>
      obtain ⟨hfirst, hdistinct⟩ := List.nodup_cons.mp hdistinct
      have hlater : ∀ key ∈ keys, key ∈ answers.erase first := by
        intro key hkey
        have hne : first ≠ key := by
          rintro rfl
          exact hfirst hkey
        exact Std.HashMap.mem_erase.mpr
          ⟨by simpa using hne, hkeys key (List.mem_cons_of_mem first hkey)⟩
      have hsize := ih hdistinct hlater
      simp only [without, List.foldl_cons] at hsize ⊢
      rw [hsize, Std.HashMap.size_erase, if_pos (hkeys first List.mem_cons_self),
        List.length_cons]
      omega

/-- Remembered answers, at most `capacity` of them whenever the memo is tidied. Before each use the
answers to `drops` are given up, by the number of uses so far. An answer for which there is no room is
taken in only at a use that `overfills` the memo. By default nothing is dropped or overfilled. -/
structure Memo where
  capacity : Nat
  drops : Nat → List (String × String) := fun _ => []
  overfills : Nat → Bool := fun _ => false
  uses : Nat := 0
  answers : Answers := ∅

/-- What came of a use of a memo: an answer, the questions that were passed on, in order, and the
memo afterwards. -/
structure Served (α : Type) where
  answer : α
  passed : List (String × String)
  memo : Memo

def Served.map {α β : Type} (f : α → β) (served : Served α) : Served β :=
  { served with answer := f served.answer }

namespace Memo

/-- The capacity of a memo for which none is asked. -/
def defaultCapacity : Nat := 10000

/-- The answers that are left when the next use comes. -/
def kept (memo : Memo) : Answers :=
  memo.answers.without (memo.drops memo.uses)

/-- The memo after a question that it could answer. -/
def afterHit (memo : Memo) : Memo :=
  { memo with uses := memo.uses + 1, answers := memo.kept }

/-- The memo after a question that was passed on. -/
def afterMiss (memo : Memo) (key : String × String) (answer : Option FieldType) : Memo :=
  { memo with
    uses := memo.uses + 1
    answers :=
      if memo.kept.size < memo.capacity || memo.overfills memo.uses then
        memo.kept.insert key answer
      else memo.kept }

/-- The memo with the answers given up that are too many. -/
def tidied (memo : Memo) : Memo :=
  { memo with
    uses := memo.uses + 1
    answers := memo.kept.without (memo.kept.keys.drop memo.capacity) }

/-- The number of answers remembered, once the memo is tidied. -/
def size (memo : Memo) : Nat :=
  memo.tidied.answers.size

/-- A tidy memo keeps to its capacity. -/
theorem size_le (memo : Memo) : memo.size ≤ memo.capacity := by
  have hdistinct : (memo.kept.keys.drop memo.capacity).Nodup :=
    Std.HashMap.nodup_keys.sublist (List.drop_sublist _ _)
  have hkeys (key : String × String) (hkey : key ∈ memo.kept.keys.drop memo.capacity) :
      key ∈ memo.kept :=
    Std.HashMap.mem_keys.mp (List.mem_of_mem_drop hkey)
  rw [size, tidied, Answers.size_without hdistinct hkeys, List.length_drop,
    Std.HashMap.length_keys]
  omega

/-- The inquiry with its questions put to the memo first. It asks what the memo passes on, and ends
with the memo as it is then, whether or not the inquiry is refused. -/
def consult {α : Type} : Memo → Inquiry α → Inquiry (Except Refusal α × Memo)
  | memo, .done answer => .done (.ok answer, memo)
  | memo, .refuse refusal => .done (.error refusal, memo)
  | memo, .note event rest => .note event (memo.consult rest)
  | memo, .ask entity path next =>
      match memo.kept[(entity, path)]? with
      | some type => memo.afterHit.consult (next type)
      | none => .ask entity path fun type =>
          (memo.afterMiss (entity, path) type).consult (next type)

/-- How an inquiry ends that is put to the memo first and then to the resolver. -/
def serve {α : Type} (memo : Memo) (resolve : Resolver) (inquiry : Inquiry α) :
    Served (Except Refusal α) :=
  let consulted := memo.consult inquiry
  let passed := consulted.lookups resolve
  match consulted.outcome resolve with
  | .ok (outcome, memo) => ⟨outcome, passed, memo⟩
  | .error refusal => ⟨.error refusal, passed, memo⟩

section

variable {α : Type} (memo : Memo) (resolve : Resolver)

/-- However the inquiry ends, there is a memo afterwards. -/
theorem exists_outcome_consult (inquiry : Inquiry α) :
    ∃ outcome after, (memo.consult inquiry).outcome resolve = .ok (outcome, after) := by
  induction inquiry generalizing memo with
  | done answer => exact ⟨.ok answer, memo, rfl⟩
  | refuse refusal => exact ⟨.error refusal, memo, rfl⟩
  | note event rest ih => exact ih memo
  | ask entity path next ih =>
      rw [consult]
      split
      · exact ih _ _
      · exact ih _ _

theorem serve_done (answer : α) : memo.serve resolve (.done answer) = ⟨.ok answer, [], memo⟩ :=
  rfl

theorem serve_refuse (refusal : Refusal) :
    memo.serve resolve (.refuse refusal : Inquiry α) = ⟨.error refusal, [], memo⟩ :=
  rfl

theorem serve_note (event : Event) (rest : Inquiry α) :
    memo.serve resolve (.note event rest) = memo.serve resolve rest :=
  rfl

/-- A question that the memo knows the answer to is not passed on. -/
theorem serve_hit {entity path : String} {type : Option FieldType}
    (h : memo.kept[(entity, path)]? = some type) (next : Option FieldType → Inquiry α) :
    memo.serve resolve (.ask entity path next) = memo.afterHit.serve resolve (next type) := by
  obtain ⟨outcome, after, hafter⟩ := exists_outcome_consult memo.afterHit resolve (next type)
  simp only [serve, consult, h, hafter]

/-- Any other question is answered by the resolver. -/
theorem serve_miss {entity path : String} (h : memo.kept[(entity, path)]? = none)
    (next : Option FieldType → Inquiry α) :
    memo.serve resolve (.ask entity path next) =
      let type := resolve entity path
      let served := (memo.afterMiss (entity, path) type).serve resolve (next type)
      { served with passed := (entity, path) :: served.passed } := by
  obtain ⟨outcome, after, hafter⟩ := exists_outcome_consult
    (memo.afterMiss (entity, path) (resolve entity path)) resolve (next (resolve entity path))
  simp only [serve, consult, h, Inquiry.outcome, Inquiry.lookups, hafter]

end

/-- The type of one field. -/
def resolve (memo : Memo) (resolve : Resolver) (entity path : String) :
    Served (Option FieldType) :=
  (memo.serve resolve (.ask entity path .done)).map fun
    | .ok type => type
    | .error _ => none

/-- The number of answers remembered, from then on in a tidy memo. -/
def count (memo : Memo) : Served Nat :=
  ⟨memo.size, [], memo.tidied⟩

/-- The memo as it is shown, in front of a source of types that is shown as `inner`. What it remembers is
left out. -/
def describe (memo : Memo) (inner : String) : String :=
  "CachedResolver " ++ Text.braced s!" inner: {inner}, max_capacity: Some({memo.capacity}), .. "

end Memo

end RuleExpr
