import Mathlib.Data.List.Forall2
import RuleExpr.Memo.Session
/-!
Transparency of memos: as long as the resolver gives the same answers, nobody who asks through a memo can
tell, whatever the memo drops and whenever it does. All that a memo has to keep for this is that it
remembers no other answers than those of the resolver.
-/
namespace RuleExpr

/-- What a memo is used for. -/
inductive Use where
  | resolve (entity path : String)
  | write (dialect : Dialect) (entity : String) (rule : Rule)
  | count

/-- What comes back from a use. -/
inductive Reply where
  | type (type : Option FieldType)
  | expression (outcome : Except Refusal String)
  | size (size : Nat)

namespace Memo

def reply (memo : Memo) (resolve : Resolver) : Use → Served Reply
  | .resolve entity path => (memo.resolve resolve entity path).map .type
  | .write dialect entity rule => (memo.write resolve dialect entity rule).map .expression
  | .count => memo.count.map .size

/-- The replies to uses of one memo after the other. -/
def replies (resolve : Resolver) : Memo → List Use → List Reply
  | _, [] => []
  | memo, use :: uses =>
      let served := memo.reply resolve use
      served.answer :: served.memo.replies resolve uses

/-- What the memo remembers is what the resolver answers. -/
structure Faithful (memo : Memo) (resolve : Resolver) (capacity : Nat) : Prop where
  capacity_eq : memo.capacity = capacity
  eq_resolve : ∀ entity path type, memo.answers[(entity, path)]? = some type →
    type = resolve entity path

theorem getElem?_of_kept {memo : Memo} {key : String × String} {type : Option FieldType}
    (h : memo.kept[key]? = some type) : memo.answers[key]? = some type := by
  rw [kept, Answers.getElem?_without] at h
  split at h
  · contradiction
  · exact h

namespace Faithful

variable {memo : Memo} {resolve : Resolver} {capacity : Nat}

theorem afterHit (h : memo.Faithful resolve capacity) :
    memo.afterHit.Faithful resolve capacity where
  capacity_eq := h.capacity_eq
  eq_resolve entity path type htype := h.eq_resolve entity path type (getElem?_of_kept htype)

theorem afterMiss (h : memo.Faithful resolve capacity) (entity path : String) :
    (memo.afterMiss (entity, path) (resolve entity path)).Faithful resolve capacity where
  capacity_eq := h.capacity_eq
  eq_resolve entity' path' type htype := by
    simp only [Memo.afterMiss] at htype
    split at htype
    · rw [Std.HashMap.getElem?_insert] at htype
      split at htype
      · rename_i hkey
        cases beq_iff_eq.mp hkey
        exact (Option.some.inj htype).symm
      · exact h.eq_resolve entity' path' type (getElem?_of_kept htype)
    · exact h.eq_resolve entity' path' type (getElem?_of_kept htype)

theorem tidied (h : memo.Faithful resolve capacity) :
    memo.tidied.Faithful resolve capacity where
  capacity_eq := h.capacity_eq
  eq_resolve entity path type htype := by
    rw [Memo.tidied, Answers.getElem?_without] at htype
    split at htype
    · contradiction
    · exact h.eq_resolve entity path type (getElem?_of_kept htype)

/-- An inquiry ends through a faithful memo as it ends without it, and leaves a faithful memo. -/
theorem serve {α : Type} (h : memo.Faithful resolve capacity) (inquiry : Inquiry α) :
    (memo.serve resolve inquiry).answer = inquiry.outcome resolve ∧
      (memo.serve resolve inquiry).memo.Faithful resolve capacity := by
  induction inquiry generalizing memo with
  | done answer => exact ⟨rfl, h⟩
  | refuse refusal => exact ⟨rfl, h⟩
  | note event rest ih => exact ih h
  | ask entity path next ih =>
      cases hkept : memo.kept[(entity, path)]? with
      | some type =>
          rw [memo.serve_hit resolve hkept, Inquiry.outcome]
          obtain rfl := h.eq_resolve entity path type (getElem?_of_kept hkept)
          exact ih _ h.afterHit
      | none =>
          rw [memo.serve_miss resolve hkept, Inquiry.outcome]
          exact ih _ (h.afterMiss entity path)

end Faithful

end Memo

/-- The reply is the one that the resolver gives by itself, and a number of answers remembered is within
the capacity. -/
def Use.DirectReply (resolve : Resolver) (capacity : Nat) : Use → Reply → Prop
  | .resolve entity path, reply => reply = .type (resolve entity path)
  | .write dialect entity rule, reply =>
      reply = .expression ((dialect.write entity rule).outcome resolve)
  | .count, reply => ∃ size ≤ capacity, reply = .size size

namespace Memo

variable {memo : Memo} {resolve : Resolver} {capacity : Nat}

theorem Faithful.reply (h : memo.Faithful resolve capacity) (use : Use) :
    use.DirectReply resolve capacity (memo.reply resolve use).answer ∧
      (memo.reply resolve use).memo.Faithful resolve capacity := by
  cases use with
  | resolve entity path =>
      obtain ⟨hanswer, hmemo⟩ := h.serve (.ask entity path .done)
      refine ⟨?_, hmemo⟩
      simp only [Use.DirectReply, Memo.reply, Memo.resolve, Served.map, hanswer, Inquiry.outcome]
  | write dialect entity rule =>
      obtain ⟨hanswer, hmemo⟩ := h.serve (dialect.write entity rule)
      refine ⟨?_, hmemo⟩
      simp only [Use.DirectReply, Memo.reply, Memo.write, Served.map, hanswer]
  | count => exact ⟨⟨memo.size, h.capacity_eq ▸ memo.size_le, rfl⟩, h.tidied⟩

theorem Faithful.replies (h : memo.Faithful resolve capacity) (uses : List Use) :
    List.Forall₂ (Use.DirectReply resolve capacity) uses (memo.replies resolve uses) := by
  induction uses generalizing memo with
  | nil => exact .nil
  | cons use uses ih =>
      obtain ⟨hreply, hmemo⟩ := h.reply use
      exact .cons hreply (ih hmemo)

/-- Whatever a memo drops, and whenever it holds more than its capacity, its replies are those of the
resolver itself, and it never counts more answers than its capacity. A choice of what to drop that
depends on earlier uses is, in each single run, a choice by the number of uses. -/
theorem replies_direct (resolve : Resolver) (capacity : Nat)
    (drops : Nat → List (String × String)) (overfills : Nat → Bool) (uses : List Use) :
    List.Forall₂ (Use.DirectReply resolve capacity) uses
      (({ capacity, drops, overfills } : Memo).replies resolve uses) := by
  apply Faithful.replies
  exact ⟨rfl, by simp⟩

end Memo

end RuleExpr
