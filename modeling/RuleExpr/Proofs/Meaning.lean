import RuleExpr.Catalog
import RuleExpr.Proofs.Comparison
import RuleExpr.Proofs.Reading
import RuleExpr.Proofs.Writing
/-!
An expression means what its rule means. Every single comparison is an atom, and whatever truth values
the atoms have, the text of a rule in MVEL is read back with the value that the rule has by itself.
-/
namespace RuleExpr

/-- What is written for a condition, and nothing if it is refused. -/
def Condition.written (c : Condition) (entity : String) (resolve : Resolver) : String :=
  match (Dialect.mvel.write entity (.condition c)).outcome resolve with
  | .ok text => text
  | .error _ => ""

/-- Whether a condition holds, by the truth of single comparisons: a denied method if the method does
not, a range if the comparisons with both of its bounds do. -/
def Condition.holds (truth : String → Bool) (entity : String) (resolve : Resolver)
    (c : Condition) : Bool :=
  match c.operator with
  | .method method true folded =>
      !truth (written ⟨c.field, .method method false folded, c.value⟩ entity resolve)
  | .range inclusive =>
      match Literal.range? c.value.toList with
      | some (low, high) =>
          truth (written ⟨c.field, .compare (.lower inclusive), String.ofList low⟩ entity resolve) &&
            truth
              (written ⟨c.field, .compare (.upper inclusive), String.ofList high⟩ entity resolve)
      | none => false
  | _ => truth (c.written entity resolve)

/-- The value of a group, from the values of its members. -/
def Combinator.value : Combinator → List Bool → Bool
  | .and, values | .none, values => values.all id
  | .or, values => values.any id
  | .not, values => !values.all id

namespace Rule

mutual

/-- The value of a rule, by the conditions that hold. -/
def value (holds : Condition → Bool) : Rule → Bool
  | .condition c => holds c
  | .group combinator _ members => combinator.value (values holds members)

def values (holds : Condition → Bool) : List Rule → List Bool
  | [] => []
  | rule :: rules => rule.value holds :: values holds rules

end

theorem values_eq_map (holds : Condition → Bool) (rules : List Rule) :
    values holds rules = rules.map (value holds) := by
  induction rules with
  | nil => rfl
  | cons rule rules ih => rw [values, ih, List.map_cons]

end Rule

/-- The text is read as its position asks for. -/
def Position.Reads (truth : String → Bool) : Position → String → Bool → Prop
  | .standalone => Disjunction truth
  | .operand => Conjunction truth

section

variable {truth : String → Bool} {position : Position} {text : String} {value : Bool}

theorem Conjunction.reads (h : Conjunction truth text value) :
    position.Reads truth text value := by
  cases position with
  | standalone => exact h.disjunction
  | operand => exact h

theorem Disjunction.reads (h : Disjunction truth text value) :
    position.Reads truth (position.disjunction text) value := by
  cases position with
  | standalone => exact h
  | operand => exact h.parens.conjunction

theorem Disjunction.denied (h : Disjunction truth text value) :
    Conjunction truth ("!(" ++ text ++ ")") (!value) := by
  have hparens : "!(" ++ text ++ ")" = "!" ++ ("(" ++ text ++ ")") := by
    rw [← String.append_assoc, ← String.append_assoc]
    rfl
  rw [hparens]
  exact h.parens.deny.conjunction

/-- Members that are joined by a combinator have its value of their values. -/
theorem Combinator.reads_joined {members : List Rule} {texts : List String}
    (combinator : Combinator) (hne : members ≠ []) {valueOf : Rule → Bool}
    (h : List.Forall₂ (fun member text => Conjunction truth text (valueOf member))
      members texts) :
    position.Reads truth (combinator.joined position texts)
      (combinator.value (members.map valueOf)) := by
  -- A denial joins its members as a conjunction does, so two ways to join are enough.
  have hall : Conjunction truth ("&&".intercalate texts) ((members.map valueOf).all id) := by
    refine Text.intercalate_induction
      (motive := fun members text => Conjunction truth text ((members.map valueOf).all id))
      ?_ ?_ hne h
    · intro member text hmember
      simpa using hmember
    · intro member text members later hmember hlater
      exact hmember.and hlater
  have hany : Disjunction truth ("||".intercalate texts) ((members.map valueOf).any id) := by
    refine Text.intercalate_induction
      (motive := fun members text => Disjunction truth text ((members.map valueOf).any id))
      ?_ ?_ hne h
    · intro member text hmember
      simpa using hmember.disjunction
    · intro member text members later hmember hlater
      exact hmember.disjunction.or hlater
  cases combinator with
  | and | none => exact hall.reads
  | or => exact hany.reads
  | not => exact hall.disjunction.denied.reads

end

section

variable {truth : String → Bool} {entity : String} {resolve : Resolver}

theorem Condition.written_eq (hentity : Path.isPath entity = true) {c : Condition} {text : String}
    (h : ((Target.mk .mvel entity).condition c).outcome resolve = .ok text) :
    c.written entity resolve = text := by
  have hwrite : (Dialect.mvel.write entity (.condition c)).outcome resolve = .ok text :=
    Dialect.outcome_write_eq_ok_iff.mpr ⟨hentity, h⟩
  rw [written, hwrite]

/-- A comparison is the atom that it is written as. -/
theorem Comparison.factor {text : String} {quotes : List String} (h : Comparison text quotes) :
    Factor truth text (truth text) := by
  obtain ⟨tokens, hlexes, hspans, -⟩ := h.piece.exists_tokens
  obtain ⟨c, cs, hfirst, hstart⟩ := h.starts
  refine Factor.atom hlexes hspans hfirst ?_ ?_ ?_ <;>
    (rintro rfl; exact absurd hstart (by decide))

theorem Condition.holds_of_isSingle {c : Condition} (hsingle : c.operator.isSingle = true) :
    c.holds truth entity resolve = truth (c.written entity resolve) := by
  rw [holds]
  split
  · rename_i hoperator
    rw [hoperator] at hsingle
    contradiction
  · rename_i hoperator
    rw [hoperator] at hsingle
    contradiction
  · rfl

/-- A condition is read as a conjunction of the value that it has. -/
theorem Condition.conjunction (hentity : Path.isPath entity = true) {c : Condition} {text : String}
    (h : ((Target.mk .mvel entity).condition c).outcome resolve = .ok text) :
    Conjunction truth text (c.holds truth entity resolve) := by
  have hsingle {single : Condition} {text : String} (hoperator : single.operator.isSingle = true)
      (hwritten : ((Target.mk .mvel entity).condition single).outcome resolve = .ok text) :
      Factor truth text (truth (single.written entity resolve)) := by
    rw [written_eq hentity hwritten]
    exact (Comparison.of_condition hentity hoperator hwritten).factor
  rcases c.operator.isSingle_or with hoperator | ⟨method, folded, hdenied⟩ | ⟨inclusive, hrange⟩
  · rw [holds_of_isSingle hoperator]
    exact (hsingle hoperator h).conjunction
  · obtain ⟨positive, hpositive, rfl⟩ := (Target.outcome_condition_denied hdenied).mp h
    rw [holds, hdenied]
    exact (hsingle rfl hpositive).deny.conjunction
  · obtain ⟨low, high, lowText, highText, hbounds, hlow, hhigh, rfl⟩ :=
      (Target.outcome_condition_range hrange).mp h
    rw [holds, hrange]
    dsimp only
    rw [hbounds]
    exact (hsingle rfl hlow).conjunction.and (hsingle rfl hhigh).conjunction

/-- A rule is read with its own value, in whatever position it is written. -/
theorem Rule.reads (hentity : Path.isPath entity = true) {position : Position} {rule : Rule}
    {text : String}
    (h : ((Target.mk .mvel entity).rule position rule).outcome resolve = .ok text) :
    position.Reads truth text (rule.value (Condition.holds truth entity resolve)) := by
  refine Target.written_induction _
    (motive := fun position rule text =>
      position.Reads truth text (rule.value (Condition.holds truth entity resolve)))
    ?condition ?passed ?denied ?joined h
  case condition =>
      intro position c text hwritten
      exact (Condition.conjunction hentity hwritten).reads
  case passed =>
      intro position quantity only text honly
      simpa [value, values, Combinator.value] using honly
  case denied =>
      intro position quantity only text honly
      simpa [value, values, Combinator.value] using (Disjunction.denied honly).reads
  case joined =>
      intro position combinator quantity members texts hjoins hmembers
      rw [value, values_eq_map]
      exact combinator.reads_joined hjoins.1 hmembers

end

namespace Dialect

/-- The text of a rule is read back with the value of the rule, and the text of several rules with
the value that all of them hold, whatever truth values single comparisons have. -/
theorem meaning_preserved (entity : String) (resolve : Resolver) (truth : String → Bool) :
    (∀ rule text, (mvel.write entity rule).outcome resolve = .ok text →
      reading truth text = some (rule.value (Condition.holds truth entity resolve))) ∧
    (∀ rules text, (mvel.writeAll entity rules).outcome resolve = .ok text →
      reading truth text =
        some (rules.all (Rule.value (Condition.holds truth entity resolve)))) := by
  have hrule (rule : Rule) (text : String)
      (h : (mvel.write entity rule).outcome resolve = .ok text) :
      reading truth text = some (rule.value (Condition.holds truth entity resolve)) := by
    obtain ⟨hentity, hwritten⟩ := outcome_write_eq_ok_iff.mp h
    exact Disjunction.reading_eq (Rule.reads hentity hwritten)
  refine ⟨hrule, ?_⟩
  intro rules text h
  rw [hrule _ text h, Rule.value, Rule.values_eq_map, Combinator.value, List.all_map]
  rfl

/-- A disjunction with a range in it, as an operand beside a denied method. -/
theorem nested_meaning_preserved :
    let catalog := (Catalog.empty.insert "order" "status" .string).insert "order" "total" .numeric
    let rule := Rule.group .and none [
      .group .or none [
        .condition ⟨"status", .compare .equal, "a\"||!(b"⟩,
        .condition ⟨"total", .range false, "1,2"⟩],
      .condition ⟨"status", .method .startsWith true false, "x"⟩]
    let text := "(order.status==\"a\\\"||!(b\"||order.total>1&&order.total<2)" ++
      "&&!order.status.startsWith(\"x\")"
    (mvel.write "order" rule).outcome catalog.resolver = .ok text ∧
      reading ["order.total>1", "order.total<2"].contains text = some true ∧
        reading ["order.total>1"].contains text = some false := by
  intro catalog rule text
  have hwritten : (mvel.write "order" rule).outcome catalog.resolver = .ok text := by
    decide +kernel
  have hboth := (meaning_preserved "order" catalog.resolver
    ["order.total>1", "order.total<2"].contains).1 rule text hwritten
  have hone := (meaning_preserved "order" catalog.resolver
    ["order.total>1"].contains).1 rule text hwritten
  refine ⟨hwritten, hboth.trans ?_, hone.trans ?_⟩
  · decide +kernel
  · decide +kernel

end Dialect

end RuleExpr
