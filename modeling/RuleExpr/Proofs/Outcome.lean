import RuleExpr.Expression.Rule
/-!
Outcomes of writing: how the inquiries behind an expression end, one lemma for each. A condition ends
well exactly when its field has a type that the operator permits and the comparison ends well.
-/
namespace RuleExpr

section Except

variable {α β : Type} {first : Except Refusal α} {next : α → Except Refusal β}

theorem except_bind_eq_ok_iff {answer : β} :
    (first >>= next) = .ok answer ↔ ∃ middle, first = .ok middle ∧ next middle = .ok answer := by
  cases first <;> simp [bind, Except.bind]

theorem except_bind_eq_error_iff {refusal : Refusal} :
    (first >>= next) = .error refusal ↔
      first = .error refusal ∨ ∃ middle, first = .ok middle ∧ next middle = .error refusal := by
  cases first <;> simp [bind, Except.bind]

end Except

namespace Inquiry

variable {α β : Type} {resolve : Resolver}

/-- A first inquiry and the next one end with an answer only if both do. -/
theorem outcome_bind_eq_ok_iff {first : Inquiry α} {next : α → Inquiry β} {answer : β} :
    (first >>= next).outcome resolve = .ok answer ↔
      ∃ middle, first.outcome resolve = .ok middle ∧
        (next middle).outcome resolve = .ok answer := by
  change (first.bind next).outcome resolve = _ ↔ _
  rw [outcome_bind]
  exact except_bind_eq_ok_iff

theorem outcome_bind_eq_error_iff {first : Inquiry α} {next : α → Inquiry β} {refusal : Refusal} :
    (first >>= next).outcome resolve = .error refusal ↔
      first.outcome resolve = .error refusal ∨
        ∃ middle, first.outcome resolve = .ok middle ∧
          (next middle).outcome resolve = .error refusal := by
  change (first.bind next).outcome resolve = _ ↔ _
  rw [outcome_bind]
  exact except_bind_eq_error_iff

@[simp] theorem outcome_ofExcept (result : Except Refusal α) :
    (ofExcept result).outcome resolve = result := by
  cases result <;> rfl

theorem outcome_done_eq_ok_iff {answer other : α} :
    (done answer).outcome resolve = .ok other ↔ other = answer := by
  rw [outcome, Except.ok.injEq, eq_comm]

/-- The refusal that the inquiry ends with, if it does not end with an answer. -/
def refusal? (resolve : Resolver) (inquiry : Inquiry α) : Option Refusal :=
  match inquiry.outcome resolve with
  | .ok _ => none
  | .error refusal => some refusal

theorem refusal?_eq_none_iff {inquiry : Inquiry α} :
    inquiry.refusal? resolve = none ↔ ∃ answer, inquiry.outcome resolve = .ok answer := by
  rw [refusal?]
  cases inquiry.outcome resolve <;> simp

theorem refusal?_eq_some_iff {inquiry : Inquiry α} {refusal : Refusal} :
    inquiry.refusal? resolve = some refusal ↔ inquiry.outcome resolve = .error refusal := by
  rw [refusal?]
  cases inquiry.outcome resolve <;> simp

/-- If the refusal of the second inquiry is the same whatever the first one answers, then it counts
when the first one has none. -/
theorem refusal?_bind {first : Inquiry α} {next : α → Inquiry β} {later : Option Refusal}
    (hnext : ∀ middle, (next middle).refusal? resolve = later) :
    (first >>= next).refusal? resolve = (first.refusal? resolve).or later := by
  change (first.bind next).refusal? resolve = _
  simp only [refusal?, outcome_bind] at hnext ⊢
  cases first.outcome resolve with
  | ok middle => exact hnext middle
  | error refusal => rfl

/-- What is done with an answer afterwards changes no refusal. -/
theorem refusal?_bind_done {first : Inquiry α} {f : α → β} :
    (first >>= fun middle => pure (f middle)).refusal? resolve = first.refusal? resolve := by
  have hlater (middle : α) : (pure (f middle) : Inquiry β).refusal? resolve = none := rfl
  rw [refusal?_bind hlater, Option.or_none]

end Inquiry

namespace Target

open Inquiry

variable {target : Target} {resolve : Resolver} {c : Condition} {type : FieldType}

theorem outcome_typeOf_eq_ok_iff {field : String} :
    (target.typeOf field).outcome resolve = .ok type ↔
      Path.isPath field = true ∧ resolve target.entity field = some type := by
  rw [typeOf]
  by_cases hpath : Path.isPath field = true
  · simp only [hpath, if_true, outcome, true_and]
    cases resolve target.entity field <;> simp [outcome]
  · simp [hpath, outcome]

/-- A field without a type is refused because it is no path or because it is not known. -/
theorem outcome_typeOf_eq_error_iff {field : String} {refusal : Refusal} :
    (target.typeOf field).outcome resolve = .error refusal ↔
      Path.isPath field = false ∧ refusal = .invalidPath field ∨
        Path.isPath field = true ∧ resolve target.entity field = none ∧
          refusal = .unknownField target.entity field := by
  rw [typeOf]
  by_cases hpath : Path.isPath field = true
  · simp only [hpath, if_true, outcome, true_and]
    cases resolve target.entity field <;> simp [outcome, eq_comm]
  · simp [hpath, outcome, eq_comm]

theorem outcome_condition_eq_ok_iff {text : String} :
    (target.condition c).outcome resolve = .ok text ↔
      ∃ type, (target.typeOf c.field).outcome resolve = .ok type ∧
        c.operator.permits type = true ∧
          (target.comparison c type).outcome resolve = .ok text := by
  rw [condition]
  rw [outcome_bind_eq_ok_iff]
  refine exists_congr fun type => and_congr_right fun _ => ?_
  by_cases hpermits : c.operator.permits type = true
  · simp [hpermits, outcome_bind_eq_ok_iff, outcome]
  · simp [hpermits, outcome]

theorem outcome_condition_eq_error_iff {refusal : Refusal} :
    (target.condition c).outcome resolve = .error refusal ↔
      (target.typeOf c.field).outcome resolve = .error refusal ∨
        ∃ type, (target.typeOf c.field).outcome resolve = .ok type ∧
          (c.operator.permits type = false ∧ refusal = .unsupported c.operator type c.field ∨
            c.operator.permits type = true ∧
              (target.comparison c type).outcome resolve = .error refusal) := by
  rw [condition]
  rw [outcome_bind_eq_error_iff]
  refine or_congr_right (exists_congr fun type => and_congr_right fun _ => ?_)
  by_cases hpermits : c.operator.permits type = true
  · simp [hpermits, outcome_bind_eq_error_iff, outcome]
  · simp [hpermits, outcome, eq_comm]

theorem outcome_compareField_eq_ok_iff {sign : Sign} {text : String} :
    (target.compareField c type sign).outcome resolve = .ok text ↔
      ∃ otherType, (target.typeOf (Text.trim c.value)).outcome resolve = .ok otherType ∧
        c.operator.permits otherType = true ∧ type.comparable otherType = true ∧
          text = target.access c.field type ++ sign.text ++
            target.access (Text.trim c.value) otherType := by
  rw [compareField]
  rw [outcome_bind_eq_ok_iff]
  refine exists_congr fun otherType => and_congr_right fun _ => ?_
  cases c.operator.permits otherType <;> cases type.comparable otherType <;>
    simp [outcome, eq_comm]

/-- Of the two ways to refuse the type on the right, the first names the field on the left. -/
theorem outcome_compareField_eq_error_iff {sign : Sign} {refusal : Refusal} :
    (target.compareField c type sign).outcome resolve = .error refusal ↔
      (target.typeOf (Text.trim c.value)).outcome resolve = .error refusal ∨
        ∃ otherType, (target.typeOf (Text.trim c.value)).outcome resolve = .ok otherType ∧
          (c.operator.permits otherType = false ∧
              refusal = .unsupported c.operator otherType c.field ∨
            c.operator.permits otherType = true ∧ type.comparable otherType = false ∧
              refusal = .unsupported c.operator otherType (Text.trim c.value)) := by
  rw [compareField]
  rw [outcome_bind_eq_error_iff]
  refine or_congr_right (exists_congr fun otherType => and_congr_right fun _ => ?_)
  cases c.operator.permits otherType <;> cases type.comparable otherType <;>
    simp [outcome, eq_comm]

theorem compare_eq_ok_iff {sign : Sign} {text : String} :
    target.compare c type sign = .ok text ↔
      ∃ right, target.literal c type c.value = .ok right ∧
        text = target.access c.field type ++ sign.text ++ right := by
  rw [compare, except_bind_eq_ok_iff]
  apply exists_congr
  intro right
  apply and_congr_right
  intro _
  constructor
  · intro hdone
    exact (Except.ok.inj hdone).symm
  · rintro rfl
    rfl

theorem compareRange_eq_ok_iff {inclusive : Bool} {text : String} :
    target.compareRange c type inclusive = .ok text ↔
      ∃ low high lowText highText, Literal.range? c.value.toList = some (low, high) ∧
        target.literal c type (String.ofList low) = .ok lowText ∧
          target.literal c type (String.ofList high) = .ok highText ∧
            text = target.access c.field type ++ (Sign.lower inclusive).text ++ lowText ++ "&&" ++
              target.access c.field type ++ (Sign.upper inclusive).text ++ highText := by
  rw [compareRange]
  cases hrange : Literal.range? c.value.toList with
  | none => simp
  | some bounds =>
      obtain ⟨low, high⟩ := bounds
      simp only [except_bind_eq_ok_iff]
      constructor
      · rintro ⟨lowText, hlow, highText, hhigh, hdone⟩
        exact ⟨low, high, lowText, highText, rfl, hlow, hhigh, (Except.ok.inj hdone).symm⟩
      · rintro ⟨_, _, lowText, highText, hbounds, hlow, hhigh, rfl⟩
        cases hbounds
        exact ⟨lowText, hlow, highText, hhigh, rfl⟩

/-- What each type asks of an operand, and what is written for it. -/
theorem literal_eq_ok_iff {operand text : String} :
    target.literal c type operand = .ok text ↔
      match type with
      | .string => text = Text.quoted operand
      | .boolean => ∃ value, Literal.boolean? (Text.trim operand).toList = some value ∧
          text = Literal.booleanText value
      | .numeric | .monetary => Literal.isNumber (Text.trim operand).toList = true ∧
          text = Text.trim operand
      | .date => Literal.isDate (Text.trim operand).toList = true ∧
          text = target.dialect.date (Text.quoted (Text.trim operand))
      | .reference => False := by
  unfold literal
  cases type with
  | string | reference => simp [eq_comm]
  | boolean =>
      dsimp only
      cases Literal.boolean? (Text.trim operand).toList <;> simp [eq_comm]
  | numeric | monetary =>
      by_cases hnumber : Literal.isNumber (Text.trim operand).toList = true <;>
        simp [hnumber, eq_comm]
  | date =>
      by_cases hdate : Literal.isDate (Text.trim operand).toList = true <;> simp [hdate, eq_comm]

/-- The condition that an operand belongs to has no part in its literal. -/
theorem literal_eq_ok_congr (other : Condition) {operand text : String} :
    target.literal c type operand = .ok text ↔ target.literal other type operand = .ok text := by
  rw [literal_eq_ok_iff, literal_eq_ok_iff]

/-- A denied method is written as the method with an exclamation mark before it. -/
theorem outcome_condition_denied {method : Method} {folded : Bool}
    (hoperator : c.operator = .method method true folded) {text : String} :
    (target.condition c).outcome resolve = .ok text ↔
      ∃ positive, (target.condition ⟨c.field, .method method false folded, c.value⟩).outcome
          resolve = .ok positive ∧ text = "!" ++ positive := by
  have hcall (type : FieldType) : target.call c type method true folded =
      "!" ++ target.call ⟨c.field, .method method false folded, c.value⟩ type method false
        folded := by
    simp [call, String.append_assoc]
  simp only [outcome_condition_eq_ok_iff, comparison, hoperator, Operator.permits, hcall]
  constructor
  · rintro ⟨type, htype, hpermits, htext⟩
    exact ⟨_, ⟨type, htype, hpermits, rfl⟩, (Except.ok.inj htext).symm⟩
  · rintro ⟨positive, ⟨type, htype, hpermits, htext⟩, rfl⟩
    cases htext
    exact ⟨type, htype, hpermits, rfl⟩

/-- A range is written as the two comparisons with its bounds. -/
theorem outcome_condition_range {inclusive : Bool} (hoperator : c.operator = .range inclusive)
    {text : String} :
    (target.condition c).outcome resolve = .ok text ↔
      ∃ low high lowText highText, Literal.range? c.value.toList = some (low, high) ∧
        (target.condition ⟨c.field, .compare (.lower inclusive), String.ofList low⟩).outcome
            resolve = .ok lowText ∧
          (target.condition ⟨c.field, .compare (.upper inclusive), String.ofList high⟩).outcome
              resolve = .ok highText ∧
            text = lowText ++ "&&" ++ highText := by
  have hpermits (type : FieldType) :
      (Operator.range inclusive).permits type =
          (Operator.compare (.lower inclusive)).permits type ∧
        (Operator.range inclusive).permits type =
          (Operator.compare (.upper inclusive)).permits type := by
    cases inclusive <;> cases type <;> exact ⟨rfl, rfl⟩
  simp only [outcome_condition_eq_ok_iff, comparison, hoperator, outcome_ofExcept,
    compareRange_eq_ok_iff, compare_eq_ok_iff]
  constructor
  · rintro ⟨type, htype, hrange, low, high, lowText, highText, hbounds, hlow, hhigh, rfl⟩
    refine ⟨low, high, _, _, hbounds,
      ⟨type, htype, (hpermits type).1 ▸ hrange, lowText, (literal_eq_ok_congr c).mpr ?_, rfl⟩,
      ⟨type, htype, (hpermits type).2 ▸ hrange, highText, (literal_eq_ok_congr c).mpr ?_, rfl⟩, ?_⟩
    · exact hlow
    · exact hhigh
    · simp only [String.append_assoc]
  · rintro ⟨low, high, _, _, hbounds, ⟨type, htype, hlower, lowText, hlow, rfl⟩,
      ⟨highType, hhighType, -, highText, hhigh, rfl⟩, rfl⟩
    obtain rfl : type = highType := Except.ok.inj (htype.symm.trans hhighType)
    refine ⟨type, htype, (hpermits type).1.symm ▸ hlower, low, high, lowText, highText, hbounds,
      (literal_eq_ok_congr _).mp hlow, (literal_eq_ok_congr _).mp hhigh, ?_⟩
    simp only [String.append_assoc]

end Target

namespace Dialect

variable {dialect : Dialect} {entity : String} {resolve : Resolver} {rule : Rule}

/-- For an entity whose name is a path, a rule is written as it is by itself. -/
theorem outcome_write_of_isPath (hentity : Path.isPath entity = true) :
    (dialect.write entity rule).outcome resolve =
      ((Target.mk dialect entity).rule .standalone rule).outcome resolve := by
  rw [write, Inquiry.outcome_closing, Target.expression, if_pos hentity]

theorem outcome_write_of_not_isPath (hentity : Path.isPath entity = false) :
    (dialect.write entity rule).outcome resolve = .error (.invalidPath entity) := by
  rw [write, Inquiry.outcome_closing, Target.expression, if_neg (by simp [hentity])]
  rfl

/-- Only the entity's own refusal says that the entity is no path. -/
theorem isPath_of_outcome_write {refusal : Refusal}
    (hrefused : (dialect.write entity rule).outcome resolve = .error refusal)
    (hother : refusal ≠ .invalidPath entity) : Path.isPath entity = true := by
  by_cases hentity : Path.isPath entity = true
  · exact hentity
  · rw [outcome_write_of_not_isPath (by simpa using hentity)] at hrefused
    exact absurd (Except.error.inj hrefused).symm hother

theorem outcome_write_eq_ok_iff {text : String} :
    (dialect.write entity rule).outcome resolve = .ok text ↔
      Path.isPath entity = true ∧
        ((Target.mk dialect entity).rule .standalone rule).outcome resolve = .ok text := by
  cases hentity : Path.isPath entity with
  | true => simp [outcome_write_of_isPath hentity]
  | false => simp [outcome_write_of_not_isPath hentity]

end Dialect

end RuleExpr
