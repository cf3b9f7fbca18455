import RuleExpr.Catalog
import RuleExpr.Proofs.FirstRefusal
/-!
Refusals of an operator for a type. Such a refusal names a path and a type, and the type is that of the
path with one exception: where a field on the right has a type that the operator does not permit, the
type is the one of the right field and the path is the one of the left.
-/
namespace RuleExpr

/-- The condition compares two fields, its operator permits the type on the left, and it does not
permit the type on the right. -/
structure Condition.RefusedOnRight (c : Condition) (entity : String) (resolve : Resolver)
    (type : FieldType) : Prop where
  comparesFields : c.operator.comparesFields = true
  left : ∃ leftType, Path.isPath c.field = true ∧ resolve entity c.field = some leftType ∧
    c.operator.permits leftType = true
  right_isPath : Path.isPath (Text.trim c.value) = true
  right : resolve entity (Text.trim c.value) = some type
  not_permitted : c.operator.permits type = false

namespace Condition.RefusedOnRight

variable {c : Condition} {entity : String} {resolve : Resolver} {type known : FieldType}

theorem left_permitted (h : c.RefusedOnRight entity resolve type)
    (hknown : resolve entity c.field = some known) : c.operator.permits known = true := by
  obtain ⟨leftType, -, hleft, hpermits⟩ := h.left
  obtain rfl : leftType = known := Option.some.inj (hleft.symm.trans hknown)
  exact hpermits

theorem right_not_permitted (h : c.RefusedOnRight entity resolve type)
    (hknown : resolve entity (Text.trim c.value) = some known) :
    c.operator.permits known = false := by
  obtain rfl : type = known := Option.some.inj (h.right.symm.trans hknown)
  exact h.not_permitted

/-- The type on the right is never the one on the left. -/
theorem left_ne (h : c.RefusedOnRight entity resolve type) :
    resolve entity c.field ≠ some type := by
  intro hknown
  have hpermits := h.left_permitted hknown
  rw [h.not_permitted] at hpermits
  contradiction

end Condition.RefusedOnRight

namespace Target

variable {target : Target} {resolve : Resolver} {c : Condition} {type : FieldType}

theorem outcome_typeOf_ne_unsupported {field path : String} {operator : Operator} :
    (target.typeOf field).outcome resolve ≠ .error (.unsupported operator type path) := by
  intro hrefused
  rcases outcome_typeOf_eq_error_iff.mp hrefused with ⟨-, h⟩ | ⟨-, -, h⟩
  · exact Refusal.noConfusion h
  · exact Refusal.noConfusion h

/-- A type that has literals refuses an operand only for its form. -/
theorem malformed_of_literal (htype : type ≠ .reference) {operand : String} {refusal : Refusal}
    (hrefused : target.literal c type operand = .error refusal) :
    ∃ form, refusal = .malformed c.field operand form := by
  unfold literal at hrefused
  cases type with
  | reference => exact absurd rfl htype
  | string => simp at hrefused
  | boolean =>
      dsimp only at hrefused
      split at hrefused
      · cases hrefused
      · exact ⟨.boolean, by simpa using hrefused.symm⟩
  | numeric | monetary =>
      dsimp only at hrefused
      split at hrefused
      · cases hrefused
      · exact ⟨.number, by simpa using hrefused.symm⟩
  | date =>
      dsimp only at hrefused
      split at hrefused
      · cases hrefused
      · exact ⟨.date, by simpa using hrefused.symm⟩

theorem malformed_of_compare (htype : type ≠ .reference) {sign : Sign} {refusal : Refusal}
    (hrefused : target.compare c type sign = .error refusal) :
    ∃ form, refusal = .malformed c.field c.value form := by
  rw [compare, except_bind_eq_error_iff] at hrefused
  rcases hrefused with hliteral | ⟨right, -, hdone⟩
  · exact malformed_of_literal htype hliteral
  · cases hdone

theorem malformed_of_compareRange (htype : type ≠ .reference) {inclusive : Bool}
    {refusal : Refusal} (hrefused : target.compareRange c type inclusive = .error refusal) :
    ∃ literal form, refusal = .malformed c.field literal form := by
  rw [compareRange] at hrefused
  split at hrefused
  · exact ⟨c.value, .range, by simpa using hrefused.symm⟩
  · rename_i low high hrange
    simp only [except_bind_eq_error_iff] at hrefused
    rcases hrefused with hlow | ⟨lowText, -, hhigh | ⟨highText, -, hdone⟩⟩
    · exact ⟨_, malformed_of_literal htype hlow⟩
    · exact ⟨_, malformed_of_literal htype hhigh⟩
    · cases hdone

/-- Once the type on the left is permitted, only a comparison of two fields can still be refused for
a type. -/
theorem outcome_comparison_unsupported {operator : Operator} {named : FieldType} {path : String}
    (hpermits : c.operator.permits type = true)
    (hrefused : (target.comparison c type).outcome resolve =
      .error (.unsupported operator named path)) :
    ∃ sign, c.operator = .compareField sign ∧
      (target.compareField c type sign).outcome resolve =
        .error (.unsupported operator named path) := by
  rw [comparison] at hrefused
  cases hoperator : c.operator with
  | compareField sign =>
      rw [hoperator] at hrefused
      exact ⟨sign, rfl, hrefused⟩
  | compare sign =>
      have htype : type ≠ .reference := by
        rintro rfl
        simp [hoperator, Operator.permits] at hpermits
      simp only [hoperator, Inquiry.outcome_ofExcept] at hrefused
      obtain ⟨form, hform⟩ := malformed_of_compare htype hrefused
      cases hform
  | range inclusive =>
      have htype : type ≠ .reference := by
        rintro rfl
        simp [hoperator, Operator.permits] at hpermits
      simp only [hoperator, Inquiry.outcome_ofExcept] at hrefused
      obtain ⟨literal, form, hform⟩ := malformed_of_compareRange htype hrefused
      cases hform
  | compareFolded negated | null negated =>
      rw [hoperator] at hrefused
      cases hrefused
  | method method negated folded =>
      rw [hoperator] at hrefused
      cases hrefused

/-- A condition that is refused for a type is refused on the right, or names a path that has the type
that it names. -/
theorem outcome_condition_unsupported {operator : Operator} {path : String}
    (hrefused : (target.condition c).outcome resolve =
      .error (.unsupported operator type path)) :
    c.operator = operator ∧
      (c.RefusedOnRight target.entity resolve type ∧ path = c.field ∨
        (∀ other, ¬ c.RefusedOnRight target.entity resolve other) ∧
          resolve target.entity path = some type ∧
            (path = c.field ∨ operator.comparesFields = true ∧ path = Text.trim c.value)) := by
  rcases outcome_condition_eq_error_iff.mp hrefused with
    htype | ⟨leftType, hleft, ⟨hnot, heq⟩ | ⟨hpermits, hcomparison⟩⟩
  · exact absurd htype outcome_typeOf_ne_unsupported
  · -- The type on the left is not permitted, and the refusal is about the left.
    obtain ⟨rfl, rfl, rfl⟩ := Refusal.unsupported.inj heq
    obtain ⟨-, hknown⟩ := outcome_typeOf_eq_ok_iff.mp hleft
    refine ⟨rfl, Or.inr ⟨?_, hknown, Or.inl rfl⟩⟩
    intro other hother
    have hpermits := hother.left_permitted hknown
    rw [hnot] at hpermits
    simp at hpermits
  · obtain ⟨sign, hoperator, hfields⟩ := outcome_comparison_unsupported hpermits hcomparison
    have hcompares : c.operator.comparesFields = true := by rw [hoperator]; rfl
    obtain ⟨hpath, hknown⟩ := outcome_typeOf_eq_ok_iff.mp hleft
    rcases outcome_compareField_eq_error_iff.mp hfields with
      htype | ⟨rightType, hright, ⟨hnot, heq⟩ | ⟨hpermitsRight, -, heq⟩⟩
    · exact absurd htype outcome_typeOf_ne_unsupported
    · -- The type on the right is not permitted: its type, with the path on the left.
      obtain ⟨rfl, rfl, rfl⟩ := Refusal.unsupported.inj heq
      obtain ⟨hrightPath, hrightKnown⟩ := outcome_typeOf_eq_ok_iff.mp hright
      exact ⟨rfl, Or.inl ⟨⟨hcompares, ⟨leftType, hpath, hknown, hpermits⟩, hrightPath,
        hrightKnown, hnot⟩, rfl⟩⟩
    · -- The types do not meet: type and path are those on the right.
      obtain ⟨rfl, rfl, rfl⟩ := Refusal.unsupported.inj heq
      obtain ⟨hrightPath, hrightKnown⟩ := outcome_typeOf_eq_ok_iff.mp hright
      refine ⟨rfl, Or.inr ⟨?_, hrightKnown, Or.inr ⟨hcompares, rfl⟩⟩⟩
      intro other hother
      have hnot := hother.right_not_permitted hrightKnown
      simp [hpermitsRight] at hnot

/-- What is refused on the right is reported with the type on the right and the path on the left. -/
theorem outcome_condition_of_refusedOnRight
    (hright : c.RefusedOnRight target.entity resolve type) :
    (target.condition c).outcome resolve = .error (.unsupported c.operator type c.field) := by
  obtain ⟨leftType, hpath, hknown, hpermits⟩ := hright.left
  obtain ⟨sign, hoperator⟩ : ∃ sign, c.operator = .compareField sign := by
    have hcompares := hright.comparesFields
    unfold Operator.comparesFields at hcompares
    split at hcompares
    · exact ⟨_, by assumption⟩
    · contradiction
  have hleft : (target.typeOf c.field).outcome resolve = .ok leftType :=
    outcome_typeOf_eq_ok_iff.mpr ⟨hpath, hknown⟩
  have hother : (target.typeOf (Text.trim c.value)).outcome resolve = .ok type :=
    outcome_typeOf_eq_ok_iff.mpr ⟨hright.right_isPath, hright.right⟩
  refine outcome_condition_eq_error_iff.mpr (Or.inr ⟨leftType, hleft, Or.inr ⟨hpermits, ?_⟩⟩)
  simp only [comparison, hoperator]
  refine outcome_compareField_eq_error_iff.mpr (Or.inr ⟨type, hother, Or.inl ?_⟩)
  exact ⟨hright.not_permitted, by rw [hoperator]⟩

end Target

/-- The refusal is true of the rule: the path has the type, and some condition of the rule has the
operator and compares that path, as its field or as the field that its operand names. -/
def Rule.ConfirmsUnsupported (rule : Rule) (entity : String) (resolve : Resolver)
    (operator : Operator) (type : FieldType) (path : String) : Prop :=
  resolve entity path = some type ∧
    ∃ c, .condition c ∈ rule.items ∧ c.operator = operator ∧
      (path = c.field ∨ operator.comparesFields = true ∧ path = Text.trim c.value)

namespace Dialect

variable {dialect : Dialect} {entity : String} {resolve : Resolver} {rule : Rule}

/-- Whether a refusal for a type is true of the rule is decided by the first refused item. -/
theorem confirmsUnsupported_iff_of_refused {operator : Operator} {type : FieldType}
    {path : String} (hrefused : (dialect.write entity rule).outcome resolve =
      .error (.unsupported operator type path)) :
    ∃ before c after, rule.items = before ++ .condition c :: after ∧
      (∀ earlier ∈ before, dialect.itemRefusal? entity resolve earlier = none) ∧
        (rule.ConfirmsUnsupported entity resolve operator type path ↔
          ∀ other, ¬ c.RefusedOnRight entity resolve other) := by
  have hentity : Path.isPath entity = true := isPath_of_outcome_write hrefused (by simp)
  obtain ⟨before, item, after, hitems, hitem, hearlier⟩ :=
    ((firstRefusalDecides_write rule).refused_iff hentity _).mp hrefused
  cases item with
  | childless combinator => cases hitem
  | condition c =>
      rw [itemRefusal?_eq hentity, Target.itemRefusal?, Inquiry.refusal?_eq_some_iff] at hitem
      refine ⟨before, c, after, hitems, hearlier, ?_⟩
      obtain ⟨hoperator, ⟨hright, hpath⟩ | ⟨hnot, hknown, hpath⟩⟩ :=
        Target.outcome_condition_unsupported hitem
      · have hfalse : ¬ rule.ConfirmsUnsupported entity resolve operator type path := by
          rintro ⟨hknown, -⟩
          rw [hpath] at hknown
          exact hright.left_ne hknown
        constructor
        · intro htrue
          exact absurd htrue hfalse
        · intro hnone
          exact absurd hright (hnone type)
      · have hmem : .condition c ∈ rule.items := by simp [hitems]
        constructor
        · intro _
          exact hnot
        · intro _
          exact ⟨hknown, c, hmem, hoperator, hpath⟩

theorem outcome_write_of_refusedOnRight (hentity : Path.isPath entity = true)
    {before after : List Item} {c : Condition} {type : FieldType}
    (hitems : rule.items = before ++ .condition c :: after)
    (hearlier : ∀ earlier ∈ before, dialect.itemRefusal? entity resolve earlier = none)
    (hright : c.RefusedOnRight entity resolve type) :
    (dialect.write entity rule).outcome resolve =
      .error (.unsupported c.operator type c.field) := by
  refine ((firstRefusalDecides_write rule).refused_iff hentity _).mpr
    ⟨before, _, after, hitems, ?_, hearlier⟩
  rw [itemRefusal?_eq hentity, Target.itemRefusal?, Inquiry.refusal?_eq_some_iff]
  exact Target.outcome_condition_of_refusedOnRight hright

/-- A refusal for a type is true of the rule unless the first refused condition is refused on the
right, and in that case it names the type on the right and the path on the left. -/
theorem unsupported_true_unless_on_right (dialect : Dialect) (entity : String)
    (resolve : Resolver) (rule : Rule) :
    (∀ operator type path, (dialect.write entity rule).outcome resolve =
        .error (.unsupported operator type path) →
      ∃ before c after, rule.items = before ++ .condition c :: after ∧
        (∀ earlier ∈ before, dialect.itemRefusal? entity resolve earlier = none) ∧
          (rule.ConfirmsUnsupported entity resolve operator type path ↔
            ∀ other, ¬ c.RefusedOnRight entity resolve other)) ∧
    (∀ before c after type, Path.isPath entity = true →
      rule.items = before ++ .condition c :: after →
      (∀ earlier ∈ before, dialect.itemRefusal? entity resolve earlier = none) →
      c.RefusedOnRight entity resolve type →
        (dialect.write entity rule).outcome resolve =
          .error (.unsupported c.operator type c.field)) :=
  ⟨fun _ _ _ hrefused => confirmsUnsupported_iff_of_refused hrefused,
    fun _ _ _ _ hentity hitems hearlier hright =>
      outcome_write_of_refusedOnRight hentity hitems hearlier hright⟩

/-- A number that is asked to be greater than a text is refused as if it were a text itself. -/
theorem unsupported_false_on_right :
    let catalog := (Catalog.empty.insert "order" "itemCount" .numeric).insert
      "order" "status" .string
    let rule := Rule.condition ⟨"itemCount", .compareField .greater, "status"⟩
    (mvel.write "order" rule).outcome catalog.resolver =
        .error (.unsupported (.compareField .greater) .string "itemCount") ∧
      ¬ rule.ConfirmsUnsupported "order" catalog.resolver
        (.compareField .greater) .string "itemCount" := by
  refine ⟨rfl, ?_⟩
  rintro ⟨hknown, -⟩
  cases hknown

end Dialect

end RuleExpr
