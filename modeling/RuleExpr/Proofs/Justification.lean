import RuleExpr.Proofs.Admission
import RuleExpr.Proofs.Forms
import RuleExpr.Proofs.Locality
/-!
Refusals are justified. A refusal that names a path, a group or a literal is about one that stands in the
rule, and there is no other fault than the one that it names. Refusals of an operator for a type have a
theory of their own.
-/
namespace RuleExpr

/-- The part stands in the rule, at any depth. -/
inductive Rule.Occurs (part : Rule) : Rule → Prop where
  | here : Occurs part part
  | member {combinator : Combinator} {quantity : Option UInt32} {members : List Rule} {member : Rule}
      (hmember : member ∈ members) (inside : Occurs part member) :
      Occurs part (.group combinator quantity members)

/-- The part of a rule that an item stands for. -/
def Item.StandsFor : Item → Rule → Prop
  | .condition c, part => part = .condition c
  | .childless combinator, part => ∃ quantity, part = .group combinator quantity []

theorem Rule.exists_occurs_of_mem_items {rule : Rule} {item : Item} (hitem : item ∈ rule.items) :
    ∃ part : Rule, part.Occurs rule ∧ item.StandsFor part := by
  induction rule using Rule.induction with
  | condition c =>
      obtain rfl := List.mem_singleton.mp hitem
      exact ⟨.condition c, .here, rfl⟩
  | group combinator quantity members ih =>
      by_cases hmembers : members = []
      · subst hmembers
        obtain rfl := List.mem_singleton.mp hitem
        exact ⟨.group combinator quantity [], .here, quantity, rfl⟩
      · rw [items_group hmembers, List.mem_flatMap] at hitem
        obtain ⟨member, hmember, hitem⟩ := hitem
        obtain ⟨part, hpart, hstands⟩ := ih member hmember hitem
        exact ⟨part, .member hmember hpart, hstands⟩

/-- The text is a range with these bounds, which are not trimmed. -/
structure Literal.HasBounds (text low high : String) : Prop where
  isBound_low : IsBound low.toList
  isBound_high : IsBound high.toList
  isRange : IsRange text.toList low.toList high.toList

/-- The text is of the form. -/
def LiteralForm.Fits : LiteralForm → String → Prop
  | .boolean, text =>
      ∃ value, Literal.SpellsInAnyCase (Literal.booleanText value).toList text.toList
  | .number, text => Literal.IsDecimal text.toList
  | .date, text => Literal.IsDay text.toList
  | .range, text => ∃ low high, Literal.HasBounds text low high

/-- The form that a type asks of its literals. -/
def FieldType.form? : FieldType → Option LiteralForm
  | .boolean => some .boolean
  | .numeric | .monetary => some .number
  | .date => some .date
  | .string | .reference => none

/-- The literal belongs to the condition, and it is not of the form that the operator and the type of the
field ask for. An operand is shown as it was typed, and a bound of a range without the blanks around it. -/
inductive Condition.Malformed (c : Condition) (type : FieldType) : String → LiteralForm → Prop where
  | operand {sign : Sign} {form : LiteralForm} (hoperator : c.operator = .compare sign)
      (hsign : sign = .equal ∨ sign = .notEqual ∨ type.IsOrdered) (hform : type.form? = some form)
      (hunfit : ¬ form.Fits (Text.trim c.value)) : Malformed c type c.value form
  | range {inclusive : Bool} (hoperator : c.operator = .range inclusive) (htype : type.IsOrdered)
      (hunfit : ¬ LiteralForm.range.Fits c.value) : Malformed c type c.value .range
  | bound {inclusive : Bool} {low high bound : String} {form : LiteralForm}
      (hoperator : c.operator = .range inclusive) (htype : type.IsOrdered)
      (hbounds : Literal.HasBounds c.value low high) (hbound : bound = low ∨ bound = high)
      (hform : type.form? = some form) (hunfit : ¬ form.Fits (Text.trim bound)) :
      Malformed c type (Text.trim bound) form

/-- What a refusal of the condition says of it, the types of its fields aside. -/
def Condition.Causes (c : Condition) (entity : String) (resolve : Resolver) : Refusal → Prop
  | .unknownField named path => named = entity ∧ Path.IsDotted path.toList ∧ c.Compares path ∧
      resolve entity path = none
  | .invalidPath path => ¬ Path.IsDotted path.toList ∧ c.Compares path
  | .malformed path literal form => path = c.field ∧
      ∃ type, resolve entity c.field = some type ∧ c.Malformed type literal form
  | .unsupported operator _ _ => operator = c.operator
  | .emptyGroup _ => False

/-- The refusal has its cause in the rule: the entity is no path, a condition in the rule causes it, or a
group in the rule has no members. -/
inductive Rule.Causes (entity : String) (resolve : Resolver) (rule : Rule) : Refusal → Prop where
  | entity (hentity : ¬ Path.IsDotted entity.toList) : Causes entity resolve rule (.invalidPath entity)
  | condition {c : Condition} {refusal : Refusal} (hoccurs : (Rule.condition c).Occurs rule)
      (hcauses : c.Causes entity resolve refusal) : Causes entity resolve rule refusal
  | childless {combinator : Combinator} {quantity : Option UInt32}
      (hoccurs : (Rule.group combinator quantity []).Occurs rule) :
      Causes entity resolve rule (.emptyGroup combinator)

namespace LiteralForm

variable {text : String}

theorem fits_boolean_iff : boolean.Fits text ↔ (Literal.boolean? text.toList).isSome = true := by
  rw [Option.isSome_iff_exists]
  exact exists_congr fun value => Literal.boolean?_eq_some_iff_spells.symm

theorem fits_number_iff : number.Fits text ↔ Literal.isNumber text.toList = true :=
  Literal.isNumber_iff.symm

theorem fits_date_iff : date.Fits text ↔ Literal.isDate text.toList = true :=
  Literal.isDate_iff.symm

end LiteralForm

theorem Text.trim_trim (text : String) : trim (trim text) = trim text := by
  simp [trim, trimChars_trimChars]

theorem FieldType.IsOrdered.ne_reference {type : FieldType} (h : type.IsOrdered) :
    type ≠ .reference := by
  rcases h with rfl | rfl | rfl <;> simp

/-- A comparison with a literal is permitted for types that have literals. -/
theorem Operator.of_permits_compare {sign : Sign} {type : FieldType}
    (h : (compare sign).permits type = true) :
    type ≠ .reference ∧ (sign = .equal ∨ sign = .notEqual ∨ type.IsOrdered) := by
  cases sign <;> cases type <;> simp_all [permits, Sign.isEquality, FieldType.IsOrdered]

/-- A range is read as its bounds, and these are trimmed. -/
theorem Literal.range?_eq_some_iff_hasBounds {text : String} {low high : List Char} :
    range? text.toList = some (low, high) ↔ ∃ rawLow rawHigh, HasBounds text rawLow rawHigh ∧
      String.ofList low = Text.trim rawLow ∧ String.ofList high = Text.trim rawHigh := by
  rw [range?_eq_some_iff]
  constructor
  · rintro ⟨rawLow, rawHigh, hlow, hhigh, htext, rfl, rfl⟩
    have hbounds : HasBounds text (String.ofList rawLow) (String.ofList rawHigh) := by
      constructor
      · simpa using hlow
      · simpa using hhigh
      · simpa using htext
    exact ⟨_, _, hbounds, by simp [Text.trim], by simp [Text.trim]⟩
  · rintro ⟨rawLow, rawHigh, hbounds, hlow, hhigh⟩
    exact ⟨rawLow.toList, rawHigh.toList, hbounds.isBound_low, hbounds.isBound_high,
      hbounds.isRange, String.ofList_injective hlow, String.ofList_injective hhigh⟩

namespace Target

open Inquiry

variable {target : Target} {resolve : Resolver} {c : Condition} {type : FieldType}
  {refusal : Refusal}

/-- A literal is refused for its form. Only a type without literals is refused itself. -/
theorem literal_eq_error_iff {operand : String} :
    target.literal c type operand = .error refusal ↔
      (∃ form, type.form? = some form ∧ ¬ form.Fits (Text.trim operand) ∧
        refusal = .malformed c.field operand form) ∨
      type = .reference ∧ refusal = .unsupported c.operator type c.field := by
  unfold literal
  cases type with
  | string => simp [FieldType.form?]
  | reference => simp [FieldType.form?, eq_comm]
  | boolean =>
      simp only [FieldType.form?, Option.some.injEq, exists_eq_left', LiteralForm.fits_boolean_iff]
      cases Literal.boolean? (Text.trim operand).toList <;> simp [eq_comm]
  | numeric | monetary =>
      simp only [FieldType.form?, Option.some.injEq, exists_eq_left', LiteralForm.fits_number_iff]
      cases Literal.isNumber (Text.trim operand).toList <;> simp [eq_comm]
  | date =>
      simp only [FieldType.form?, Option.some.injEq, exists_eq_left', LiteralForm.fits_date_iff]
      cases Literal.isDate (Text.trim operand).toList <;> simp [eq_comm]

/-- An operand is refused as a literal of the wrong form. -/
theorem malformed_of_compare_eq_error {sign : Sign} (hoperator : c.operator = .compare sign)
    (hpermits : c.operator.permits type = true)
    (hrefused : target.compare c type sign = .error refusal) :
    ∃ literal form, refusal = .malformed c.field literal form ∧ c.Malformed type literal form := by
  rw [hoperator] at hpermits
  obtain ⟨htype, hsign⟩ := Operator.of_permits_compare hpermits
  rw [compare, except_bind_eq_error_iff] at hrefused
  rcases hrefused with hliteral | ⟨right, -, hdone⟩
  · rcases literal_eq_error_iff.mp hliteral with ⟨form, hform, hunfit, hrefusal⟩ | ⟨hnone, -⟩
    · exact ⟨c.value, form, hrefusal, .operand hoperator hsign hform hunfit⟩
    · exact absurd hnone htype
  · cases hdone

/-- A range is refused as a whole, or for one of its bounds. -/
theorem malformed_of_compareRange_eq_error {inclusive : Bool}
    (hoperator : c.operator = .range inclusive) (hpermits : c.operator.permits type = true)
    (hrefused : target.compareRange c type inclusive = .error refusal) :
    ∃ literal form, refusal = .malformed c.field literal form ∧ c.Malformed type literal form := by
  rw [hoperator] at hpermits
  have htype : type.IsOrdered := Operator.permits_range_iff.mp hpermits
  have hbound {low high bound : String} (hbounds : Literal.HasBounds c.value low high)
      (hmem : bound = low ∨ bound = high)
      (hliteral : target.literal c type (Text.trim bound) = .error refusal) :
      ∃ literal form, refusal = .malformed c.field literal form ∧
        c.Malformed type literal form := by
    rcases literal_eq_error_iff.mp hliteral with ⟨form, hform, hunfit, hrefusal⟩ | ⟨hnone, -⟩
    · rw [Text.trim_trim] at hunfit
      exact ⟨Text.trim bound, form, hrefusal, .bound hoperator htype hbounds hmem hform hunfit⟩
    · exact absurd hnone htype.ne_reference
  rw [compareRange] at hrefused
  split at hrefused
  · rename_i hnone
    have hunfit : ¬ LiteralForm.range.Fits c.value := by
      rintro ⟨low, high, hbounds⟩
      have hsome := Literal.range?_eq_some_iff_hasBounds.mpr
        ⟨low, high, hbounds, rfl, rfl⟩
      simp [hnone] at hsome
    cases hrefused
    exact ⟨c.value, .range, rfl, .range hoperator htype hunfit⟩
  · rename_i low high hsome
    obtain ⟨rawLow, rawHigh, hbounds, hlow, hhigh⟩ :=
      Literal.range?_eq_some_iff_hasBounds.mp hsome
    simp only [except_bind_eq_error_iff, hlow, hhigh] at hrefused
    rcases hrefused with hliteral | ⟨lowText, -, hliteral | ⟨highText, -, hdone⟩⟩
    · exact hbound hbounds (Or.inl rfl) hliteral
    · exact hbound hbounds (Or.inr rfl) hliteral
    · cases hdone

/-- A field without a type is refused for its path or because it is not known. -/
theorem causes_of_typeOf {path : String} (hcompares : c.Compares path)
    (hrefused : (target.typeOf path).outcome resolve = .error refusal) :
    c.Causes target.entity resolve refusal := by
  rcases outcome_typeOf_eq_error_iff.mp hrefused with ⟨hpath, rfl⟩ | ⟨hpath, hunknown, rfl⟩
  · refine ⟨?_, hcompares⟩
    rw [← Path.isPath_iff_isDotted, hpath]
    exact Bool.false_ne_true
  · exact ⟨rfl, Path.isPath_iff_isDotted.mp hpath, hcompares, hunknown⟩

theorem causes_of_compareField {sign : Sign} (hoperator : c.operator = .compareField sign)
    (hrefused : (target.compareField c type sign).outcome resolve = .error refusal) :
    c.Causes target.entity resolve refusal := by
  have hcompares : c.Compares (Text.trim c.value) := Or.inr ⟨by rw [hoperator]; rfl, rfl⟩
  rcases outcome_compareField_eq_error_iff.mp hrefused with
    hother | ⟨otherType, -, ⟨-, rfl⟩ | ⟨-, -, rfl⟩⟩
  · exact causes_of_typeOf hcompares hother
  · exact rfl
  · exact rfl

theorem causes_of_comparison (hknown : resolve target.entity c.field = some type)
    (hpermits : c.operator.permits type = true)
    (hrefused : (target.comparison c type).outcome resolve = .error refusal) :
    c.Causes target.entity resolve refusal := by
  rw [comparison] at hrefused
  cases hoperator : c.operator with
  | compare sign =>
      simp only [hoperator, outcome_ofExcept] at hrefused
      obtain ⟨literal, form, rfl, hmalformed⟩ :=
        malformed_of_compare_eq_error hoperator hpermits hrefused
      exact ⟨rfl, type, hknown, hmalformed⟩
  | range inclusive =>
      simp only [hoperator, outcome_ofExcept] at hrefused
      obtain ⟨literal, form, rfl, hmalformed⟩ :=
        malformed_of_compareRange_eq_error hoperator hpermits hrefused
      exact ⟨rfl, type, hknown, hmalformed⟩
  | compareField sign =>
      rw [hoperator] at hrefused
      exact causes_of_compareField hoperator hrefused
  | compareFolded | method | null =>
      rw [hoperator] at hrefused
      cases hrefused

/-- Whatever a condition is refused for, it is the cause. -/
theorem causes_of_condition (hrefused : (target.condition c).outcome resolve = .error refusal) :
    c.Causes target.entity resolve refusal := by
  rcases outcome_condition_eq_error_iff.mp hrefused with
    hfield | ⟨type, htype, ⟨-, rfl⟩ | ⟨hpermits, hcomparison⟩⟩
  · exact causes_of_typeOf (Or.inl rfl) hfield
  · exact rfl
  · obtain ⟨-, hknown⟩ := outcome_typeOf_eq_ok_iff.mp htype
    exact causes_of_comparison hknown hpermits hcomparison

end Target

/-- The entity of a rule, one of its conditions or one of its groups is the cause of a refusal. -/
theorem Rule.causes_of_write {dialect : Dialect} {entity : String} {resolve : Resolver} {rule : Rule}
    {refusal : Refusal} (hrefused : (dialect.write entity rule).outcome resolve = .error refusal) :
    rule.Causes entity resolve refusal := by
  by_cases hentity : Path.isPath entity = true
  · obtain ⟨before, item, after, hitems, hitem, -⟩ :=
      ((Dialect.firstRefusalDecides_write rule).refused_iff hentity refusal).mp hrefused
    have hmem : item ∈ rule.items := by simp [hitems]
    obtain ⟨part, hoccurs, hstands⟩ := exists_occurs_of_mem_items hmem
    cases item with
    | condition c =>
        rw [Dialect.itemRefusal?_eq hentity, Target.itemRefusal?,
          Inquiry.refusal?_eq_some_iff] at hitem
        obtain rfl : part = .condition c := hstands
        exact .condition hoccurs (Target.causes_of_condition hitem)
    | childless combinator =>
        obtain rfl : Refusal.emptyGroup combinator = refusal := Option.some.inj hitem
        obtain ⟨quantity, rfl⟩ := hstands
        exact .childless hoccurs
  · rw [Dialect.outcome_write_of_not_isPath (by simpa using hentity)] at hrefused
    obtain rfl := Except.error.inj hrefused
    apply Causes.entity
    rwa [← Path.isPath_iff_isDotted]

/-- What a refusal names stands in the rule and has the fault that the refusal tells of. An unknown path
is one that the resolver has no type for, a text that is named as no path is none, a group without members
has none, and a literal is not of the form that its condition asks for. -/
structure Rule.RefusalsJustified (rule : Rule) (entity : String) (resolve : Resolver)
    (outcome : Except Refusal String) : Prop where
  unknownField : ∀ named path, outcome = .error (.unknownField named path) →
    named = entity ∧ Path.IsDotted path.toList ∧ resolve entity path = none ∧
      ∃ c, (Rule.condition c).Occurs rule ∧ c.Compares path
  invalidPath : ∀ path, outcome = .error (.invalidPath path) →
    ¬ Path.IsDotted path.toList ∧
      (path = entity ∨ ∃ c, (Rule.condition c).Occurs rule ∧ c.Compares path)
  emptyGroup : ∀ combinator, outcome = .error (.emptyGroup combinator) →
    ∃ quantity, (Rule.group combinator quantity []).Occurs rule
  malformed : ∀ path literal form, outcome = .error (.malformed path literal form) →
    ∃ c type, (Rule.condition c).Occurs rule ∧ c.field = path ∧ resolve entity path = some type ∧
      c.Malformed type literal form

namespace Dialect

/-- A rule is refused with good cause: for every refusal but those of an operator for a type, what it says
is so. -/
theorem refusals_justified (dialect : Dialect) (entity : String) (resolve : Resolver) (rule : Rule) :
    rule.RefusalsJustified entity resolve ((dialect.write entity rule).outcome resolve) where
  unknownField named path hrefused := by
    cases Rule.causes_of_write hrefused with
    | condition hoccurs hcauses =>
        obtain ⟨hnamed, hpath, hcompares, hunknown⟩ := hcauses
        exact ⟨hnamed, hpath, hunknown, _, hoccurs, hcompares⟩
  invalidPath path hrefused := by
    cases Rule.causes_of_write hrefused with
    | entity hentity => exact ⟨hentity, Or.inl rfl⟩
    | condition hoccurs hcauses =>
        obtain ⟨hpath, hcompares⟩ := hcauses
        exact ⟨hpath, Or.inr ⟨_, hoccurs, hcompares⟩⟩
  emptyGroup combinator hrefused := by
    cases Rule.causes_of_write hrefused with
    | condition hoccurs hcauses => exact hcauses.elim
    | childless hoccurs => exact ⟨_, hoccurs⟩
  malformed path literal form hrefused := by
    cases Rule.causes_of_write hrefused with
    | condition hoccurs hcauses =>
        obtain ⟨rfl, type, hknown, hmalformed⟩ := hcauses
        exact ⟨_, type, hoccurs, rfl, hknown, hmalformed⟩

/-- An operand is shown with its blanks, and a bound without them. -/
example :
    let catalog := Catalog.empty.insert "order" "total" .numeric
    let refused (operator : Operator) (value : String) :=
      (mvel.write "order" (.condition ⟨"total", operator, value⟩)).outcome catalog.resolver
    refused (.compare .equal) " ten " = .error (.malformed "total" " ten " .number) ∧
      refused (.range true) "[1, ten ]" = .error (.malformed "total" "ten" .number) := by
  decide +kernel

end Dialect

end RuleExpr
