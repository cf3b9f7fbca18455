import RuleExpr.Proofs.Composition
import RuleExpr.Proofs.Justification
import RuleExpr.Rule.Build
/-!
A range is its two comparisons. It is written if its operand splits into bounds that are written in the
comparisons, and a conjunction of these can stand for it in every rule. Bounds that are glued into an
operand come apart again as they were, unless they bring brackets of their own.
-/
namespace RuleExpr

namespace Literal

theorem isRange_toList_iff {text low high : String} :
    IsRange text.toList low.toList high.toList ↔
      text = low ++ "," ++ high ∨ text = "[" ++ low ++ "," ++ high ++ "]" := by
  simp [IsRange, ← String.toList_inj]

theorem isBoundChar_iff {c : Char} : isBoundChar c = true ↔ c ≠ ',' ∧ c ≠ '[' ∧ c ≠ ']' := by
  simp [isBoundChar, and_assoc]

theorem not_mem_of_isBoundChar {text : List Char} (htext : ∀ c ∈ text, isBoundChar c = true) {c : Char}
    (hc : isBoundChar c = false) : c ∉ text := by
  intro hmem
  rw [htext c hmem] at hc
  contradiction

/-- A text has one comma at most to be split at if there are none on either side of it. -/
theorem append_comma_inj {left right left' right' : List Char} (hleft : ',' ∉ left')
    (hright : ',' ∉ right') :
    left ++ ',' :: right = left' ++ ',' :: right' ↔ left = left' ∧ right = right' := by
  rw [eq_comm, List.append_cons_inj_of_notMem hleft hright]
  simp [eq_comm]

/-- Two texts that are glued with a comma are a range with these bounds, if they are the bounds or if
they bring a bracket each around them. -/
theorem isRange_glued_iff {left right low high : List Char} (hlow : IsBound low)
    (hhigh : IsBound high) :
    IsRange (left ++ ',' :: right) low high ↔
      left = low ∧ right = high ∨ left = '[' :: low ∧ right = high ++ [']'] := by
  have hlowComma : ',' ∉ low := not_mem_of_isBoundChar hlow.boundChars rfl
  have hhighComma : ',' ∉ high := not_mem_of_isBoundChar hhigh.boundChars rfl
  have hbrackets : '[' :: (low ++ ',' :: high ++ [']']) =
      ('[' :: low) ++ ',' :: (high ++ [']']) := by
    simp
  rw [IsRange, hbrackets, append_comma_inj hlowComma hhighComma,
    append_comma_inj (by simpa using hlowComma) (by simpa using hhighComma)]

/-- The text is two bounds with a comma between them, bare or in one pair of brackets. There are no
commas and no brackets in the bounds. -/
structure Splits (text low high : String) : Prop where
  whole : text = low ++ "," ++ high ∨ text = "[" ++ low ++ "," ++ high ++ "]"
  low_bare : ∀ c ∈ low.toList, c ≠ ',' ∧ c ≠ '[' ∧ c ≠ ']'
  high_bare : ∀ c ∈ high.toList, c ≠ ',' ∧ c ≠ '[' ∧ c ≠ ']'

theorem HasBounds.splits {text low high : String} (h : HasBounds text low high) :
    Splits text low high where
  whole := isRange_toList_iff.mp h.isRange
  low_bare c hc := isBoundChar_iff.mp (h.isBound_low.boundChars c hc)
  high_bare c hc := isBoundChar_iff.mp (h.isBound_high.boundChars c hc)

theorem hasBounds_glued_iff {left right low high : String} :
    HasBounds (left ++ "," ++ right) low high ↔
      IsBound low.toList ∧ IsBound high.toList ∧
        (left = low ∧ right = high ∨ left = "[" ++ low ∧ right = high ++ "]") := by
  have hglued : (left ++ "," ++ right).toList = left.toList ++ ',' :: right.toList := by simp
  have hrange (hlow : IsBound low.toList) (hhigh : IsBound high.toList) :
      IsRange (left ++ "," ++ right).toList low.toList high.toList ↔
        left = low ∧ right = high ∨ left = "[" ++ low ∧ right = high ++ "]" := by
    rw [hglued, isRange_glued_iff hlow hhigh]
    simp [← String.toList_inj]
  constructor
  · rintro ⟨hlow, hhigh, htext⟩
    exact ⟨hlow, hhigh, (hrange hlow hhigh).mp htext⟩
  · rintro ⟨hlow, hhigh, hcases⟩
    exact ⟨hlow, hhigh, (hrange hlow hhigh).mpr hcases⟩

end Literal

theorem FieldType.IsOrdered.ne_string {type : FieldType} (h : type.IsOrdered) :
    type ≠ .string := by
  rcases h with rfl | rfl | rfl <;> simp

/-- Only ordered types are permitted where a sign asks for an order. -/
theorem Operator.isOrdered_of_permits_compare {sign : Sign} {type : FieldType}
    (hsign : sign.isEquality = false) (hpermits : (compare sign).permits type = true) :
    type.IsOrdered := by
  rcases (of_permits_compare hpermits).2 with rfl | rfl | htype
  · cases hsign
  · cases hsign
  · exact htype

theorem Sign.isEquality_lower (inclusive : Bool) : (lower inclusive).isEquality = false := by
  cases inclusive <;> rfl

theorem Sign.isEquality_upper (inclusive : Bool) : (upper inclusive).isEquality = false := by
  cases inclusive <;> rfl

namespace Condition

/-- A range that the field is in. -/
def within (field : String) (inclusive : Bool) (value : String) : Condition :=
  ⟨field, .range inclusive, value⟩

/-- The comparison of the field with the lower bound of a range. -/
def above (field : String) (inclusive : Bool) (low : String) : Condition :=
  ⟨field, .compare (.lower inclusive), low⟩

/-- The comparison of the field with the upper bound of a range. -/
def below (field : String) (inclusive : Bool) (high : String) : Condition :=
  ⟨field, .compare (.upper inclusive), high⟩

end Condition

/-- The conjunction of the comparisons with both bounds of a range. -/
def Rule.withinBounds (field : String) (inclusive : Bool) (quantity : Option UInt32)
    (low high : String) : Rule :=
  .group .and quantity
    [.condition (.above field inclusive low), .condition (.below field inclusive high)]

namespace Target

variable {target : Target} {resolve : Resolver} {type : FieldType} {field : String} {sign : Sign}
  {text : String}

/-- All types but text trim their operands. -/
theorem literal_eq_ok_of_trim {c : Condition} (htype : type ≠ .string) {operand other : String}
    (htrim : Text.trim operand = Text.trim other) :
    target.literal c type operand = .ok text ↔ target.literal c type other = .ok text := by
  rw [literal_eq_ok_iff, literal_eq_ok_iff]
  cases type with
  | string => exact absurd rfl htype
  | boolean | numeric | monetary | date | reference => simp only [htrim]

theorem outcome_condition_compare_eq_ok_iff {value : String} :
    (target.condition ⟨field, .compare sign, value⟩).outcome resolve = .ok text ↔
      ∃ type right, (target.typeOf field).outcome resolve = .ok type ∧
        (Operator.compare sign).permits type = true ∧
          target.literal ⟨field, .compare sign, value⟩ type value = .ok right ∧
            text = target.access field type ++ sign.text ++ right := by
  rw [outcome_condition_eq_ok_iff]
  simp only [comparison, Inquiry.outcome_ofExcept, compare_eq_ok_iff, exists_and_left]

/-- A comparison takes any two operands alike that are the same when trimmed, except for text. -/
theorem outcome_compare_of_trim {value other : String} (htrim : Text.trim value = Text.trim other)
    (htype : ∀ type, (target.typeOf field).outcome resolve = .ok type →
      (Operator.compare sign).permits type = true → type ≠ .string) :
    (target.condition ⟨field, .compare sign, value⟩).outcome resolve = .ok text ↔
      (target.condition ⟨field, .compare sign, other⟩).outcome resolve = .ok text := by
  rw [outcome_condition_compare_eq_ok_iff, outcome_condition_compare_eq_ok_iff]
  apply exists_congr
  intro type
  apply exists_congr
  intro right
  apply and_congr_right
  intro hknown
  apply and_congr_right
  intro hpermits
  rw [literal_eq_ok_of_trim (htype type hknown hpermits) htrim, literal_eq_ok_congr]

theorem outcome_compare_of_order (hsign : sign.isEquality = false) {value other : String}
    (htrim : Text.trim value = Text.trim other) :
    (target.condition ⟨field, .compare sign, value⟩).outcome resolve = .ok text ↔
      (target.condition ⟨field, .compare sign, other⟩).outcome resolve = .ok text := by
  apply outcome_compare_of_trim htrim
  intro type _ hpermits
  exact (Operator.isOrdered_of_permits_compare hsign hpermits).ne_string

/-- What is compared with a sign that asks for an order can be a bound of a range. -/
theorem isBound_of_outcome_compare (hsign : sign.isEquality = false) {value : String}
    (h : (target.condition ⟨field, .compare sign, value⟩).outcome resolve = .ok text) :
    Literal.IsBound value.toList := by
  obtain ⟨type, right, -, hpermits, hliteral, -⟩ := outcome_condition_compare_eq_ok_iff.mp h
  have htype : type.IsOrdered := Operator.isOrdered_of_permits_compare hsign hpermits
  obtain ⟨hstring | hvalue, -⟩ := literal_eq_ok_iff_isLiteral.mp hliteral
  · exact absurd hstring htype.ne_string
  · exact FieldType.isBound_of_isLiteral htype hvalue

/-- A range is written as the two comparisons with its bounds, which need not be trimmed. -/
theorem outcome_within_eq_ok_iff {inclusive : Bool} {value : String} :
    (target.condition (.within field inclusive value)).outcome resolve = .ok text ↔
      ∃ low high lowText highText, Literal.HasBounds value low high ∧
        (target.condition (.above field inclusive low)).outcome resolve = .ok lowText ∧
          (target.condition (.below field inclusive high)).outcome resolve = .ok highText ∧
            text = lowText ++ "&&" ++ highText := by
  have hlower (bound text : String) :
      (target.condition (.above field inclusive (Text.trim bound))).outcome resolve = .ok text ↔
        (target.condition (.above field inclusive bound)).outcome resolve = .ok text :=
    outcome_compare_of_order (Sign.isEquality_lower inclusive) (Text.trim_trim bound)
  have hupper (bound text : String) :
      (target.condition (.below field inclusive (Text.trim bound))).outcome resolve = .ok text ↔
        (target.condition (.below field inclusive bound)).outcome resolve = .ok text :=
    outcome_compare_of_order (Sign.isEquality_upper inclusive) (Text.trim_trim bound)
  rw [outcome_condition_range rfl]
  constructor
  · rintro ⟨low, high, lowText, highText, hrange, hlow, hhigh, htext⟩
    obtain ⟨rawLow, rawHigh, hbounds, htrimLow, htrimHigh⟩ :=
      Literal.range?_eq_some_iff_hasBounds.mp hrange
    rw [htrimLow] at hlow
    rw [htrimHigh] at hhigh
    exact ⟨rawLow, rawHigh, lowText, highText, hbounds, (hlower rawLow lowText).mp hlow,
      (hupper rawHigh highText).mp hhigh, htext⟩
  · rintro ⟨low, high, lowText, highText, hbounds, hlow, hhigh, htext⟩
    exact ⟨_, _, lowText, highText, Literal.range?_eq_some_iff_hasBounds.mpr
      ⟨low, high, hbounds, rfl, rfl⟩, (hlower low lowText).mpr hlow,
      (hupper high highText).mpr hhigh, htext⟩

/-- In every position, a range ends as the conjunction of its comparisons if these have an expression. -/
theorem endsAlike_within {inclusive : Bool} {value low high lowText highText : String}
    (hbounds : Literal.HasBounds value low high)
    (hlow : (target.condition (.above field inclusive low)).outcome resolve = .ok lowText)
    (hhigh : (target.condition (.below field inclusive high)).outcome resolve = .ok highText)
    (quantity : Option UInt32) :
    target.EndsAlike resolve (.condition (.within field inclusive value))
      (.withinBounds field inclusive quantity low high) := by
  intro position
  have hrange : (target.condition (.within field inclusive value)).outcome resolve =
      .ok (lowText ++ "&&" ++ highText) :=
    outcome_within_eq_ok_iff.mpr ⟨low, high, lowText, highText, hbounds, hlow, hhigh, rfl⟩
  have hjoined : (target.rule position (.withinBounds field inclusive quantity low high)).outcome
      resolve = .ok ("&&".intercalate [lowText, highText]) :=
    (target.outcome_rule_of_joins_eq_ok_iff ⟨by simp, by simp⟩).mpr
      ⟨[lowText, highText], .cons hlow (.cons hhigh .nil), rfl⟩
  rw [rule, hrange, hjoined]
  simp

end Target

namespace Dialect

variable {dialect : Dialect} {entity : String} {resolve : Resolver} {field : String}
  {inclusive : Bool}

/-- The condition has an expression. -/
def Writes (dialect : Dialect) (entity : String) (resolve : Resolver) (c : Condition) : Prop :=
  ∃ text, (dialect.write entity (.condition c)).outcome resolve = .ok text

theorem outcome_write_within_eq_ok_iff {value text : String} :
    (dialect.write entity (.condition (.within field inclusive value))).outcome resolve = .ok text ↔
      ∃ low high lowText highText, Literal.HasBounds value low high ∧
        (dialect.write entity (.condition (.above field inclusive low))).outcome resolve =
            .ok lowText ∧
          (dialect.write entity (.condition (.below field inclusive high))).outcome resolve =
              .ok highText ∧
            text = lowText ++ "&&" ++ highText := by
  cases hentity : Path.isPath entity with
  | true =>
      simp only [outcome_write_of_isPath hentity]
      exact Target.outcome_within_eq_ok_iff
  | false => simp [outcome_write_of_not_isPath hentity]

theorem isBound_of_write_compare {sign : Sign} (hsign : sign.isEquality = false)
    {value text : String}
    (h : (dialect.write entity (.condition ⟨field, .compare sign, value⟩)).outcome resolve =
      .ok text) : Literal.IsBound value.toList :=
  Target.isBound_of_outcome_compare hsign (outcome_write_eq_ok_iff.mp h).2

/-- Bounds that are written in the comparisons are such of a range. -/
theorem hasBounds_of_write {value low high lowText highText : String}
    (hrange : Literal.IsRange value.toList low.toList high.toList)
    (hlow : (dialect.write entity (.condition (.above field inclusive low))).outcome resolve =
      .ok lowText)
    (hhigh : (dialect.write entity (.condition (.below field inclusive high))).outcome resolve =
      .ok highText) : Literal.HasBounds value low high where
  isBound_low := isBound_of_write_compare (Sign.isEquality_lower inclusive) hlow
  isBound_high := isBound_of_write_compare (Sign.isEquality_upper inclusive) hhigh
  isRange := hrange

/-- A range has an expression if and only if its operand splits into two bounds that have one in the
comparisons. And then their conjunction can stand for it at any place of any rule. -/
theorem range_is_both_comparisons (dialect : Dialect) (entity : String) (resolve : Resolver)
    (field : String) (inclusive : Bool) (value : String) :
    (dialect.Writes entity resolve (.within field inclusive value) ↔
      ∃ low high, Literal.Splits value low high ∧
        dialect.Writes entity resolve (.above field inclusive low) ∧
          dialect.Writes entity resolve (.below field inclusive high)) ∧
    ∀ low high, Literal.Splits value low high →
      dialect.Writes entity resolve (.above field inclusive low) →
        dialect.Writes entity resolve (.below field inclusive high) →
          ∀ quantity rule rule', Rule.Replaced (.condition (.within field inclusive value))
              (.withinBounds field inclusive quantity low high) rule rule' →
            (dialect.write entity rule).outcome resolve =
              (dialect.write entity rule').outcome resolve := by
  refine ⟨⟨?_, ?_⟩, ?_⟩
  · rintro ⟨text, htext⟩
    obtain ⟨low, high, lowText, highText, hbounds, hlow, hhigh, -⟩ :=
      outcome_write_within_eq_ok_iff.mp htext
    exact ⟨low, high, hbounds.splits, ⟨lowText, hlow⟩, highText, hhigh⟩
  · rintro ⟨low, high, hsplits, hlow, hhigh⟩
    obtain ⟨lowText, hlow⟩ := hlow
    obtain ⟨highText, hhigh⟩ := hhigh
    have hbounds := hasBounds_of_write (Literal.isRange_toList_iff.mpr hsplits.whole) hlow hhigh
    exact ⟨_, outcome_write_within_eq_ok_iff.mpr
      ⟨low, high, lowText, highText, hbounds, hlow, hhigh, rfl⟩⟩
  · intro low high hsplits hlow hhigh quantity rule rule' hreplaced
    obtain ⟨lowText, hlow⟩ := hlow
    obtain ⟨highText, hhigh⟩ := hhigh
    have hbounds := hasBounds_of_write (Literal.isRange_toList_iff.mpr hsplits.whole) hlow hhigh
    obtain ⟨hentity, hlow⟩ := outcome_write_eq_ok_iff.mp hlow
    obtain ⟨-, hhigh⟩ := outcome_write_eq_ok_iff.mp hhigh
    have halike := Target.endsAlike_within hbounds hlow hhigh quantity
    rw [outcome_write_of_isPath hentity, outcome_write_of_isPath hentity]
    exact halike.replaced hreplaced .standalone

/-- A range in brackets with a blank in it, among the members of a denied disjunction. -/
theorem range_replaced_under_denial :
    let resolve := (Catalog.empty.insert "order" "total" .monetary).resolver
    let isNull := Rule.condition ⟨"total", .null false, ""⟩
    let range := Rule.condition (.within "total" true "[ 1,2]")
    let both := Rule.withinBounds "total" true none " 1" "2"
    let rule := Rule.group .not none [.group .or none [isNull, range]]
    let rule' := Rule.group .not none [.group .or none [isNull, both]]
    (Literal.Splits "[ 1,2]" " 1" "2" ∧
      mvel.Writes "order" resolve (.above "total" true " 1") ∧
        mvel.Writes "order" resolve (.below "total" true "2") ∧
          Rule.Replaced range both rule rule') ∧
    mvel.Writes "order" resolve (.within "total" true "[ 1,2]") ∧
      (mvel.write "order" rule).outcome resolve = (mvel.write "order" rule').outcome resolve := by
  intro resolve isNull range both rule rule'
  have hsplits : Literal.Splits "[ 1,2]" " 1" "2" :=
    ⟨Or.inr rfl, by simp, by simp⟩
  have hlow : mvel.Writes "order" resolve (.above "total" true " 1") :=
    ⟨"order.total.getAmount()>=1", by decide +kernel⟩
  have hhigh : mvel.Writes "order" resolve (.below "total" true "2") :=
    ⟨"order.total.getAmount()<=2", by decide +kernel⟩
  have hmember : Rule.Replaced range both (.group .or none [isNull, range])
      (.group .or none [isNull, both]) :=
    @Rule.Replaced.inside range both .or none [isNull] [] range both .here
  have hreplaced : Rule.Replaced range both rule rule' :=
    @Rule.Replaced.inside range both .not none [] [] _ _ hmember
  have hrange := range_is_both_comparisons mvel "order" resolve "total" true "[ 1,2]"
  exact ⟨⟨hsplits, hlow, hhigh, hreplaced⟩, hrange.1.mpr ⟨" 1", "2", hsplits, hlow, hhigh⟩,
    hrange.2 " 1" "2" hsplits hlow hhigh none rule rule' hreplaced⟩

/-- The range that is built from two bounds. They come apart as they were, or without a pair of brackets
that they bring. -/
theorem outcome_write_between_eq_ok_iff {field : Field} {low high text : String} :
    (dialect.write entity (field.between low high)).outcome resolve = .ok text ↔
      ∃ inner inner' lowText highText,
        (low = inner ∧ high = inner' ∨ low = "[" ++ inner ∧ high = inner' ++ "]") ∧
          (dialect.write entity (field.gt inner)).outcome resolve = .ok lowText ∧
            (dialect.write entity (field.lt inner')).outcome resolve = .ok highText ∧
              text = lowText ++ "&&" ++ highText := by
  refine outcome_write_within_eq_ok_iff.trans ?_
  constructor
  · rintro ⟨inner, inner', lowText, highText, hbounds, hlow, hhigh, htext⟩
    obtain ⟨-, -, hcases⟩ := Literal.hasBounds_glued_iff.mp hbounds
    exact ⟨inner, inner', lowText, highText, hcases, hlow, hhigh, htext⟩
  · rintro ⟨inner, inner', lowText, highText, hcases, hlow, hhigh, htext⟩
    have hbounds : Literal.HasBounds (low ++ "," ++ high) inner inner' :=
      Literal.hasBounds_glued_iff.mpr ⟨isBound_of_write_compare rfl hlow,
        isBound_of_write_compare rfl hhigh, hcases⟩
    exact ⟨inner, inner', lowText, highText, hbounds, hlow, hhigh, htext⟩

/-- A range that is built from two bounds has an expression if and only if both bounds have one in the
comparisons, and it is put together from theirs. -/
def ChecksBounds (dialect : Dialect) (entity : String) (resolve : Resolver) (field : Field)
    (low high : String) : Prop :=
  ∀ text, (dialect.write entity (field.between low high)).outcome resolve = .ok text ↔
    ∃ lowText highText, (dialect.write entity (field.gt low)).outcome resolve = .ok lowText ∧
      (dialect.write entity (field.lt high)).outcome resolve = .ok highText ∧
        text = lowText ++ "&&" ++ highText

/-- The bounds of a built range are checked one by one, as they are or without a pair of brackets that
they bring. So they are checked as they are unless they would do without such brackets. -/
theorem glued_bounds_checked (dialect : Dialect) (entity : String) (resolve : Resolver)
    (field : Field) (low high : String) :
    (∀ text, (dialect.write entity (field.between low high)).outcome resolve = .ok text ↔
      ∃ inner inner' lowText highText,
        (low = inner ∧ high = inner' ∨ low = "[" ++ inner ∧ high = inner' ++ "]") ∧
          (dialect.write entity (field.gt inner)).outcome resolve = .ok lowText ∧
            (dialect.write entity (field.lt inner')).outcome resolve = .ok highText ∧
              text = lowText ++ "&&" ++ highText) ∧
    (dialect.ChecksBounds entity resolve field low high ↔
      ¬ ∃ inner inner', low = "[" ++ inner ∧ high = inner' ++ "]" ∧
        (∃ text, (dialect.write entity (field.gt inner)).outcome resolve = .ok text) ∧
          ∃ text, (dialect.write entity (field.lt inner')).outcome resolve = .ok text) := by
  refine ⟨fun text => outcome_write_between_eq_ok_iff, ?_, ?_⟩
  · rintro hchecks ⟨inner, inner', hlow, hhigh, ⟨lowText, hgt⟩, highText, hlt⟩
    -- The range has an expression, so the bound has one with its bracket, which no bound contains.
    obtain ⟨bracketed, -, hbracketed, -, -⟩ := (hchecks _).mp (outcome_write_between_eq_ok_iff.mpr
      ⟨inner, inner', lowText, highText, Or.inr ⟨hlow, hhigh⟩, hgt, hlt, rfl⟩)
    have hbound : Literal.IsBound low.toList := isBound_of_write_compare rfl hbracketed
    have hbracket : '[' ∉ low.toList := Literal.not_mem_of_isBoundChar hbound.boundChars rfl
    exact hbracket (by simp [hlow])
  · intro hnone text
    rw [outcome_write_between_eq_ok_iff]
    constructor
    · rintro ⟨inner, inner', lowText, highText, ⟨rfl, rfl⟩ | ⟨hlow, hhigh⟩, hgt, hlt, htext⟩
      · exact ⟨lowText, highText, hgt, hlt, htext⟩
      · exact absurd ⟨inner, inner', hlow, hhigh, ⟨lowText, hgt⟩, highText, hlt⟩ hnone
    · rintro ⟨lowText, highText, hgt, hlt, htext⟩
      exact ⟨low, high, lowText, highText, Or.inl ⟨rfl, rfl⟩, hgt, hlt, htext⟩

/-- A bracket before the lower bound and one behind the upper bound pass for those of the range. -/
theorem brackets_pass_for_bounds :
    let resolve := (Catalog.empty.insert "order" "itemCount" .numeric).resolver
    let field : Field := ⟨"itemCount"⟩
    (mvel.write "order" (field.between "[1" "2]")).outcome resolve =
        .ok "order.itemCount>1&&order.itemCount<2" ∧
      (mvel.write "order" (field.gt "[1")).outcome resolve =
          .error (.malformed "itemCount" "[1" .number) ∧
        (mvel.write "order" (field.lt "2]")).outcome resolve =
            .error (.malformed "itemCount" "2]" .number) ∧
          ¬ mvel.ChecksBounds "order" resolve field "[1" "2]" := by
  intro resolve field
  have hrange : (mvel.write "order" (field.between "[1" "2]")).outcome resolve =
      .ok "order.itemCount>1&&order.itemCount<2" := by
    decide +kernel
  have hrefused : (mvel.write "order" (field.gt "[1")).outcome resolve =
      .error (.malformed "itemCount" "[1" .number) := by
    decide +kernel
  refine ⟨hrange, hrefused, by decide +kernel, ?_⟩
  intro hchecks
  obtain ⟨lowText, -, hlow, -, -⟩ := (hchecks _).mp hrange
  rw [hrefused] at hlow
  cases hlow

end Dialect

end RuleExpr
