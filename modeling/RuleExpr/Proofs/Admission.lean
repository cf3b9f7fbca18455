import RuleExpr.Catalog
import RuleExpr.Proofs.Bounds
import RuleExpr.Proofs.Grammar
import RuleExpr.Proofs.Outcome
/-!
Admission: which conditions on a known field have an expression, and what it is. Both are told by the
operator and the type of the field as in a table, without the steps in which a condition is checked and
written.
-/
namespace RuleExpr

namespace FieldType

/-- The types whose values have an order. -/
def IsOrdered (type : FieldType) : Prop :=
  type = .numeric ∨ type = .monetary ∨ type = .date

/-- A trimmed text is a literal of the type. Text is no such type, as it takes any operand as it is, and
a reference has no literals at all. -/
def IsLiteral : FieldType → String → Prop
  | .boolean, text => ∃ value, text.toList.map Char.toLower = (Literal.booleanText value).toList
  | .numeric, text | .monetary, text => Literal.IsDecimal text.toList
  | .date, text => Literal.IsDay text.toList
  | .string, _ | .reference, _ => False

/-- Values of the two types can be compared: they are of one type, or numbers and money. -/
def Meets (left right : FieldType) : Prop :=
  left = right ∨ (left = .numeric ∧ right = .monetary) ∨ (left = .monetary ∧ right = .numeric)

end FieldType

/-- The condition has an expression, for a field of the type. -/
def Condition.Admitted (c : Condition) (entity : String) (resolve : Resolver)
    (type : FieldType) : Prop :=
  match c.operator with
  | .compare .equal | .compare .notEqual =>
      type = .string ∨ type.IsLiteral (Text.trim c.value)
  | .compare _ => type.IsOrdered ∧ type.IsLiteral (Text.trim c.value)
  | .compareFolded _ | .method .. => type = .string
  | .null _ => True
  | .compareField sign =>
      Path.IsDotted (Text.trim c.value).toList ∧
        ∃ otherType, resolve entity (Text.trim c.value) = some otherType ∧
          type.Meets otherType ∧
            (sign = .equal ∨ sign = .notEqual ∨ type.IsOrdered ∧ otherType.IsOrdered)
  | .range _ =>
      type.IsOrdered ∧ ∃ low high : String,
        Literal.IsRange c.value.toList low.toList high.toList ∧
          type.IsLiteral (Text.trim low) ∧ type.IsLiteral (Text.trim high)

namespace Target

/-- An operand as it stands in an expression: text in quotes, truth values in small letters, numbers as
they are, and dates in quotes and converted. -/
def operandText (target : Target) (type : FieldType) (operand : String) : String :=
  match type with
  | .string | .reference => Text.quoted operand
  | .boolean => String.ofList ((Text.trim operand).toList.map Char.toLower)
  | .numeric | .monetary => Text.trim operand
  | .date => target.dialect.date (Text.quoted (Text.trim operand))

/-- A field as it stands in a comparison, money by its amount. -/
def fieldText (target : Target) (field : String) (type : FieldType) : String :=
  target.entity ++ "." ++ field ++
    if type = .monetary then target.dialect.amountAccessor else ""

/-- The text is the expression that the table has for the operator and the type. -/
def Tabled (target : Target) (resolve : Resolver) (c : Condition) (type : FieldType)
    (text : String) : Prop :=
  let left := target.fieldText c.field type
  let fold := target.dialect.fold
  match c.operator with
  | .compare sign => text = left ++ sign.text ++ target.operandText type c.value
  | .compareFolded negated =>
      text = fold left ++ (if negated then "!=" else "==") ++ fold (Text.quoted c.value)
  | .method method negated folded =>
      text = (if negated then "!" else "") ++
        if folded then
          fold left ++ "." ++ method.text ++ "(" ++ fold (Text.quoted c.value) ++ ")"
        else left ++ "." ++ method.text ++ "(" ++ Text.quoted c.value ++ ")"
  | .null negated =>
      text = target.entity ++ "." ++ c.field ++ (if negated then "!=" else "==") ++
        target.dialect.nullLiteral
  | .compareField sign =>
      ∃ otherType, resolve target.entity (Text.trim c.value) = some otherType ∧
        text = left ++ sign.text ++ target.fieldText (Text.trim c.value) otherType
  | .range inclusive =>
      ∃ low high : String, Literal.IsRange c.value.toList low.toList high.toList ∧
        type.IsLiteral (Text.trim low) ∧ type.IsLiteral (Text.trim high) ∧
          text = left ++ (if inclusive then ">=" else ">") ++ target.operandText type low ++ "&&" ++
            left ++ (if inclusive then "<=" else "<") ++ target.operandText type high

end Target

namespace FieldType

variable {type other : FieldType}

theorem comparable_iff : type.comparable other = true ↔ type.Meets other := by
  cases type <;> cases other <;> simp [comparable, Meets]

/-- A literal of an ordered type can be a bound of a range. -/
theorem isBound_of_isLiteral (htype : type.IsOrdered) {bound : String}
    (h : type.IsLiteral (Text.trim bound)) : Literal.IsBound bound.toList := by
  rcases htype with rfl | rfl | rfl <;>
    simp only [Text.trim, IsLiteral, String.toList_ofList] at h
  · exact Literal.isBound_of_isNumber (Literal.isNumber_iff.mpr h)
  · exact Literal.isBound_of_isNumber (Literal.isNumber_iff.mpr h)
  · exact Literal.isBound_of_isDate (Literal.isDate_iff.mpr h)

end FieldType

namespace Sign

theorem text_equality (negated : Bool) :
    (equality negated).text = if negated then "!=" else "==" := by
  cases negated <;> rfl

theorem text_lower (inclusive : Bool) :
    (lower inclusive).text = if inclusive then ">=" else ">" := by
  cases inclusive <;> rfl

theorem text_upper (inclusive : Bool) :
    (upper inclusive).text = if inclusive then "<=" else "<" := by
  cases inclusive <;> rfl

end Sign

namespace Operator

variable {sign : Sign} {type : FieldType}

theorem permits_range_iff {inclusive : Bool} :
    (range inclusive).permits type = true ↔ type.IsOrdered := by
  cases type <;> simp [permits, FieldType.IsOrdered]

/-- Any two fields of one type can be equal; order needs an ordered type. -/
theorem permits_compareField_iff :
    (compareField sign).permits type = true ↔
      sign = .equal ∨ sign = .notEqual ∨ type.IsOrdered := by
  cases sign <;> cases type <;> simp [permits, Sign.isEquality, FieldType.IsOrdered]

end Operator

namespace Target

open Inquiry

variable {target : Target} {resolve : Resolver} {c : Condition} {type : FieldType} {text : String}

theorem access_eq (field : String) : target.access field type = target.fieldText field type := by
  unfold access fieldText path
  split <;> simp

/-- An operand is written if the type is text or the operand is one of its literals. -/
theorem literal_eq_ok_iff_isLiteral {operand : String} :
    target.literal c type operand = .ok text ↔
      (type = .string ∨ type.IsLiteral (Text.trim operand)) ∧
        text = target.operandText type operand := by
  rw [literal_eq_ok_iff]
  cases type with
  | string | reference => simp [FieldType.IsLiteral, operandText]
  | numeric | monetary => simp [FieldType.IsLiteral, operandText, Literal.isNumber_iff]
  | date => simp [FieldType.IsLiteral, operandText, Literal.isDate_iff]
  | boolean =>
      simp only [FieldType.IsLiteral, operandText, Literal.boolean?_eq_some_iff, reduceCtorEq,
        false_or]
      constructor
      · rintro ⟨value, hvalue, rfl⟩
        exact ⟨⟨value, hvalue⟩, by rw [hvalue, String.ofList_toList]⟩
      · rintro ⟨⟨value, hvalue⟩, rfl⟩
        exact ⟨value, hvalue, by rw [hvalue, String.ofList_toList]⟩

/-- Trimming an operand of an ordered type first changes nothing. -/
theorem literal_trimmed (htype : type.IsOrdered) {bound : String} :
    target.literal c type (String.ofList (Text.trimChars bound.toList)) = .ok text ↔
      type.IsLiteral (Text.trim bound) ∧ text = target.operandText type bound := by
  have htrim : Text.trim (String.ofList (Text.trimChars bound.toList)) = Text.trim bound := by
    simp [Text.trim, Text.trimChars_trimChars]
  rw [literal_eq_ok_iff_isLiteral, htrim]
  rcases htype with rfl | rfl | rfl <;> simp [operandText, htrim]

theorem compare_admitted {field value : String} {sign : Sign} :
    (Operator.compare sign).permits type = true ∧
        target.compare ⟨field, .compare sign, value⟩ type sign = .ok text ↔
      Condition.Admitted ⟨field, .compare sign, value⟩ target.entity resolve type ∧
        target.Tabled resolve ⟨field, .compare sign, value⟩ type text := by
  have hadmitted : Condition.Admitted ⟨field, .compare sign, value⟩ target.entity resolve type ↔
      (Operator.compare sign).permits type = true ∧
        (type = .string ∨ type.IsLiteral (Text.trim value)) := by
    cases sign <;> cases type <;>
      simp [Condition.Admitted, Operator.permits, Sign.isEquality, FieldType.IsOrdered,
        FieldType.IsLiteral]
  rw [hadmitted, compare_eq_ok_iff, and_assoc]
  refine and_congr_right fun _ => ?_
  simp only [literal_eq_ok_iff_isLiteral, Tabled, access_eq]
  constructor
  · rintro ⟨right, ⟨hliteral, rfl⟩, htext⟩
    exact ⟨hliteral, htext⟩
  · rintro ⟨hliteral, htext⟩
    exact ⟨_, ⟨hliteral, rfl⟩, htext⟩

theorem compareField_admitted {field value : String} {sign : Sign} :
    (Operator.compareField sign).permits type = true ∧
        (target.compareField ⟨field, .compareField sign, value⟩ type sign).outcome resolve =
          .ok text ↔
      Condition.Admitted ⟨field, .compareField sign, value⟩ target.entity resolve type ∧
        target.Tabled resolve ⟨field, .compareField sign, value⟩ type text := by
  simp only [outcome_compareField_eq_ok_iff, outcome_typeOf_eq_ok_iff,
    Operator.permits_compareField_iff, FieldType.comparable_iff, Path.isPath_iff_isDotted,
    Condition.Admitted, Tabled, access_eq]
  constructor
  · rintro ⟨hsign, otherType, ⟨hpath, hknown⟩, hother, hmeets, htext⟩
    refine ⟨⟨hpath, otherType, hknown, hmeets, ?_⟩, otherType, hknown, htext⟩
    rcases hsign with hequal | hnotEqual | htype
    · exact Or.inl hequal
    · exact Or.inr (Or.inl hnotEqual)
    · exact hother.imp_right (Or.imp_right fun hordered => ⟨htype, hordered⟩)
  · rintro ⟨⟨hpath, otherType, hknown, hmeets, hsign⟩, otherType', hknown', htext⟩
    obtain rfl : otherType = otherType' := Option.some.inj (hknown.symm.trans hknown')
    exact ⟨hsign.imp_right (Or.imp_right And.left), otherType, ⟨hpath, hknown⟩,
      hsign.imp_right (Or.imp_right And.right), hmeets, htext⟩

theorem compareRange_admitted {field value : String} {inclusive : Bool} :
    (Operator.range inclusive).permits type = true ∧
        target.compareRange ⟨field, .range inclusive, value⟩ type inclusive = .ok text ↔
      Condition.Admitted ⟨field, .range inclusive, value⟩ target.entity resolve type ∧
        target.Tabled resolve ⟨field, .range inclusive, value⟩ type text := by
  rw [Operator.permits_range_iff, compareRange_eq_ok_iff]
  simp only [Condition.Admitted, Tabled, access_eq, Sign.text_lower, Sign.text_upper]
  constructor
  · rintro ⟨htype, low, high, lowText, highText, hrange, hlow, hhigh, rfl⟩
    obtain ⟨rawLow, rawHigh, -, -, hsplit, rfl, rfl⟩ := Literal.range?_eq_some_iff.mp hrange
    rw [← String.toList_ofList (l := rawLow), literal_trimmed htype] at hlow
    rw [← String.toList_ofList (l := rawHigh), literal_trimmed htype] at hhigh
    obtain ⟨hlow, rfl⟩ := hlow
    obtain ⟨hhigh, rfl⟩ := hhigh
    have hbounds : Literal.IsRange value.toList (String.ofList rawLow).toList
        (String.ofList rawHigh).toList := by simpa using hsplit
    exact ⟨⟨htype, _, _, hbounds, hlow, hhigh⟩, _, _, hbounds, hlow, hhigh, rfl⟩
  · rintro ⟨⟨htype, -⟩, low, high, hsplit, hlow, hhigh, rfl⟩
    exact ⟨htype, _, _, _, _, Literal.range?_eq_some_iff.mpr ⟨_, _,
      FieldType.isBound_of_isLiteral htype hlow, FieldType.isBound_of_isLiteral htype hhigh,
        hsplit, rfl, rfl⟩, (literal_trimmed htype).mpr ⟨hlow, rfl⟩,
      (literal_trimmed htype).mpr ⟨hhigh, rfl⟩, rfl⟩

/-- For a field of a known type, the steps and the table say the same. -/
theorem comparison_admitted :
    c.operator.permits type = true ∧ (target.comparison c type).outcome resolve = .ok text ↔
      c.Admitted target.entity resolve type ∧ target.Tabled resolve c type text := by
  obtain ⟨field, operator, value⟩ := c
  cases operator with
  | compare sign => simpa only [comparison, outcome_ofExcept] using compare_admitted
  | compareField sign => simpa only [comparison] using compareField_admitted
  | range inclusive => simpa only [comparison, outcome_ofExcept] using compareRange_admitted
  | compareFolded negated =>
      simp only [comparison, outcome_done_eq_ok_iff, compareFolded, access_eq, Sign.text_equality,
        Operator.permits, beq_iff_eq, Condition.Admitted, Tabled]
  | method method negated folded =>
      simp only [comparison, outcome_done_eq_ok_iff, call, access_eq, Operator.permits, beq_iff_eq,
        Condition.Admitted, Tabled]
      cases folded <;> simp [String.append_assoc]
  | null negated =>
      simp only [comparison, outcome_done_eq_ok_iff, compareNull, path, Sign.text_equality,
        Operator.permits, Condition.Admitted, Tabled]

/-- A condition on a field of a known type. -/
theorem outcome_condition_of_known (hfield : Path.isPath c.field = true)
    (hknown : resolve target.entity c.field = some type) :
    (target.condition c).outcome resolve = .ok text ↔
      c.operator.permits type = true ∧ (target.comparison c type).outcome resolve = .ok text := by
  have htype : (target.typeOf c.field).outcome resolve = .ok type :=
    outcome_typeOf_eq_ok_iff.mpr ⟨hfield, hknown⟩
  rw [outcome_condition_eq_ok_iff]
  constructor
  · rintro ⟨type', htype', hrest⟩
    obtain rfl : type = type' := Except.ok.inj (htype.symm.trans htype')
    exact hrest
  · intro hrest
    exact ⟨type, htype, hrest⟩

end Target

namespace Condition.Admitted

variable {target : Target} {resolve : Resolver} {c : Condition} {type : FieldType}

/-- An admitted condition has an expression in the table. -/
theorem exists_tabled (h : c.Admitted target.entity resolve type) :
    ∃ text, target.Tabled resolve c type text := by
  obtain ⟨field, operator, value⟩ := c
  cases operator with
  | compare sign => exact ⟨_, rfl⟩
  | compareFolded negated => exact ⟨_, rfl⟩
  | method method negated folded => exact ⟨_, rfl⟩
  | null negated => exact ⟨_, rfl⟩
  | compareField sign =>
      obtain ⟨-, otherType, hknown, -⟩ := h
      exact ⟨_, otherType, hknown, rfl⟩
  | range inclusive =>
      obtain ⟨-, low, high, hsplit, hlow, hhigh⟩ := h
      exact ⟨_, low, high, hsplit, hlow, hhigh, rfl⟩

end Condition.Admitted

namespace Dialect

/-- A condition on a known field has an expression if and only if it is admitted, and the expression is
the one of the table. -/
theorem condition_written_iff_admitted (dialect : Dialect) (entity : String) (resolve : Resolver)
    (c : Condition) (type : FieldType) (hentity : Path.IsDotted entity.toList)
    (hfield : Path.IsDotted c.field.toList) (hknown : resolve entity c.field = some type) :
    ((∃ text, (dialect.write entity (.condition c)).outcome resolve = .ok text) ↔
        c.Admitted entity resolve type) ∧
      ∀ text, (dialect.write entity (.condition c)).outcome resolve = .ok text ↔
        c.Admitted entity resolve type ∧ (Target.mk dialect entity).Tabled resolve c type text := by
  have hwritten (text : String) :
      (dialect.write entity (.condition c)).outcome resolve = .ok text ↔
        c.Admitted entity resolve type ∧
          (Target.mk dialect entity).Tabled resolve c type text := by
    rw [outcome_write_of_isPath (Path.isPath_iff_isDotted.mpr hentity)]
    exact (Target.outcome_condition_of_known (Path.isPath_iff_isDotted.mpr hfield) hknown).trans
      Target.comparison_admitted
  refine ⟨⟨?_, ?_⟩, hwritten⟩
  · rintro ⟨text, htext⟩
    exact ((hwritten text).mp htext).1
  · intro hadmitted
    obtain ⟨text, htext⟩ : ∃ text, (Target.mk dialect entity).Tabled resolve c type text :=
      Condition.Admitted.exists_tabled hadmitted
    exact ⟨text, (hwritten text).mpr ⟨hadmitted, htext⟩⟩

/-- A range of amounts in brackets, with blanks around its bounds. -/
theorem padded_range_admitted :
    let catalog := Catalog.empty.insert "order" "subTotal" .monetary
    let c : Condition := ⟨"subTotal", .range true, "[ 1 ,2.50 ]"⟩
    let text := "order.subTotal.getAmount()>=1&&order.subTotal.getAmount()<=2.50"
    (Path.IsDotted "order".toList ∧ Path.IsDotted c.field.toList ∧
      catalog.resolver "order" c.field = some .monetary) ∧
    (mvel.write "order" (.condition c)).outcome catalog.resolver = .ok text ∧
      c.Admitted "order" catalog.resolver .monetary ∧
        (Target.mk mvel "order").Tabled catalog.resolver c .monetary text := by
  intro catalog c text
  have hentity : Path.IsDotted "order".toList := Path.isPath_iff_isDotted.mp (by decide)
  have hfield : Path.IsDotted c.field.toList := Path.isPath_iff_isDotted.mp (by decide)
  have hknown : catalog.resolver "order" c.field = some .monetary := by decide
  have hwritten : (mvel.write "order" (.condition c)).outcome catalog.resolver = .ok text := by
    decide +kernel
  have hadmitted := condition_written_iff_admitted mvel "order" catalog.resolver c .monetary
    hentity hfield hknown
  exact ⟨⟨hentity, hfield, hknown⟩, hwritten, (hadmitted.2 text).mp hwritten⟩

end Dialect

end RuleExpr
