import RuleExpr.Proofs.Ranges
/-!
Blanks around an operand. Where an operand has a type, they make no difference to the expression, with one
exception: a range in brackets has none once there are blanks around the brackets.
-/
namespace RuleExpr

namespace Text

/-- All characters of the text are blank. -/
def IsBlankText (text : String) : Prop :=
  ∀ c ∈ text.toList, isBlank c = true

instance (text : String) : Decidable (IsBlankText text) :=
  decidable_of_iff (text.toList.all isBlank = true) List.all_eq_true

theorem trimChars_padded {front back : List Char} (hfront : ∀ c ∈ front, isBlank c = true)
    (hback : ∀ c ∈ back, isBlank c = true) (cs : List Char) :
    trimChars (front ++ (cs ++ back)) = trimChars cs := by
  have hreverse : ∀ c ∈ back.reverse, isBlank c = true := by simpa using hback
  rw [trimChars, trimChars, List.dropWhile_append_of_pos hfront, List.dropWhile_append]
  split
  case isTrue hblank =>
    -- Nothing is left of the text itself, and then nothing of the blanks behind it.
    rw [List.dropWhile_eq_nil_iff.mpr hback, List.isEmpty_iff.mp hblank]
  case isFalse =>
    rw [List.reverse_append, List.dropWhile_append_of_pos hreverse]

theorem trim_padded {front back : String} (hfront : IsBlankText front) (hback : IsBlankText back)
    (text : String) : trim (front ++ text ++ back) = trim text := by
  simp only [trim, String.toList_append, List.append_assoc, trimChars_padded hfront hback]

theorem isBlankText_empty : IsBlankText "" := by
  simp [IsBlankText]

/-- No blank is a comma or a bracket. -/
theorem IsBlankText.boundChars {text : String} (h : IsBlankText text) :
    ∀ c ∈ text.toList, Literal.isBoundChar c = true := by
  intro c hc
  exact Literal.isBoundChar_of rfl rfl rfl (h c hc)

end Text

namespace Literal

variable {front back text low high : List Char}

/-- Where a text is split at a comma, what has none stays on its side. -/
theorem padded_eq_append_comma_iff (hfront : ',' ∉ front) (hback : ',' ∉ back) :
    front ++ (text ++ back) = low ++ ',' :: high ↔
      ∃ low' high', text = low' ++ ',' :: high' ∧ low = front ++ low' ∧ high = high' ++ back := by
  constructor
  · intro h
    obtain ⟨low', rfl, hrest⟩ :
        ∃ low', low = front ++ low' ∧ text ++ back = low' ++ ',' :: high := by
      rcases List.append_eq_append_iff.mp h with ⟨low', hlow, hrest⟩ | ⟨rest, hrest, hcomma⟩
      · exact ⟨low', hlow, hrest⟩
      · cases rest with
        | nil => exact ⟨[], by simpa using hrest.symm, hcomma.symm⟩
        | cons c rest =>
            cases hcomma
            exact (hfront (by simp [hrest])).elim
    rcases List.append_eq_append_iff.mp hrest with ⟨rest, -, hcomma⟩ | ⟨rest, htext, hcomma⟩
    · exact (hback (by simp [hcomma])).elim
    · cases rest with
      | nil =>
          have hstart : back = ',' :: high := hcomma.symm
          exact (hback (by simp [hstart])).elim
      | cons c high' =>
          cases hcomma
          exact ⟨low', high', htext, rfl, rfl⟩
  · rintro ⟨low', high', rfl, rfl, rfl⟩
    simp

/-- A text in brackets starts and ends with a bracket. -/
theorem padded_ne_bracketed (hfront : '[' ∉ front) (hback : ']' ∉ back)
    (hpadding : front ≠ [] ∨ back ≠ []) (inner : List Char) :
    front ++ (text ++ back) ≠ '[' :: (inner ++ [']']) := by
  intro h
  rcases hpadding with hne | hne
  · obtain ⟨c, cs, rfl⟩ := List.exists_cons_of_ne_nil hne
    rw [List.cons_append, List.cons.injEq] at h
    exact hfront (by simp [h.1])
  · obtain ⟨cs, c, rfl⟩ := List.eq_nil_or_concat back |>.resolve_left hne
    have hends : (front ++ (text ++ cs)) ++ [c] = ('[' :: inner) ++ [']'] := by simpa using h
    obtain ⟨-, hlast⟩ := List.append_inj' hends rfl
    exact hback (by simp [hlast])

/-- A padded range is a bare one, and its bounds are padded at their outer ends. -/
theorem isRange_padded_iff (hfront : ∀ c ∈ front, isBoundChar c = true)
    (hback : ∀ c ∈ back, isBoundChar c = true) (hpadding : front ≠ [] ∨ back ≠ []) :
    IsRange (front ++ (text ++ back)) low high ↔
      ∃ low' high', text = low' ++ ',' :: high' ∧ low = front ++ low' ∧ high = high' ++ back := by
  have hbrackets : front ++ (text ++ back) ≠ '[' :: (low ++ ',' :: high ++ [']']) :=
    padded_ne_bracketed (not_mem_of_isBoundChar hfront rfl) (not_mem_of_isBoundChar hback rfl)
      hpadding _
  rw [IsRange, or_iff_left hbrackets]
  exact padded_eq_append_comma_iff (not_mem_of_isBoundChar hfront rfl)
    (not_mem_of_isBoundChar hback rfl)

/-- The bounds of a padded range are those of a bare one, padded at their outer ends. -/
theorem isRange_padded_toList_iff {front back value low high : String}
    (hfront : Text.IsBlankText front) (hback : Text.IsBlankText back)
    (hpadding : front ≠ "" ∨ back ≠ "") :
    IsRange (front ++ value ++ back).toList low.toList high.toList ↔
      ∃ low' high', value = low' ++ "," ++ high' ∧ low = front ++ low' ∧ high = high' ++ back := by
  have hlists : front.toList ≠ [] ∨ back.toList ≠ [] := by simpa using hpadding
  rw [String.toList_append, String.toList_append, List.append_assoc,
    isRange_padded_iff hfront.boundChars hback.boundChars hlists]
  constructor
  · rintro ⟨low', high', hvalue, hlow, hhigh⟩
    refine ⟨String.ofList low', String.ofList high', ?_, ?_, ?_⟩
    · simp [← String.toList_inj, hvalue]
    · simp [← String.toList_inj, hlow]
    · simp [← String.toList_inj, hhigh]
  · rintro ⟨low', high', rfl, rfl, rfl⟩
    exact ⟨low'.toList, high'.toList, by simp, by simp, by simp⟩

/-- Outside of blanks, brackets are no longer those of a range. -/
theorem range?_padded_bracketed {front back inner : String} (hfront : Text.IsBlankText front)
    (hback : Text.IsBlankText back) (hpadding : front ≠ "" ∨ back ≠ "") :
    range? (front ++ ("[" ++ inner) ++ back).toList = none := by
  rw [Option.eq_none_iff_forall_ne_some]
  rintro ⟨lowTrimmed, highTrimmed⟩ hrange
  obtain ⟨low, high, hbounds, -, -⟩ := range?_eq_some_iff_hasBounds.mp hrange
  obtain ⟨low', high', hinner, rfl, -⟩ :=
    (isRange_padded_toList_iff hfront hback hpadding).mp hbounds.isRange
  have hlists : '[' :: inner.toList = low'.toList ++ ',' :: high'.toList := by
    simpa using congrArg String.toList hinner
  have hmem : '[' ∈ low'.toList := by
    cases hlow : low'.toList with
    | nil => simp [hlow] at hlists
    | cons first rest =>
        rw [hlow, List.cons_append, List.cons.injEq] at hlists
        rw [hlists.1]
        exact List.mem_cons_self
  have hbracket : '[' ∉ (front ++ low').toList :=
    not_mem_of_isBoundChar hbounds.isBound_low.boundChars rfl
  exact hbracket (by simp [hmem])

end Literal

namespace Condition

/-- The condition with texts in front of its operand and behind it. -/
def padded (c : Condition) (front back : String) : Condition :=
  { c with value := front ++ c.value ++ back }

/-- The operand of the condition has a type: it names a field, or it is compared as a literal with a field
that is a truth value, a number, money or a date. -/
def HasTypedOperand (c : Condition) (entity : String) (resolve : Resolver) : Prop :=
  match c.operator with
  | .compareField _ => True
  | .compare _ | .range _ =>
      ∃ type, resolve entity c.field = some type ∧ (type = .boolean ∨ type.IsOrdered)
  | .compareFolded _ | .method .. | .null _ => False

/-- The operand of the condition is a range that starts with a bracket. -/
def IsBracketed (c : Condition) : Prop :=
  (∃ inclusive, c.operator = .range inclusive) ∧ ∃ inner, c.value = "[" ++ inner

end Condition

namespace Target

variable {target : Target} {resolve : Resolver} {field : String} {sign : Sign} {text : String}

/-- The field that is compared with is named by the trimmed operand. -/
theorem outcome_compareField_of_trim {value other : String}
    (htrim : Text.trim value = Text.trim other) :
    (target.condition ⟨field, .compareField sign, value⟩).outcome resolve = .ok text ↔
      (target.condition ⟨field, .compareField sign, other⟩).outcome resolve = .ok text := by
  rw [outcome_condition_eq_ok_iff, outcome_condition_eq_ok_iff]
  simp only [comparison, outcome_compareField_eq_ok_iff, htrim]

end Target

namespace Dialect

variable {dialect : Dialect} {entity : String} {resolve : Resolver} {c : Condition}
  {front back text : String}

/-- The condition has the same expression with texts around its operand as without them. -/
def IgnoresPadding (dialect : Dialect) (entity : String) (resolve : Resolver) (c : Condition)
    (front back : String) : Prop :=
  ∀ text, (dialect.write entity (.condition (c.padded front back))).outcome resolve = .ok text ↔
    (dialect.write entity (.condition c)).outcome resolve = .ok text

theorem outcome_write_congr {other : Condition}
    (h : ∀ text, ((Target.mk dialect entity).condition c).outcome resolve = .ok text ↔
      ((Target.mk dialect entity).condition other).outcome resolve = .ok text) :
    (dialect.write entity (.condition c)).outcome resolve = .ok text ↔
      (dialect.write entity (.condition other)).outcome resolve = .ok text := by
  rw [outcome_write_eq_ok_iff, outcome_write_eq_ok_iff]
  exact and_congr_right fun _ => h text

/-- A range with blanks around it is written if it is a bare one. -/
theorem outcome_write_padded_range_iff {field value : String} {inclusive : Bool}
    (hfront : Text.IsBlankText front) (hback : Text.IsBlankText back)
    (hpadding : front ≠ "" ∨ back ≠ "") :
    (dialect.write entity (.condition (.within field inclusive (front ++ value ++ back)))).outcome
        resolve = .ok text ↔
      ∃ low high lowText highText, value = low ++ "," ++ high ∧
        (dialect.write entity (.condition (.above field inclusive low))).outcome resolve =
            .ok lowText ∧
          (dialect.write entity (.condition (.below field inclusive high))).outcome resolve =
              .ok highText ∧
            text = lowText ++ "&&" ++ highText := by
  have hlower (low text : String) :
      (dialect.write entity (.condition (.above field inclusive (front ++ low)))).outcome resolve =
          .ok text ↔
        (dialect.write entity (.condition (.above field inclusive low))).outcome resolve =
          .ok text := by
    have htrim : Text.trim (front ++ low) = Text.trim low := by
      simpa using Text.trim_padded hfront Text.isBlankText_empty low
    exact outcome_write_congr fun _ =>
      Target.outcome_compare_of_order (Sign.isEquality_lower inclusive) htrim
  have hupper (high text : String) :
      (dialect.write entity (.condition (.below field inclusive (high ++ back)))).outcome resolve =
          .ok text ↔
        (dialect.write entity (.condition (.below field inclusive high))).outcome resolve =
          .ok text := by
    have htrim : Text.trim (high ++ back) = Text.trim high := by
      simpa using Text.trim_padded Text.isBlankText_empty hback high
    exact outcome_write_congr fun _ =>
      Target.outcome_compare_of_order (Sign.isEquality_upper inclusive) htrim
  rw [outcome_write_within_eq_ok_iff]
  constructor
  · rintro ⟨_, _, lowText, highText, hbounds, hlow, hhigh, htext⟩
    obtain ⟨low, high, hvalue, rfl, rfl⟩ :=
      (Literal.isRange_padded_toList_iff hfront hback hpadding).mp hbounds.isRange
    exact ⟨low, high, lowText, highText, hvalue, (hlower low lowText).mp hlow,
      (hupper high highText).mp hhigh, htext⟩
  · rintro ⟨low, high, lowText, highText, hvalue, hlow, hhigh, htext⟩
    have hlow := (hlower low lowText).mpr hlow
    have hhigh := (hupper high highText).mpr hhigh
    have hrange : Literal.IsRange (front ++ value ++ back).toList (front ++ low).toList
        (high ++ back).toList :=
      (Literal.isRange_padded_toList_iff hfront hback hpadding).mpr ⟨low, high, hvalue, rfl, rfl⟩
    exact ⟨_, _, lowText, highText, hasBounds_of_write hrange hlow hhigh, hlow, hhigh, htext⟩

/-- A range that starts with a bracket is not one any more with blanks around it. -/
theorem outcome_write_padded_bracketed {field inner : String} {inclusive : Bool}
    (hfront : Text.IsBlankText front) (hback : Text.IsBlankText back)
    (hpadding : front ≠ "" ∨ back ≠ "")
    (hwrites : dialect.Writes entity resolve (.within field inclusive ("[" ++ inner))) :
    (dialect.write entity
        (.condition (.within field inclusive (front ++ ("[" ++ inner) ++ back)))).outcome resolve =
      .error (.malformed field (front ++ ("[" ++ inner) ++ back) .range) := by
  obtain ⟨text, hwritten⟩ := hwrites
  obtain ⟨hentity, hcondition⟩ := outcome_write_eq_ok_iff.mp hwritten
  obtain ⟨type, hknown, hpermits, -⟩ := Target.outcome_condition_eq_ok_iff.mp hcondition
  have hnone : Literal.range? (front ++ ("[" ++ inner) ++ back).toList = none :=
    Literal.range?_padded_bracketed hfront hback hpadding
  rw [outcome_write_of_isPath hentity]
  refine Target.outcome_condition_eq_error_iff.mpr (Or.inr ⟨type, hknown, Or.inr ⟨hpermits, ?_⟩⟩)
  simp only [Condition.within, Target.comparison, Inquiry.outcome_ofExcept, Target.compareRange, hnone]

/-- Blanks make no difference to a bare range, and neither to one without an expression. -/
theorem ignoresPadding_range {field value : String} {inclusive : Bool}
    (hfront : Text.IsBlankText front) (hback : Text.IsBlankText back)
    (hpadding : front ≠ "" ∨ back ≠ "")
    (hbare : ¬ ((∃ inner, value = "[" ++ inner) ∧
      dialect.Writes entity resolve (.within field inclusive value))) :
    dialect.IgnoresPadding entity resolve (.within field inclusive value) front back := by
  intro text
  refine (outcome_write_padded_range_iff hfront hback hpadding).trans ?_
  constructor
  · rintro ⟨low, high, lowText, highText, hvalue, hlow, hhigh, htext⟩
    have hrange := Literal.isRange_toList_iff.mpr (Or.inl hvalue)
    exact outcome_write_within_eq_ok_iff.mpr
      ⟨low, high, lowText, highText, hasBounds_of_write hrange hlow hhigh, hlow, hhigh, htext⟩
  · intro hwritten
    obtain ⟨low, high, lowText, highText, hbounds, hlow, hhigh, htext⟩ :=
      outcome_write_within_eq_ok_iff.mp hwritten
    rcases Literal.isRange_toList_iff.mp hbounds.isRange with hvalue | hvalue
    · exact ⟨low, high, lowText, highText, hvalue, hlow, hhigh, htext⟩
    · refine absurd ⟨⟨low ++ "," ++ high ++ "]", ?_⟩, text, hwritten⟩ hbare
      simp [hvalue, String.append_assoc]

theorem ignoresPadding_empty : dialect.IgnoresPadding entity resolve c "" "" := by
  intro text
  have hsame : c.padded "" "" = c := by simp [Condition.padded]
  rw [hsame]

/-- Single operands with a type are trimmed. -/
theorem ignoresPadding_of_not_range (htyped : c.HasTypedOperand entity resolve)
    (hrange : ∀ inclusive, c.operator ≠ .range inclusive) (hfront : Text.IsBlankText front)
    (hback : Text.IsBlankText back) : dialect.IgnoresPadding entity resolve c front back := by
  obtain ⟨field, operator, value⟩ := c
  have htrim : Text.trim (front ++ value ++ back) = Text.trim value :=
    Text.trim_padded hfront hback value
  intro text
  apply outcome_write_congr
  intro text
  cases operator with
  | compare sign =>
      obtain ⟨type, hresolved, htype⟩ := htyped
      apply Target.outcome_compare_of_trim htrim
      intro known hknown _
      obtain ⟨-, hanswer⟩ := Target.outcome_typeOf_eq_ok_iff.mp hknown
      obtain rfl : known = type := Option.some.inj (hanswer.symm.trans hresolved)
      rcases htype with rfl | htype
      · simp
      · exact htype.ne_string
  | compareField sign => exact Target.outcome_compareField_of_trim htrim
  | range inclusive => exact absurd rfl (hrange inclusive)
  | compareFolded | method | null => exact htyped.elim

/-- Blanks around an operand that has a type make no difference to the expression, except that a range in
brackets is refused with them. -/
theorem padding_ignored_unless_bracketed (dialect : Dialect) (entity : String) (resolve : Resolver)
    (c : Condition) (front back : String) (htyped : c.HasTypedOperand entity resolve)
    (hfront : Text.IsBlankText front) (hback : Text.IsBlankText back) :
    (dialect.IgnoresPadding entity resolve c front back ↔
      ¬ (c.IsBracketed ∧ dialect.Writes entity resolve c ∧ (front ≠ "" ∨ back ≠ ""))) ∧
    (c.IsBracketed → dialect.Writes entity resolve c → front ≠ "" ∨ back ≠ "" →
      (dialect.write entity (.condition (c.padded front back))).outcome resolve =
        .error (.malformed c.field (front ++ c.value ++ back) .range)) := by
  have hrefused (hbracketed : c.IsBracketed) (hwrites : dialect.Writes entity resolve c)
      (hpadding : front ≠ "" ∨ back ≠ "") :
      (dialect.write entity (.condition (c.padded front back))).outcome resolve =
        .error (.malformed c.field (front ++ c.value ++ back) .range) := by
    obtain ⟨field, operator, value⟩ := c
    obtain ⟨⟨inclusive, rfl⟩, inner, rfl⟩ := hbracketed
    exact outcome_write_padded_bracketed hfront hback hpadding hwrites
  refine ⟨⟨?_, ?_⟩, hrefused⟩
  · rintro hignores ⟨hbracketed, ⟨text, hwritten⟩, hpadding⟩
    have hpadded := (hignores text).mpr hwritten
    rw [hrefused hbracketed ⟨text, hwritten⟩ hpadding] at hpadded
    cases hpadded
  · intro hbare
    by_cases hpadding : front ≠ "" ∨ back ≠ ""
    · by_cases hrange : ∃ inclusive, c.operator = .range inclusive
      · obtain ⟨field, operator, value⟩ := c
        obtain ⟨inclusive, rfl⟩ := hrange
        apply ignoresPadding_range hfront hback hpadding
        rintro ⟨hbracket, hwrites⟩
        exact hbare ⟨⟨⟨inclusive, rfl⟩, hbracket⟩, hwrites, hpadding⟩
      · exact ignoresPadding_of_not_range htyped (not_exists.mp hrange) hfront hback
    · obtain ⟨rfl, rfl⟩ : front = "" ∧ back = "" := by simpa using hpadding
      exact ignoresPadding_empty

/-- A tab and a space that is not to be broken, around a range that has blanks at its comma already. -/
theorem padding_ignored_around_bare_range :
    let resolve := (Catalog.empty.insert "order" "total" .monetary).resolver
    let bare := Condition.within "total" true "1 , 2"
    (bare.HasTypedOperand "order" resolve ∧ Text.IsBlankText "\t" ∧ Text.IsBlankText "\u00a0" ∧
      ¬ bare.IsBracketed) ∧
    mvel.IgnoresPadding "order" resolve bare "\t" "\u00a0" := by
  intro resolve bare
  have htyped : bare.HasTypedOperand "order" resolve :=
    ⟨.monetary, by decide +kernel, Or.inr (Or.inr (Or.inl rfl))⟩
  have hfront : Text.IsBlankText "\t" := by decide +kernel
  have hback : Text.IsBlankText "\u00a0" := by decide +kernel
  have hbare : ¬ bare.IsBracketed := by
    rintro ⟨-, inner, hinner⟩
    have hfirst := congrArg (fun value => value.toList.head?) hinner
    simp [bare, Condition.within] at hfirst
  have hpadding :=
    padding_ignored_unless_bracketed mvel "order" resolve bare "\t" "\u00a0" htyped hfront hback
  exact ⟨⟨htyped, hfront, hback, hbare⟩, hpadding.1.mpr fun h => hbare h.1⟩

/-- Blanks around the brackets of a range make it no range. -/
theorem padding_breaks_brackets :
    let resolve := (Catalog.empty.insert "order" "itemCount" .numeric).resolver
    let bracketed := Condition.within "itemCount" false "[1,2]"
    (mvel.write "order" (.condition bracketed)).outcome resolve =
        .ok "order.itemCount>1&&order.itemCount<2" ∧
      (mvel.write "order" (.condition (bracketed.padded " " " "))).outcome resolve =
          .error (.malformed "itemCount" " [1,2] " .range) ∧
        ¬ mvel.IgnoresPadding "order" resolve bracketed " " " " := by
  intro resolve bracketed
  have hwritten : (mvel.write "order" (.condition bracketed)).outcome resolve =
      .ok "order.itemCount>1&&order.itemCount<2" := by
    decide +kernel
  have hrefused : (mvel.write "order" (.condition (bracketed.padded " " " "))).outcome resolve =
      .error (.malformed "itemCount" " [1,2] " .range) := by
    decide +kernel
  refine ⟨hwritten, hrefused, ?_⟩
  intro hignores
  have hpadded := (hignores _).mpr hwritten
  rw [hrefused] at hpadded
  cases hpadded

end Dialect

end RuleExpr
