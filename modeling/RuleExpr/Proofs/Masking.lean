import RuleExpr.Proofs.Lookups
import RuleExpr.Proofs.Quotation
/-!
Operands that carry no structure. The operand of a null check is passed over, and the operand of a
comparison with text is quoted, so neither has a part in what is refused, in what is asked, or in the
characters of an expression outside of its literals. A rule is compared with the rule in which these
operands are masked; rules with the same masked rule then agree with each other.
-/
namespace RuleExpr

/-- The token with nothing in it if it is a literal. -/
def Token.blanked : Token → Token
  | code c => code c
  | literal _ => literal []

/-- The text with nothing in its literals, if all of them are closed. -/
def Token.blank? (text : String) : Option String :=
  (lex text).map fun tokens => String.ofList ((tokens.map blanked).flatMap chars)

namespace Rule

mutual

/-- The rule with a change made to each of its conditions. -/
def mapConditions (f : Condition → Condition) : Rule → Rule
  | .condition c => .condition (f c)
  | .group combinator quantity members => .group combinator quantity (mapConditionsAll f members)

def mapConditionsAll (f : Condition → Condition) : List Rule → List Rule
  | [] => []
  | rule :: rules => rule.mapConditions f :: mapConditionsAll f rules

end

variable (f : Condition → Condition)

theorem mapConditionsAll_eq_map (rules : List Rule) :
    mapConditionsAll f rules = rules.map (mapConditions f) := by
  induction rules with
  | nil => rfl
  | cons rule rules ih => rw [mapConditionsAll, ih, List.map_cons]

theorem mapConditions_group (combinator : Combinator) (quantity : Option UInt32)
    (members : List Rule) :
    (group combinator quantity members).mapConditions f =
      .group combinator quantity (members.map (mapConditions f)) := by
  rw [mapConditions, mapConditionsAll_eq_map]

end Rule

/-- The item with a change made to it if it is a condition. -/
def Item.mapCondition (f : Condition → Condition) : Item → Item
  | .condition c => .condition (f c)
  | .childless combinator => .childless combinator

theorem Rule.items_mapConditions (f : Condition → Condition) (rule : Rule) :
    (rule.mapConditions f).items = rule.items.map (Item.mapCondition f) := by
  induction rule using Rule.induction with
  | condition c => rfl
  | group combinator quantity members ih =>
      by_cases hmembers : members = []
      · subst hmembers
        rfl
      · have hmapped : members.map (mapConditions f) ≠ [] := by simpa using hmembers
        rw [mapConditions_group, items_group hmapped, items_group hmembers, List.flatMap_map,
          List.map_flatMap]
        exact List.flatMap_congr ih

/-- A trail through changed items is the trail through the items if the change does not show. -/
theorem Item.trail_map {γ : Type} {refused : Item → Bool} {observe : Item → List γ}
    {f : Item → Item} (hrefused : ∀ item, refused (f item) = refused item)
    (hobserve : ∀ item, observe (f item) = observe item) (items : List Item) :
    trail refused observe (items.map f) = trail refused observe items := by
  induction items with
  | nil => rfl
  | cons item items ih => rw [List.map_cons, trail, trail, hrefused, hobserve, ih]

namespace Condition

/-- The operand of the condition has no say: the condition is a null check, or its field is a text and
its operator compares it with no other field. -/
def isInert (c : Condition) (entity : String) (resolve : Resolver) : Bool :=
  match c.operator with
  | .null _ => true
  | operator => resolve entity c.field = some .string && !operator.comparesFields

/-- The condition without its operand, if the operand has no say. -/
def masked (entity : String) (resolve : Resolver) (c : Condition) : Condition :=
  if c.isInert entity resolve then { c with value := "" } else c

variable {c : Condition} {entity : String} {resolve : Resolver} {type : FieldType}

theorem comparesFields_of_isInert (hinert : c.isInert entity resolve = true) :
    c.operator.comparesFields = false := by
  unfold isInert at hinert
  split at hinert
  · rename_i hnull
    rw [hnull]
    rfl
  · simp only [Bool.and_eq_true, Bool.not_eq_true'] at hinert
    exact hinert.2

/-- The operators of conditions whose operand has no say, where the type is permitted. -/
theorem operator_of_isInert (hinert : c.isInert entity resolve = true)
    (hknown : resolve entity c.field = some type) (hpermits : c.operator.permits type = true) :
    (∃ negated, c.operator = .null negated) ∨
      (∃ sign, c.operator = .compare sign ∧ type = .string) ∨
        (∃ negated, c.operator = .compareFolded negated) ∨
          ∃ method negated folded, c.operator = .method method negated folded := by
  have hfields := comparesFields_of_isInert hinert
  have htext (hnull : ∀ negated, c.operator ≠ .null negated) : type = .string := by
    unfold isInert at hinert
    split at hinert
    · exact absurd (by assumption) (hnull _)
    · simp only [Bool.and_eq_true, decide_eq_true_eq] at hinert
      exact Option.some.inj (hknown.symm.trans hinert.1)
  cases hoperator : c.operator with
  | null negated => exact Or.inl ⟨negated, rfl⟩
  | compare sign => exact Or.inr (Or.inl ⟨sign, rfl, htext (by simp [hoperator])⟩)
  | compareFolded negated => exact Or.inr (Or.inr (Or.inl ⟨negated, rfl⟩))
  | method method negated folded => exact Or.inr (Or.inr (Or.inr ⟨method, negated, folded, rfl⟩))
  | compareField sign =>
      rw [hoperator] at hfields
      cases hfields
  | range inclusive =>
      rw [hoperator, htext (by simp [hoperator])] at hpermits
      cases hpermits

theorem asked_masked : (c.masked entity resolve).asked entity resolve = c.asked entity resolve := by
  unfold masked
  split
  · rename_i hinert
    simp [asked, comparesFields_of_isInert hinert]
  · rfl

end Condition

/-- The rule without the operands that have no say. -/
def Rule.masked (entity : String) (resolve : Resolver) (rule : Rule) : Rule :=
  rule.mapConditions (Condition.masked entity resolve)

namespace Target

open Inquiry

variable {target : Target} {resolve : Resolver} {c : Condition} {type : FieldType}

/-- An operand that has no say is not refused. -/
theorem exists_comparison_of_isInert (hinert : c.isInert target.entity resolve = true)
    (hknown : resolve target.entity c.field = some type)
    (hpermits : c.operator.permits type = true) :
    ∃ text, (target.comparison c type).outcome resolve = .ok text := by
  rw [comparison]
  rcases Condition.operator_of_isInert hinert hknown hpermits with
    ⟨negated, hnull⟩ | ⟨sign, hcompare, rfl⟩ | ⟨negated, hfolded⟩ | ⟨method, negated, folded, hmethod⟩
  · rw [hnull]
    exact ⟨_, rfl⟩
  · rw [hcompare]
    exact ⟨_, rfl⟩
  · rw [hfolded]
    exact ⟨_, rfl⟩
  · rw [hmethod]
    exact ⟨_, rfl⟩

/-- Whether a condition is refused, and why, is settled by its field and its operator if the operand
has no say. -/
theorem outcome_condition_eq_error_iff_of_isInert
    (hinert : c.isInert target.entity resolve = true) {refusal : Refusal} :
    (target.condition c).outcome resolve = .error refusal ↔
      (target.typeOf c.field).outcome resolve = .error refusal ∨
        ∃ type, (target.typeOf c.field).outcome resolve = .ok type ∧
          c.operator.permits type = false ∧ refusal = .unsupported c.operator type c.field := by
  rw [outcome_condition_eq_error_iff]
  refine or_congr_right (exists_congr fun type => and_congr_right fun htype => ?_)
  apply or_iff_left
  rintro ⟨hpermits, hrefused⟩
  obtain ⟨-, hknown⟩ := outcome_typeOf_eq_ok_iff.mp htype
  obtain ⟨text, htext⟩ := exists_comparison_of_isInert hinert hknown hpermits
  rw [htext] at hrefused
  cases hrefused

theorem itemRefusal?_mapCondition_masked (item : Item) :
    target.itemRefusal? resolve (item.mapCondition (Condition.masked target.entity resolve)) =
      target.itemRefusal? resolve item := by
  cases item with
  | childless combinator => rfl
  | condition c =>
      rw [Item.mapCondition, Condition.masked]
      split
      · rename_i hinert
        have hmasked : ({ c with value := "" } : Condition).isInert target.entity resolve = true :=
          hinert
        apply Option.ext
        intro refusal
        rw [itemRefusal?, itemRefusal?, refusal?_eq_some_iff, refusal?_eq_some_iff,
          outcome_condition_eq_error_iff_of_isInert hinert,
          outcome_condition_eq_error_iff_of_isInert hmasked]
      · rfl

end Target

/-- What each item of one list has a partner for can be told of a list of partners. -/
theorem exists_forall₂_of_forall₂_exists {α β γ : Type} {first : α → γ → Prop}
    {second : β → γ → Prop} {as : List α} {bs : List β}
    (h : List.Forall₂ (fun a b => ∃ partner, first a partner ∧ second b partner) as bs) :
    ∃ partners, List.Forall₂ first as partners ∧ List.Forall₂ second bs partners := by
  induction h with
  | nil => exact ⟨[], .nil, .nil⟩
  | cons hhead htail ih =>
      obtain ⟨partner, hfirst, hsecond⟩ := hhead
      obtain ⟨partners, hfirsts, hseconds⟩ := ih
      exact ⟨partner :: partners, .cons hfirst hfirsts, .cons hsecond hseconds⟩

/-- Two texts that are the same but for what their literals say. -/
def SameCode (text other : String) : Prop :=
  ∃ tokens otherTokens, Token.Lexes text tokens ∧ Token.Lexes other otherTokens ∧
    tokens.map Token.blanked = otherTokens.map Token.blanked

namespace SameCode

variable {text other later laterOther : String} {quotes : List String}

theorem of_quotes (h : Quotes text quotes) : SameCode text text := by
  obtain ⟨tokens, hlexes, -⟩ := h
  exact ⟨tokens, tokens, hlexes, hlexes, rfl⟩

theorem of_piece (h : Piece text quotes) : SameCode text text := by
  obtain ⟨tokens, hlexes, -⟩ := h.exists_tokens
  exact ⟨tokens, tokens, hlexes, hlexes, rfl⟩

theorem append (h : SameCode text other) (hlater : SameCode later laterOther) :
    SameCode (text ++ later) (other ++ laterOther) := by
  obtain ⟨tokens, otherTokens, hlexes, hother, hblanked⟩ := h
  obtain ⟨tokens', otherTokens', hlexes', hother', hblanked'⟩ := hlater
  refine ⟨_, _, hlexes.append hlexes', hother.append hother', ?_⟩
  rw [List.map_append, List.map_append, hblanked, hblanked']

/-- Whatever two operands are, their literals are the same once they are blanked. -/
theorem quoted (value otherValue : String) :
    SameCode (Text.quoted value) (Text.quoted otherValue) :=
  ⟨_, _, .quoted value, .quoted otherValue, rfl⟩

theorem parens (h : SameCode text other) : SameCode ("(" ++ text ++ ")") ("(" ++ other ++ ")") := by
  obtain ⟨tokens, otherTokens, hlexes, hother, hblanked⟩ := h
  refine ⟨_, _, hlexes.parens, hother.parens, ?_⟩
  rw [List.map_cons, List.map_cons, List.map_append, List.map_append, hblanked]

theorem symm (h : SameCode text other) : SameCode other text := by
  obtain ⟨tokens, otherTokens, hlexes, hother, hblanked⟩ := h
  exact ⟨otherTokens, tokens, hother, hlexes, hblanked.symm⟩

theorem trans (h : SameCode text other) (hlater : SameCode other later) : SameCode text later := by
  obtain ⟨tokens, otherTokens, hlexes, hother, hblanked⟩ := h
  obtain ⟨otherTokens', laterTokens, hother', hlater, hblanked'⟩ := hlater
  obtain rfl : otherTokens = otherTokens' := Option.some.inj (hother.lex_eq.symm.trans hother'.lex_eq)
  exact ⟨tokens, laterTokens, hlexes, hlater, hblanked.trans hblanked'⟩

/-- A text of fixed characters. -/
theorem word (hword : text.toList.all isWordChar = true) : SameCode text text :=
  of_piece (.word hword)

theorem fold (h : SameCode text other) :
    SameCode (Dialect.mvel.fold text) (Dialect.mvel.fold other) := by
  have hflat (operand : String) : Dialect.mvel.fold operand =
      "MVEL.eval" ++ ("(" ++ (Text.quoted "toUpperCase()" ++ "," ++ operand) ++ ")") := by
    have hfill : Dialect.mvel.fold operand =
      "MVEL.eval" ++ "(" ++ Text.quoted "toUpperCase()" ++ "," ++ operand ++ ")" := rfl
    simpa only [String.append_assoc] using hfill
  have hname : SameCode "MVEL.eval" "MVEL.eval" := word (by decide)
  have hcomma : SameCode "," "," := word (by decide)
  rw [hflat, hflat]
  exact hname.append (((quoted _ _).append hcomma).append h).parens

/-- Texts that are joined in the same way are the same as the texts are. -/
theorem intercalate {separator : String} (hseparator : SameCode separator separator)
    {texts others : List String} (h : List.Forall₂ SameCode texts others) :
    SameCode (separator.intercalate texts) (separator.intercalate others) := by
  have hstep (text next : String) (rest : List String) : separator.intercalate (text :: next :: rest) =
      text ++ separator ++ separator.intercalate (next :: rest) :=
    String.intercalate_cons_of_ne_nil (by simp)
  induction h with
  | nil => exact @word "" (by decide)
  | @cons text other texts others htext htexts ih =>
      cases htexts with
      | nil => simpa using htext
      | cons hsecond hrest =>
          rw [hstep, hstep]
          exact (htext.append hseparator).append ih

theorem joined {position : Position} {combinator : Combinator} {texts others : List String}
    (h : List.Forall₂ SameCode texts others) :
    SameCode (combinator.joined position texts) (combinator.joined position others) := by
  have hand : SameCode "&&" "&&" := of_quotes (.of_chars (by decide) (by decide))
  have hor : SameCode "||" "||" := of_quotes (.of_chars (by decide) (by decide))
  have hmark : SameCode "!" "!" := word (by decide)
  cases combinator with
  | and | none => exact intercalate hand h
  | or =>
      cases position with
      | standalone => exact intercalate hor h
      | operand => exact (intercalate hor h).parens
  | not => exact hmark.append (intercalate hand h).parens

theorem blank?_eq (h : SameCode text other) :
    ∃ blank, Token.blank? text = some blank ∧ Token.blank? other = some blank := by
  obtain ⟨tokens, otherTokens, hlexes, hother, hblanked⟩ := h
  refine ⟨String.ofList ((tokens.map Token.blanked).flatMap Token.chars), ?_, ?_⟩
  · rw [Token.blank?, hlexes.lex_eq, Option.map_some]
  · rw [Token.blank?, hother.lex_eq, Option.map_some, hblanked]

variable {entity : String} {resolve : Resolver} {c : Condition} {type : FieldType}

theorem call (hentity : Path.isPath entity = true) (hfield : Path.isPath c.field = true)
    (value : String) (method : Method) (negated folded : Bool) :
    SameCode ((Target.mk .mvel entity).call c type method negated folded)
      ((Target.mk .mvel entity).call { c with value } type method negated folded) := by
  have hmark : SameCode (if negated then "!" else "") (if negated then "!" else "") := by
    cases negated <;> exact word (by decide)
  have hdot : SameCode "." "." := word (by decide)
  have hmethod : SameCode method.text method.text := by
    cases method <;> exact word (by decide)
  have hcomparison : Comparison ((Target.mk .mvel entity).access c.field type) [] :=
    .access hentity hfield
  have haccess := of_piece hcomparison.piece
  have hflat (value : String) : (Target.mk .mvel entity).call { c with value } type method negated
      folded = (if negated then "!" else "") ++
        (if folded then Dialect.mvel.fold ((Target.mk .mvel entity).access c.field type)
          else (Target.mk .mvel entity).access c.field type) ++ "." ++ method.text ++
            ("(" ++ (if folded then Dialect.mvel.fold (Text.quoted value)
              else Text.quoted value) ++ ")") := by
    simp [Target.call, String.append_assoc]
  rw [hflat value]
  rw [show c = { c with value := c.value } from rfl, hflat c.value]
  refine (((hmark.append ?_).append hdot).append hmethod).append (parens ?_)
  · split
    · exact haccess.fold
    · exact haccess
  · split
    · exact (quoted _ _).fold
    · exact quoted _ _

/-- Two operands that have no say are written with the same code around them. -/
theorem comparison (hentity : Path.isPath entity = true) (hfield : Path.isPath c.field = true)
    (hinert : c.isInert entity resolve = true) (hknown : resolve entity c.field = some type)
    (hpermits : c.operator.permits type = true) (value : String) :
    ∃ text other, ((Target.mk .mvel entity).comparison c type).outcome resolve = .ok text ∧
      ((Target.mk .mvel entity).comparison { c with value } type).outcome resolve = .ok other ∧
        SameCode text other := by
  have hpath := of_piece (Comparison.path hentity hfield).piece
  have hcomparison : Comparison ((Target.mk .mvel entity).access c.field type) [] :=
    .access hentity hfield
  have haccess := of_piece hcomparison.piece
  have hsign (sign : Sign) : SameCode sign.text sign.text := of_piece (.sign sign)
  have hnullLiteral : SameCode Dialect.mvel.nullLiteral Dialect.mvel.nullLiteral :=
    word (by decide)
  rw [Target.comparison, Target.comparison]
  rcases Condition.operator_of_isInert hinert hknown hpermits with
    ⟨negated, hnull⟩ | ⟨sign, hcompare, rfl⟩ | ⟨negated, hfolded⟩ | ⟨method, negated, folded, hmethod⟩
  · rw [hnull]
    exact ⟨_, _, rfl, rfl, (hpath.append (hsign _)).append hnullLiteral⟩
  · rw [hcompare]
    exact ⟨_, _, rfl, rfl, (haccess.append (hsign sign)).append (quoted _ _)⟩
  · rw [hfolded]
    exact ⟨_, _, rfl, rfl, (haccess.fold.append (hsign _)).append (quoted _ _).fold⟩
  · rw [hmethod]
    exact ⟨_, _, rfl, rfl, call hentity hfield value method negated folded⟩

theorem condition_masked (hentity : Path.isPath entity = true) {text : String}
    (h : ((Target.mk .mvel entity).condition c).outcome resolve = .ok text) :
    ∃ other, ((Target.mk .mvel entity).condition (c.masked entity resolve)).outcome resolve =
      .ok other ∧ SameCode text other := by
  rw [Condition.masked]
  split
  · rename_i hinert
    obtain ⟨type, htype, hpermits, htext⟩ := Target.outcome_condition_eq_ok_iff.mp h
    obtain ⟨hfield, hknown⟩ := Target.outcome_typeOf_eq_ok_iff.mp htype
    obtain ⟨written, other, hwritten, hother, hsame⟩ :=
      comparison hentity hfield hinert hknown hpermits ""
    obtain rfl : written = text := Except.ok.inj (hwritten.symm.trans htext)
    exact ⟨other, Target.outcome_condition_eq_ok_iff.mpr ⟨type, htype, hpermits, hother⟩, hsame⟩
  · exact ⟨text, h, of_quotes (.of_condition hentity h)⟩

/-- In every position, a rule and the masked rule are written with the same code. -/
theorem rule_masked (hentity : Path.isPath entity = true) {position : Position} {rule : Rule}
    {text : String}
    (h : ((Target.mk .mvel entity).rule position rule).outcome resolve = .ok text) :
    ∃ other, ((Target.mk .mvel entity).rule position (rule.masked entity resolve)).outcome resolve =
      .ok other ∧ SameCode text other := by
  refine Target.written_induction _
    (motive := fun position rule text => ∃ other,
      ((Target.mk .mvel entity).rule position (rule.masked entity resolve)).outcome resolve =
        .ok other ∧ SameCode text other)
    ?condition ?passed ?denied ?joined h
  case condition =>
      intro position c text hwritten
      exact condition_masked hentity hwritten
  case passed =>
      intro position quantity only text honly
      exact honly
  case denied =>
      rintro position quantity only text ⟨other, hother, hsame⟩
      have hmark : SameCode "!" "!" := word (by decide)
      exact ⟨_, Inquiry.outcome_bind_eq_ok_iff.mpr ⟨other, hother, rfl⟩, hmark.append hsame.parens⟩
  case joined =>
      intro position combinator quantity members texts hjoins hmembers
      obtain ⟨others, hothers, hsame⟩ := exists_forall₂_of_forall₂_exists hmembers
      have hjoinsMasked : combinator.Joins (members.map (Rule.masked entity resolve)) := by
        simpa [Combinator.Joins] using hjoins
      refine ⟨_, ?_, joined hsame⟩
      rw [Rule.masked, Rule.mapConditions_group]
      refine (Target.outcome_rule_of_joins_eq_ok_iff _ hjoinsMasked).mpr ⟨others, ?_, rfl⟩
      exact List.forall₂_map_left_iff.mpr hothers

end SameCode

namespace Dialect

open Template (placeholder)

variable {dialect : Dialect} {entity : String} {resolve : Resolver}

/-- Masking changes neither what is refused nor what is asked. -/
theorem refusal?_write_masked (rule : Rule) :
    (dialect.write entity (rule.masked entity resolve)).refusal? resolve =
      (dialect.write entity rule).refusal? resolve := by
  rw [Inquiry.refusal?, Inquiry.refusal?]
  by_cases hentity : Path.isPath entity = true
  · rw [outcome_write_of_isPath hentity, outcome_write_of_isPath hentity]
    change Inquiry.refusal? resolve _ = Inquiry.refusal? resolve _
    rw [Target.refusal?_rule, Target.refusal?_rule, Rule.masked, Rule.items_mapConditions,
      List.findSome?_map]
    congr 1
    funext item
    exact Target.itemRefusal?_mapCondition_masked item
  · have hrefused : Path.isPath entity = false := by simpa using hentity
    rw [outcome_write_of_not_isPath hrefused, outcome_write_of_not_isPath hrefused]

theorem lookups_write_masked (rule : Rule) :
    (dialect.write entity (rule.masked entity resolve)).lookups resolve =
      (dialect.write entity rule).lookups resolve := by
  rw [lookups_write, lookups_write, Rule.masked, Rule.items_mapConditions]
  by_cases hentity : Path.isPath entity = true
  · rw [if_pos hentity, if_pos hentity]
    apply Item.trail_map
    · intro item
      rw [itemRefusal?_eq hentity, Target.itemRefusal?_mapCondition_masked]
    · intro item
      cases item with
      | condition c => exact Condition.asked_masked
      | childless combinator => rfl
  · rw [if_neg hentity, if_neg hentity]

theorem sameCode_write_masked {rule : Rule} {text : String}
    (h : (Dialect.mvel.write entity rule).outcome resolve = .ok text) :
    ∃ masked, (Dialect.mvel.write entity (rule.masked entity resolve)).outcome resolve =
      .ok masked ∧ SameCode text masked := by
  obtain ⟨hentity, hwritten⟩ := outcome_write_eq_ok_iff.mp h
  obtain ⟨masked, hmasked, hsame⟩ := SameCode.rule_masked hentity hwritten
  exact ⟨masked, outcome_write_eq_ok_iff.mpr ⟨hentity, hmasked⟩, hsame⟩

/-- Operands that have no say cannot make a difference to the structure. If two rules are the same
without these operands, then they are refused for the same cause or not at all, they ask the same
questions, and in MVEL their expressions are the same once what their literals say is left out. -/
theorem operands_without_say (dialect : Dialect) (entity : String) (resolve : Resolver)
    (rule other : Rule) (hmasked : rule.masked entity resolve = other.masked entity resolve) :
    (dialect.write entity rule).refusal? resolve = (dialect.write entity other).refusal? resolve ∧
      (dialect.write entity rule).lookups resolve = (dialect.write entity other).lookups resolve ∧
        ∀ text otherText, (Dialect.mvel.write entity rule).outcome resolve = .ok text →
          (Dialect.mvel.write entity other).outcome resolve = .ok otherText →
            ∃ blank, Token.blank? text = some blank ∧ Token.blank? otherText = some blank := by
  refine ⟨?_, ?_, ?_⟩
  · rw [← refusal?_write_masked rule, hmasked, refusal?_write_masked]
  · rw [← lookups_write_masked rule, hmasked, lookups_write_masked]
  · intro text otherText htext hother
    obtain ⟨masked, hwritten, hsame⟩ := sameCode_write_masked htext
    obtain ⟨otherMasked, hotherWritten, hotherSame⟩ := sameCode_write_masked hother
    rw [hmasked] at hwritten
    obtain rfl : masked = otherMasked := Except.ok.inj (hwritten.symm.trans hotherWritten)
    exact (hsame.trans hotherSame.symm).blank?_eq

/-- Operands that try to end their literals and to fill a template once more. -/
theorem breakout_without_say :
    let resolve := ((Catalog.empty.insert "order" "name" .string).insert "order" "due" .date).resolver
    let rule := Rule.group .or none [.condition ⟨"name", .compareFolded true, "a"⟩,
      .group .not none [.condition ⟨"due", .null true, ""⟩]]
    let other := Rule.group .or none [
      .condition ⟨"name", .compareFolded true, s!"\"||{placeholder}\\"⟩,
      .group .not none [.condition ⟨"due", .null true, "\")&&("⟩]]
    rule.masked "order" resolve = other.masked "order" resolve ∧
      (mvel.write "order" rule).refusal? resolve = (mvel.write "order" other).refusal? resolve ∧
        (mvel.write "order" rule).lookups resolve = (mvel.write "order" other).lookups resolve ∧
          ∃ text otherText blank, (mvel.write "order" rule).outcome resolve = .ok text ∧
            (mvel.write "order" other).outcome resolve = .ok otherText ∧ text ≠ otherText ∧
              Token.blank? text = some blank ∧ Token.blank? otherText = some blank := by
  intro resolve rule other
  have hmasked : rule.masked "order" resolve = other.masked "order" resolve := by decide +kernel
  obtain ⟨hrefusal, hlookups, hblank⟩ := operands_without_say mvel "order" resolve rule other hmasked
  have htext : (mvel.write "order" rule).outcome resolve =
      .ok ("MVEL.eval(\"toUpperCase()\",order.name)!=MVEL.eval(\"toUpperCase()\",\"a\")" ++
        "||!(order.due!=null)") := by
    decide +kernel
  have hother : (mvel.write "order" other).outcome resolve =
      .ok ("MVEL.eval(\"toUpperCase()\",order.name)!=MVEL.eval(\"toUpperCase()\"," ++
        s!"\"\\\"||{placeholder}\\\\\")||!(order.due!=null)") := by
    decide +kernel
  obtain ⟨blank, hblankText, hblankOther⟩ := hblank _ _ htext hother
  exact ⟨hmasked, hrefusal, hlookups, _, _, blank, htext, hother, by decide +kernel, hblankText,
    hblankOther⟩

end Dialect

end RuleExpr
