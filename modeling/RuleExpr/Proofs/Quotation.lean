import RuleExpr.Catalog
import RuleExpr.Proofs.Comparison
import RuleExpr.Proofs.FirstRefusal
import RuleExpr.Proofs.Writing
/-!
Operands stay in their quotes. In an MVEL expression every literal is closed, there are only the
characters of an expression outside of literals, and the literals spell, in order, what the conditions
of the rule quote.
-/
namespace RuleExpr

open Token

namespace Condition

variable {entity : String} {resolve : Resolver} {c : Condition}

theorem quotes_denied {method : Method} {folded : Bool}
    (hoperator : c.operator = .method method true folded) :
    c.quotes entity resolve =
      quotes ⟨c.field, .method method false folded, c.value⟩ entity resolve := by
  rw [quotes]
  rw [hoperator]
  cases folded <;> rfl

/-- A range quotes what the comparisons with its bounds quote. -/
theorem quotes_range {inclusive : Bool} {low high : List Char} {type : FieldType}
    (hoperator : c.operator = .range inclusive)
    (hbounds : Literal.range? c.value.toList = some (low, high))
    (htype : resolve entity c.field = some type) (hpermits : c.operator.permits type = true) :
    c.quotes entity resolve =
      quotes ⟨c.field, .compare (.lower inclusive), String.ofList low⟩ entity resolve ++
        quotes ⟨c.field, .compare (.upper inclusive), String.ofList high⟩ entity resolve := by
  obtain ⟨hlow, hhigh⟩ := Literal.trimChars_of_range? hbounds
  unfold quotes
  rw [hoperator] at hpermits ⊢
  rw [htype, hbounds]
  cases type with
  | string | boolean | reference => cases hpermits
  | numeric | monetary => rfl
  | date => simp [FieldType.quotes, Text.trim, hlow, hhigh]

end Condition

/-- The text is made of closed literals that spell the quoted texts, and of expression characters. -/
def Quotes (text : String) (quotes : List String) : Prop :=
  ∃ tokens, Lexes text tokens ∧ Spells tokens quotes

namespace Quotes

variable {text later : String} {quotes laterQuotes : List String}

theorem append (h : Quotes text quotes) (hlater : Quotes later laterQuotes) :
    Quotes (text ++ later) (quotes ++ laterQuotes) := by
  obtain ⟨tokens, hlexes, hspells⟩ := h
  obtain ⟨laterTokens, hlaterLexes, hlaterSpells⟩ := hlater
  exact ⟨_, hlexes.append hlaterLexes, hspells.append hlaterSpells⟩

/-- Connectives and parentheses quote nothing. -/
theorem of_chars (hquote : text.toList.all (· != '"') = true)
    (hchars : text.toList.all isExpressionChar = true) : Quotes text [] :=
  ⟨_, Lexes.code hquote, Spells.code hchars⟩

theorem of_comparison (h : Comparison text quotes) : Quotes text quotes := by
  obtain ⟨tokens, hlexes, -, hspells⟩ := h.piece.exists_tokens
  exact ⟨tokens, hlexes, hspells⟩

/-- Whatever stands between the texts, they quote what each of them does. -/
theorem intercalate {α : Type} {quotesOf : α → List String} {separator : String}
    (hseparator : Quotes separator []) {items : List α} (hne : items ≠ []) {texts : List String}
    (h : List.Forall₂ (fun item text => Quotes text (quotesOf item)) items texts) :
    Quotes (separator.intercalate texts) (items.flatMap quotesOf) := by
  refine Text.intercalate_induction
    (motive := fun items text => Quotes text (items.flatMap quotesOf)) ?_ ?_ hne h
  · intro item text hitem
    simpa using hitem
  · intro item text items later hitem hitems
    have hfirst := hitem.append hseparator
    rw [List.append_nil] at hfirst
    rw [List.flatMap_cons]
    exact hfirst.append hitems

theorem parens (h : Quotes text quotes) : Quotes ("(" ++ text ++ ")") quotes := by
  obtain ⟨tokens, hlexes, hspells⟩ := h
  exact ⟨_, hlexes.parens, hspells.parens⟩

theorem deny (h : Quotes text quotes) : Quotes ("!" ++ text) quotes := by
  have hmark : Quotes "!" [] := of_chars (by decide) (by decide)
  exact hmark.append h

variable {entity : String} {resolve : Resolver}

theorem of_condition (hentity : Path.isPath entity = true) {c : Condition} {text : String}
    (h : ((Target.mk .mvel entity).condition c).outcome resolve = .ok text) :
    Quotes text (c.quotes entity resolve) := by
  rcases c.operator.isSingle_or with hsingle | ⟨method, folded, hdenied⟩ | ⟨inclusive, hrange⟩
  · exact of_comparison (Comparison.of_condition hentity hsingle h)
  · obtain ⟨positive, hpositive, rfl⟩ := (Target.outcome_condition_denied hdenied).mp h
    rw [Condition.quotes_denied hdenied]
    exact (of_comparison (Comparison.of_condition hentity rfl hpositive)).deny
  · obtain ⟨type, htype, hpermits, -⟩ := Target.outcome_condition_eq_ok_iff.mp h
    obtain ⟨-, hknown⟩ := Target.outcome_typeOf_eq_ok_iff.mp htype
    obtain ⟨low, high, lowText, highText, hbounds, hlow, hhigh, rfl⟩ :=
      (Target.outcome_condition_range hrange).mp h
    have hlowQuotes := of_comparison (Comparison.of_condition hentity rfl hlow)
    have hhighQuotes := of_comparison (Comparison.of_condition hentity rfl hhigh)
    have hand : Quotes "&&" [] := of_chars (by decide) (by decide)
    rw [Condition.quotes_range hrange hbounds hknown hpermits]
    simpa using (hlowQuotes.append hand).append hhighQuotes

/-- What members quote, the text that joins them quotes. -/
theorem joined {position : Position} {combinator : Combinator} {members : List Rule}
    (hne : members ≠ []) {quotesOf : Rule → List String} {texts : List String}
    (h : List.Forall₂ (fun member text => Quotes text (quotesOf member)) members texts) :
    Quotes (combinator.joined position texts) (members.flatMap quotesOf) := by
  apply Combinator.joined_of (motive := fun text => Quotes text (members.flatMap quotesOf))
  · exact intercalate (of_chars (by decide) (by decide)) hne h
  · exact intercalate (of_chars (by decide) (by decide)) hne h
  · intro text h
    exact h.parens
  · intro text h
    exact h.deny

/-- A rule quotes what its conditions quote, in order, in whatever position it is written. -/
theorem of_rule (hentity : Path.isPath entity = true) {position : Position} {rule : Rule}
    {text : String}
    (h : ((Target.mk .mvel entity).rule position rule).outcome resolve = .ok text) :
    Quotes text (rule.conditions.flatMap fun c => c.quotes entity resolve) := by
  refine Target.written_induction _
    (motive := fun _ rule text =>
      Quotes text (rule.conditions.flatMap fun c => c.quotes entity resolve))
    ?condition ?passed ?denied ?joined h
  case condition =>
      intro position c text hwritten
      rw [Rule.conditions_condition, List.flatMap_singleton]
      exact of_condition hentity hwritten
  case passed =>
      intro position quantity only text honly
      rw [Rule.conditions_group (by simp), List.flatMap_singleton]
      exact honly
  case denied =>
      intro position quantity only text honly
      rw [Rule.conditions_group (by simp), List.flatMap_singleton]
      exact honly.parens.deny
  case joined =>
      intro position combinator quantity members texts hjoins hmembers
      rw [Rule.conditions_group hjoins.1, List.flatMap_assoc]
      exact joined hjoins.1 hmembers

end Quotes

namespace Dialect

/-- No operand gets out of its quotes. In an MVEL expression every literal is closed, all characters
outside of literals are expression characters, and the literals spell what the conditions quote. -/
theorem operands_stay_quoted {entity : String} {resolve : Resolver} {rule : Rule} {text : String}
    (h : (Dialect.mvel.write entity rule).outcome resolve = .ok text) :
    ∃ tokens, Token.lex text = some tokens ∧ tokens.flatMap Token.chars = text.toList ∧
      (∀ c, .code c ∈ tokens → isExpressionChar c = true) ∧
        (Token.literals tokens).map Token.decode? =
          (rule.conditions.flatMap fun c => c.quotes entity resolve).map
            fun quote => some quote.toList := by
  obtain ⟨hentity, hwritten⟩ := outcome_write_eq_ok_iff.mp h
  obtain ⟨tokens, hlexes, hspells⟩ := Quotes.of_rule hentity hwritten
  exact ⟨tokens, hlexes.lex_eq, hlexes.flatMap_chars, hspells.chars, hspells.decode?_literals⟩

/-- A name that tries to close its literal, and a range of dates inside of a denial. -/
theorem breakout_stays_quoted :
    let catalog := (Catalog.empty.insert "order" "name" .string).insert "order" "paid" .date
    let rule := Rule.group .or none [
      .condition ⟨"name", .method .contains true true, "a\") || (\\"⟩,
      .group .not none [.condition ⟨"paid", .range true, "[2024-01-31, 2024-02-29 ]"⟩]]
    let text := "!MVEL.eval(\"toUpperCase()\",order.name).contains(MVEL.eval(\"toUpperCase()\"," ++
      "\"a\\\") || (\\\\\"))||!(order.paid>=MvelHelper.convertField(\"DATE\",\"2024-01-31\")" ++
      "&&order.paid<=MvelHelper.convertField(\"DATE\",\"2024-02-29\"))"
    (mvel.write "order" rule).outcome catalog.resolver = .ok text ∧
      ∃ tokens, Token.lex text = some tokens ∧ tokens.flatMap Token.chars = text.toList ∧
        (∀ c, .code c ∈ tokens → isExpressionChar c = true) ∧
          (Token.literals tokens).map Token.decode? =
            ["toUpperCase()", "toUpperCase()", "a\") || (\\", "DATE", "2024-01-31", "DATE",
              "2024-02-29"].map fun quote => some quote.toList := by
  intro catalog rule text
  have hwritten : (mvel.write "order" rule).outcome catalog.resolver = .ok text := by
    decide +kernel
  have hquotes : (rule.conditions.flatMap fun c => c.quotes "order" catalog.resolver) =
      ["toUpperCase()", "toUpperCase()", "a\") || (\\", "DATE", "2024-01-31", "DATE",
        "2024-02-29"] := rfl
  rw [← hquotes]
  exact ⟨hwritten, operands_stay_quoted hwritten⟩

end Dialect

end RuleExpr
