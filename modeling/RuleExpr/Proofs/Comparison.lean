import RuleExpr.Proofs.Characters
import RuleExpr.Proofs.Nesting
import RuleExpr.Proofs.Outcome
/-!
The texts of single comparisons in MVEL. A grammar of pieces says what such a text is put together
from, and which texts are quoted in it, in order. Every condition is written as an atom of that grammar,
as a denied atom, or as the two comparisons of its range.
-/
namespace RuleExpr

/-- The characters of an expression that need nothing around them to match, and are part of no
connective. -/
def isWordChar (c : Char) : Bool :=
  c.isAlphanum || ['_', '.', ',', '!', '=', '<', '>', '-'].contains c

/-- The characters that an expression has outside of quotes. -/
def isExpressionChar (c : Char) : Bool :=
  isWordChar c || ['(', ')', '&', '|'].contains c

/-- The tokens have only the characters of an expression outside of literals, and the literals spell the
quoted texts. -/
structure Token.Spells (tokens : List Token) (quotes : List String) : Prop where
  chars : ∀ c, .code c ∈ tokens → isExpressionChar c = true
  decode?_literals :
    (Token.literals tokens).map Token.decode? = quotes.map fun quote => some quote.toList

namespace Token.Spells

variable {tokens later : List Token} {quotes laterQuotes : List String}

theorem append (h : Spells tokens quotes) (hlater : Spells later laterQuotes) :
    Spells (tokens ++ later) (quotes ++ laterQuotes) where
  chars c hc := (List.mem_append.mp hc).elim (h.chars c) (hlater.chars c)
  decode?_literals := by
    have hliterals : literals (tokens ++ later) = literals tokens ++ literals later :=
      List.filterMap_append
    rw [hliterals, List.map_append, h.decode?_literals, hlater.decode?_literals, List.map_append]

/-- What stands outside of literals quotes nothing. -/
theorem code {cs : List Char} (hcs : cs.all isExpressionChar = true) :
    Spells (cs.map .code) [] where
  chars c hc := by
    obtain ⟨_, hmem, heq⟩ := List.mem_map.mp hc
    cases heq
    exact List.all_eq_true.mp hcs c hmem
  decode?_literals := by
    simp [literals, List.filterMap_map]

theorem parens (h : Spells tokens quotes) :
    Spells (.code '(' :: (tokens ++ [.code ')'])) quotes := by
  have hopen : Spells [.code '('] [] := @code ['('] (by decide)
  have hclose : Spells [.code ')'] [] := @code [')'] (by decide)
  simpa using (hopen.append h).append hclose

theorem quoted (text : String) :
    Spells [.literal (text.toList.flatMap Text.quotedChar)] [text] where
  chars := by simp
  decode?_literals := by
    simp [literals, (writtenAs_quoted text.toList).decode?_eq]

end Token.Spells

/-- A text that a comparison is put together from, with the texts that are quoted in it. -/
inductive Piece : String → List String → Prop where
  | word {text : String} (hword : text.toList.all isWordChar = true) : Piece text []
  | quoted (text : String) : Piece (Text.quoted text) [text]
  | append {text later : String} {quotes laterQuotes : List String} (first : Piece text quotes)
      (second : Piece later laterQuotes) : Piece (text ++ later) (quotes ++ laterQuotes)
  | parens {text : String} {quotes : List String} (inner : Piece text quotes) :
      Piece ("(" ++ text ++ ")") quotes

namespace Piece

open Token

theorem isWordChar_ne {c : Char} (h : isWordChar c = true) :
    c ≠ '"' ∧ c ≠ '(' ∧ c ≠ ')' ∧ c ≠ '&' ∧ c ≠ '|' := by
  refine ⟨?_, ?_, ?_, ?_, ?_⟩ <;> (rintro rfl; exact absurd h (by decide))

theorem spans_word {cs : List Char} (hword : cs.all isWordChar = true) :
    Spans [.and, .or] 0 (cs.map .code) 0 := by
  induction cs with
  | nil => exact .nil
  | cons c cs ih =>
      rw [List.all_cons, Bool.and_eq_true] at hword
      obtain ⟨hfirst, hlater⟩ := hword
      obtain ⟨-, hopen, hclose, hand, hor⟩ := isWordChar_ne hfirst
      exact .code hopen hclose (by simp [Connective.mark, hand, hor]) (ih hlater)

/-- A piece has tokens of which the parentheses match, and they spell what the piece quotes. -/
theorem exists_tokens {text : String} {quotes : List String} (h : Piece text quotes) :
    ∃ tokens, Lexes text tokens ∧ Spans [.and, .or] 0 tokens 0 ∧ Spells tokens quotes := by
  induction h with
  | @word text hword =>
      have hquote : text.toList.all (· != '"') = true := by
        rw [List.all_eq_true] at hword ⊢
        intro c hc
        obtain ⟨hc, -⟩ := isWordChar_ne (hword c hc)
        simpa using hc
      have hchars : text.toList.all isExpressionChar = true := by
        rw [List.all_eq_true] at hword ⊢
        intro c hc
        rw [isExpressionChar, hword c hc, Bool.true_or]
      exact ⟨_, Lexes.code hquote, spans_word hword, Spells.code hchars⟩
  | quoted text => exact ⟨_, Lexes.quoted text, .literal .nil, Spells.quoted text⟩
  | append first second ihFirst ihSecond =>
      obtain ⟨tokens, hlexes, hspans, hspells⟩ := ihFirst
      obtain ⟨laterTokens, hlaterLexes, hlaterSpans, hlaterSpells⟩ := ihSecond
      exact ⟨_, hlexes.append hlaterLexes, hspans.append hlaterSpans,
        hspells.append hlaterSpells⟩
  | @parens text quotes inner ih =>
      obtain ⟨tokens, hlexes, hspans, hspells⟩ := ih
      exact ⟨_, hlexes.parens, hspans.parens _, hspells.parens⟩

theorem word_of_path {field : String} (hfield : Path.isPath field = true) : Piece field [] := by
  apply word
  rw [List.all_eq_true]
  intro c hc
  rcases Path.mem_of_isPath hfield hc with halphanum | rfl | rfl
  · rw [isWordChar, halphanum, Bool.true_or]
  · decide
  · decide

theorem word_of_number {text : String} (htext : Literal.isNumber text.toList = true) :
    Piece text [] := by
  apply word
  rw [List.all_eq_true]
  intro c hc
  rcases Literal.mem_of_isNumber htext hc with hdigit | rfl | rfl
  · rw [isWordChar, Char.isAlphanum, hdigit, Bool.or_true, Bool.true_or]
  · decide
  · decide

theorem date (text : String) : Piece (Dialect.mvel.date (Text.quoted text)) ["DATE", text] := by
  have hname : Piece "MvelHelper.convertField" [] := .word (by decide)
  have hcomma : Piece "," [] := .word (by decide)
  -- The template is flat; a piece has to have its parentheses around one text.
  have hdate : Dialect.mvel.date (Text.quoted text) = "MvelHelper.convertField" ++
      ("(" ++ (Text.quoted "DATE" ++ ("," ++ Text.quoted text)) ++ ")") := by
    have hflat : Dialect.mvel.date (Text.quoted text) = "MvelHelper.convertField" ++ "(" ++
      Text.quoted "DATE" ++ "," ++ Text.quoted text ++ ")" := rfl
    simpa only [String.append_assoc] using hflat
  rw [hdate]
  exact hname.append (.parens ((Piece.quoted _).append (hcomma.append (.quoted text))))

theorem sign (sign : Sign) : Piece sign.text [] := by
  cases sign <;> exact .word (by decide)

end Piece

/-- What a literal of the type quotes: a text as it is, and a date after the word for dates. -/
def FieldType.quotes : FieldType → String → List String
  | .string, operand => [operand]
  | .date, operand => ["DATE", Text.trim operand]
  | .boolean, _ | .numeric, _ | .monetary, _ | .reference, _ => []

/-- What the condition quotes in MVEL, in order. -/
def Condition.quotes (c : Condition) (entity : String) (resolve : Resolver) : List String :=
  match c.operator, resolve entity c.field with
  | .compare _, some type => type.quotes c.value
  | .compareFolded _, _ => ["toUpperCase()", "toUpperCase()", c.value]
  | .method _ _ true, _ => ["toUpperCase()", "toUpperCase()", c.value]
  | .method _ _ false, _ => [c.value]
  | .range _, some .date =>
      match Literal.range? c.value.toList with
      | some (low, high) => ["DATE", String.ofList low, "DATE", String.ofList high]
      | none => []
  | _, _ => []

/-- A comparison that can be an atom of an expression: a piece that starts as a name does. -/
structure Comparison (text : String) (quotes : List String) : Prop where
  piece : Piece text quotes
  starts : ∃ c cs, text.toList = c :: cs ∧ Path.isIdentifierStart c = true

namespace Comparison

variable {entity : String} {resolve : Resolver} {c : Condition} {type : FieldType}
  {text later : String} {quotes laterQuotes : List String}

theorem append (h : Comparison text quotes) (hlater : Piece later laterQuotes) :
    Comparison (text ++ later) (quotes ++ laterQuotes) where
  piece := h.piece.append hlater
  starts := by
    obtain ⟨c, cs, hfirst, hstart⟩ := h.starts
    exact ⟨c, cs ++ later.toList, by rw [String.toList_append, hfirst]; rfl, hstart⟩

theorem of_isPath (hpath : Path.isPath text = true) : Comparison text [] where
  piece := .word_of_path hpath
  starts := Path.exists_start_of_isPath hpath

theorem path (hentity : Path.isPath entity = true) {field : String}
    (hfield : Path.isPath field = true) :
    Comparison ((Target.mk .mvel entity).path field) [] :=
  ((of_isPath hentity).append (.word (by decide))).append (.word_of_path hfield)

theorem access (hentity : Path.isPath entity = true) {field : String}
    (hfield : Path.isPath field = true) :
    Comparison ((Target.mk .mvel entity).access field type) [] := by
  have hname : Piece ".getAmount" [] := .word (by decide)
  have hempty : Piece "" [] := .word (by simp)
  rw [Target.access]
  split
  · exact (path hentity hfield).append (hname.append (.parens hempty))
  · exact path hentity hfield

/-- Folding quotes the name of the folding method before anything else. -/
theorem fold {operand : String} (h : Piece operand quotes) :
    Comparison (Dialect.mvel.fold operand) ("toUpperCase()" :: quotes) := by
  have hname : Comparison "MVEL.eval" [] := ⟨.word (by decide), 'M', _, rfl, by decide⟩
  have hcomma : Piece "," [] := .word (by decide)
  have hfold : Dialect.mvel.fold operand = "MVEL.eval" ++
      ("(" ++ (Text.quoted "toUpperCase()" ++ ("," ++ operand)) ++ ")") := by
    have hflat : Dialect.mvel.fold operand = "MVEL.eval" ++ "(" ++
      Text.quoted "toUpperCase()" ++ "," ++ operand ++ ")" := rfl
    simpa only [String.append_assoc] using hflat
  rw [hfold]
  exact hname.append (.parens ((Piece.quoted _).append (hcomma.append h)))

end Comparison

/-- A literal is a piece that quotes what its type says. -/
theorem Piece.literal {entity : String} {c : Condition} {type : FieldType}
    {operand text : String}
    (h : (Target.mk .mvel entity).literal c type operand = .ok text) :
    Piece text (type.quotes operand) := by
  rw [Target.literal_eq_ok_iff] at h
  cases type with
  | string =>
      obtain rfl := h
      exact .quoted operand
  | boolean =>
      obtain ⟨value, -, rfl⟩ := h
      cases value <;> exact .word (by decide)
  | numeric | monetary =>
      obtain ⟨hnumber, rfl⟩ := h
      exact word_of_number hnumber
  | date =>
      obtain ⟨-, rfl⟩ := h
      exact Piece.date _
  | reference => exact absurd h not_false

/-- The operator is written as one comparison, which is not denied. -/
def Operator.isSingle : Operator → Bool
  | .method _ true _ | .range _ => false
  | .compare _ | .compareFolded _ | .method _ false _ | .null _ | .compareField _ => true

/-- Every other operator is a denied method or a range. -/
theorem Operator.isSingle_or (operator : Operator) :
    operator.isSingle = true ∨ (∃ method folded, operator = .method method true folded) ∨
      ∃ inclusive, operator = .range inclusive := by
  cases operator with
  | method method negated folded =>
      cases negated with
      | false => exact Or.inl rfl
      | true => exact Or.inr (Or.inl ⟨method, folded, rfl⟩)
  | range inclusive => exact Or.inr (Or.inr ⟨inclusive, rfl⟩)
  | compare | compareFolded | null | compareField => exact Or.inl rfl

namespace Comparison

variable {entity : String} {resolve : Resolver} {c : Condition} {type : FieldType} {text : String}

theorem compareFolded (hentity : Path.isPath entity = true) (hfield : Path.isPath c.field = true)
    (negated : Bool) : Comparison ((Target.mk .mvel entity).compareFolded c type negated)
      ["toUpperCase()", "toUpperCase()", c.value] :=
  ((fold (access hentity hfield).piece).append (Piece.sign _)).append
    (fold (Piece.quoted c.value)).piece

theorem call (hentity : Path.isPath entity = true) (hfield : Path.isPath c.field = true)
    (method : Method) (folded : Bool) :
    Comparison ((Target.mk .mvel entity).call c type method false folded)
      (if folded then ["toUpperCase()", "toUpperCase()", c.value] else [c.value]) := by
  have hdot : Piece "." [] := .word (by decide)
  have hmethod : Piece method.text [] := by cases method <;> exact .word (by decide)
  have hcall : (Target.mk .mvel entity).call c type method false folded =
      (if folded then Dialect.mvel.fold ((Target.mk .mvel entity).access c.field type)
        else (Target.mk .mvel entity).access c.field type) ++ ("." ++ (method.text ++
          ("(" ++ (if folded then Dialect.mvel.fold (Text.quoted c.value)
            else Text.quoted c.value) ++ ")"))) := by
    simp [Target.call, String.append_assoc]
  rw [hcall]
  cases folded with
  | false =>
      exact (access hentity hfield).append (hdot.append (hmethod.append (.parens (.quoted _))))
  | true =>
      exact (fold (access hentity hfield).piece).append
        (hdot.append (hmethod.append (.parens (fold (.quoted _)).piece)))

/-- A condition with such an operator is written as a comparison that quotes what it should. -/
theorem of_condition (hentity : Path.isPath entity = true) (hsingle : c.operator.isSingle = true)
    (h : ((Target.mk .mvel entity).condition c).outcome resolve = .ok text) :
    Comparison text (c.quotes entity resolve) := by
  obtain ⟨type, htype, hpermits, htext⟩ := Target.outcome_condition_eq_ok_iff.mp h
  obtain ⟨hfield, hknown⟩ := Target.outcome_typeOf_eq_ok_iff.mp htype
  rw [Target.comparison] at htext
  rw [Condition.quotes]
  cases hoperator : c.operator with
  | compare sign =>
      simp only [hoperator, Inquiry.outcome_ofExcept] at htext
      obtain ⟨right, hright, rfl⟩ := Target.compare_eq_ok_iff.mp htext
      rw [hknown]
      exact ((access hentity hfield).append (Piece.sign sign)).append (.literal hright)
  | compareFolded negated =>
      rw [hoperator] at htext
      cases htext
      exact compareFolded hentity hfield negated
  | method method negated folded =>
      cases negated with
      | true => simp [hoperator, Operator.isSingle] at hsingle
      | false =>
          rw [hoperator] at htext
          cases htext
          cases folded <;> exact call hentity hfield method _
  | null negated =>
      rw [hoperator] at htext
      cases htext
      have hnull : Piece Dialect.mvel.nullLiteral [] := .word (by decide)
      exact ((path hentity hfield).append (Piece.sign _)).append hnull
  | compareField sign =>
      rw [hoperator] at htext
      obtain ⟨otherType, hother, -, -, rfl⟩ := Target.outcome_compareField_eq_ok_iff.mp htext
      obtain ⟨hright, -⟩ := Target.outcome_typeOf_eq_ok_iff.mp hother
      exact ((access hentity hfield).append (Piece.sign sign)).append
        (access hentity hright).piece
  | range inclusive => simp [hoperator, Operator.isSingle] at hsingle

end Comparison

end RuleExpr
