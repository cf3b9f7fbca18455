import RuleExpr.Proofs.Nesting
/-!
Reading an expression. A disjunction is cut first, then the conjunctions in it, and a factor is denied,
in parentheses, or an atom that an assignment knows. The lemmas are rules of composition: what is read
from a text that was put together, from what is read from the texts it was put together from.
-/
namespace RuleExpr

def Connective.text : Connective → String
  | .and => "&&"
  | .or => "||"

namespace Token

/-- The text of an atom. -/
def atom (tokens : List Token) : String :=
  String.ofList (tokens.flatMap chars)

mutual

/-- The truth value of an expression: one of its parts between disjunctions holds, and all that this
part is a conjunction of. -/
def read (truth : String → Bool) (tokens : List Token) : Bool :=
  (split .or 0 tokens).attach.any fun part =>
    (split .and 0 part.1).attach.all fun factor => readFactor truth factor.1
termination_by (tokens.length, 1)
decreasing_by
  -- A factor can be the whole text; then it is no longer read as an expression.
  have hpart := length_le_of_mem_split _ _ _ _ part.2
  have hfactor := length_le_of_mem_split _ _ _ _ factor.2
  rcases Nat.lt_or_eq_of_le (Nat.le_trans hfactor hpart) with hlt | heq
  · exact Prod.Lex.left _ _ hlt
  · rw [heq]
    exact Prod.Lex.right _ Nat.zero_lt_one

/-- A factor that starts with an exclamation mark denies what follows, one in parentheses is read as
an expression, and every other one is an atom. -/
def readFactor (truth : String → Bool) (tokens : List Token) : Bool :=
  match tokens with
  | .code '!' :: rest => !readFactor truth rest
  | tokens =>
      match _h : enclosed? tokens with
      | some inner => read truth inner
      | none => truth (atom tokens)
termination_by (tokens.length, 0)
decreasing_by
  · exact Prod.Lex.left _ _ (Nat.lt_succ_self _)
  · exact Prod.Lex.left _ _ (length_lt_of_enclosed? _h)

end

theorem read_eq (truth : String → Bool) (tokens : List Token) :
    read truth tokens =
      (split .or 0 tokens).any fun part => (split .and 0 part).all (readFactor truth) := by
  rw [read]
  simp

theorem readFactor_deny (truth : String → Bool) (tokens : List Token) :
    readFactor truth (.code '!' :: tokens) = !readFactor truth tokens := by
  rw [readFactor]

theorem readFactor_eq (truth : String → Bool) {tokens : List Token}
    (hdeny : ∀ rest, tokens ≠ .code '!' :: rest) :
    readFactor truth tokens =
      match enclosed? tokens with
      | some inner => read truth inner
      | none => truth (atom tokens) := by
  rw [readFactor]
  · split <;> simp_all
  · exact hdeny

theorem readFactor_parens (truth : String → Bool) {banned : List Connective}
    {tokens : List Token} (h : Spans banned 0 tokens 0) :
    readFactor truth (.code '(' :: (tokens ++ [.code ')'])) = read truth tokens := by
  rw [readFactor_eq truth (by simp), enclosed?_parens h]

theorem readFactor_atom (truth : String → Bool) {c : Char} {rest : List Token}
    (hdeny : c ≠ '!') (hopen : c ≠ '(') :
    readFactor truth (.code c :: rest) = truth (atom (.code c :: rest)) := by
  have henclosed : enclosed? (.code c :: rest) = none := by
    unfold enclosed?
    split
    · simp_all
    · rfl
  rw [readFactor_eq truth (by simpa using hdeny), henclosed]

end Token

/-- The truth value of a text, if its literals are closed. -/
def reading (truth : String → Bool) (text : String) : Option Bool :=
  (Token.lex text).map (Token.read truth)

open Token

theorem Connective.lexes_text (connective : Connective) :
    Lexes connective.text connective.tokens := by
  cases connective <;> exact Lexes.code (by decide)

/-- The text is these parts with the connective between them, and no part has a banned connective
outside of its parentheses. -/
structure Parts (banned : List Connective) (connective : Connective) (text : String)
    (parts : List (List Token)) : Prop where
  ne_nil : parts ≠ []
  spans : ∀ part ∈ parts, Spans banned 0 part 0
  lexes : Lexes text (connective.tokens.intercalate parts)

theorem intercalate_append {α : Type} (separator : List α) {first second : List (List α)}
    (hfirst : first ≠ []) (hsecond : second ≠ []) :
    separator.intercalate (first ++ second) =
      separator.intercalate first ++ separator ++ separator.intercalate second := by
  induction first with
  | nil => exact absurd rfl hfirst
  | cons part first ih =>
      by_cases hnil : first = []
      · rw [hnil, List.singleton_append, List.intercalate_cons_of_ne_nil hsecond,
          List.intercalate_singleton]
      · rw [List.cons_append, List.intercalate_cons_of_ne_nil (by simp [hnil]), ih hnil,
          List.intercalate_cons_of_ne_nil hnil]
        simp only [List.append_assoc]

namespace Parts

variable {banned : List Connective} {connective : Connective} {text later : String}
  {parts laterParts : List (List Token)}

theorem single {part : List Token} (hlexes : Lexes text part) (hspans : Spans banned 0 part 0) :
    Parts banned connective text [part] where
  ne_nil := by simp
  spans := by simpa using hspans
  lexes := by simpa using hlexes

theorem append (h : Parts banned connective text parts)
    (hlater : Parts banned connective later laterParts) :
    Parts banned connective (text ++ connective.text ++ later) (parts ++ laterParts) where
  ne_nil := by simp [h.ne_nil]
  spans part hpart := by
    rcases List.mem_append.mp hpart with hfirst | hsecond
    · exact h.spans part hfirst
    · exact hlater.spans part hsecond
  lexes := by
    rw [intercalate_append _ h.ne_nil hlater.ne_nil]
    exact (h.lexes.append connective.lexes_text).append hlater.lexes

end Parts

variable {truth : String → Bool} {text later : String} {value laterValue : Bool}

/-- The text is read as one factor of that value. -/
def Factor (truth : String → Bool) (text : String) (value : Bool) : Prop :=
  ∃ tokens, Lexes text tokens ∧ Spans [.and, .or] 0 tokens 0 ∧ readFactor truth tokens = value

/-- The text is read as a conjunction of that value, wherever it stands. -/
def Conjunction (truth : String → Bool) (text : String) (value : Bool) : Prop :=
  ∃ factors, Parts [.and, .or] .and text factors ∧ factors.all (readFactor truth) = value

/-- The text is read as an expression of that value, if it stands by itself or in parentheses. -/
def Disjunction (truth : String → Bool) (text : String) (value : Bool) : Prop :=
  ∃ parts, Parts [.or] .or text parts ∧
    (parts.any fun part => (split .and 0 part).all (readFactor truth)) = value

namespace Factor

/-- A text that starts as no literal, denial or parenthesis does is the atom that it spells. -/
theorem atom {tokens : List Token} (hlexes : Lexes text tokens)
    (hspans : Spans [.and, .or] 0 tokens 0) {c : Char} {cs : List Char}
    (hfirst : text.toList = c :: cs) (hquote : c ≠ '"') (hdeny : c ≠ '!') (hopen : c ≠ '(') :
    Factor truth text (truth text) := by
  refine ⟨tokens, hlexes, hspans, ?_⟩
  have hchars := hlexes.flatMap_chars
  rw [hfirst] at hchars
  match tokens with
  | [] => cases hchars
  | .literal written :: rest => exact absurd (List.cons.inj hchars).1.symm hquote
  | .code first :: rest =>
      obtain rfl : first = c := (List.cons.inj hchars).1
      rw [readFactor_atom truth hdeny hopen, Token.atom, hchars, ← hfirst, String.ofList_toList]

theorem deny (h : Factor truth text value) : Factor truth ("!" ++ text) (!value) := by
  obtain ⟨tokens, hlexes, hspans, hvalue⟩ := h
  have hmark : Lexes "!" [.code '!'] := Lexes.code (by decide)
  refine ⟨.code '!' :: tokens, hmark.append hlexes, ?_, ?_⟩
  · exact .code (by decide) (by decide) (by decide) hspans
  · rw [readFactor_deny, hvalue]

theorem conjunction (h : Factor truth text value) : Conjunction truth text value := by
  obtain ⟨tokens, hlexes, hspans, hvalue⟩ := h
  exact ⟨[tokens], Parts.single hlexes hspans, by simpa using hvalue⟩

end Factor

namespace Conjunction

theorem and (h : Conjunction truth text value) (hlater : Conjunction truth later laterValue) :
    Conjunction truth (text ++ "&&" ++ later) (value && laterValue) := by
  obtain ⟨factors, hparts, hvalue⟩ := h
  obtain ⟨laterFactors, hlaterParts, hlaterValue⟩ := hlater
  exact ⟨factors ++ laterFactors, hparts.append hlaterParts, by
    rw [List.all_append, hvalue, hlaterValue]⟩

/-- A conjunction is one part of a disjunction. -/
theorem disjunction (h : Conjunction truth text value) : Disjunction truth text value := by
  obtain ⟨factors, hparts, hvalue⟩ := h
  refine ⟨[Connective.and.tokens.intercalate factors], Parts.single hparts.lexes ?_, ?_⟩
  · exact Spans.joined (by decide) fun factor hfactor =>
      (hparts.spans factor hfactor).mono (by simp)
  · rw [List.any_cons, split_joined (by simp) hparts.ne_nil hparts.spans, hvalue]
    simp

end Conjunction

namespace Disjunction

theorem or (h : Disjunction truth text value) (hlater : Disjunction truth later laterValue) :
    Disjunction truth (text ++ "||" ++ later) (value || laterValue) := by
  obtain ⟨parts, hparts, hvalue⟩ := h
  obtain ⟨laterParts, hlaterParts, hlaterValue⟩ := hlater
  exact ⟨parts ++ laterParts, hparts.append hlaterParts, by
    rw [List.any_append, hvalue, hlaterValue]⟩

theorem exists_read (h : Disjunction truth text value) :
    ∃ tokens, Lexes text tokens ∧ Spans [] 0 tokens 0 ∧ read truth tokens = value := by
  obtain ⟨parts, hparts, hvalue⟩ := h
  refine ⟨Connective.or.tokens.intercalate parts, hparts.lexes, ?_, ?_⟩
  · exact Spans.joined (by simp) fun part hpart => (hparts.spans part hpart).mono (by simp)
  · rw [read_eq, split_joined (by simp) hparts.ne_nil hparts.spans, hvalue]

theorem reading_eq (h : Disjunction truth text value) : reading truth text = some value := by
  obtain ⟨tokens, hlexes, -, hvalue⟩ := h.exists_read
  rw [reading, hlexes.lex_eq, Option.map_some, hvalue]

/-- In parentheses, any expression is a factor. -/
theorem parens (h : Disjunction truth text value) :
    Factor truth ("(" ++ text ++ ")") value := by
  obtain ⟨tokens, hlexes, hspans, hvalue⟩ := h.exists_read
  exact ⟨_, hlexes.parens, hspans.parens [.and, .or],
    (readFactor_parens truth hspans).trans hvalue⟩

end Disjunction

end RuleExpr
