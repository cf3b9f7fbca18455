import RuleExpr.Text.Quoted
/-!
Tokens of a text: its quoted literals, and the characters outside of them. A literal goes from a double
quote to the next one that has no backslash before it, whatever stands in between. The predicate `Lexes`
is about a text with anything after it, so it is kept when texts are put together. What may be written
between quotes for a text has a grammar, `WrittenAs`, which every reader of literals is held against.
-/
namespace RuleExpr

/-- A character outside of quotes, or what is written between two quotes. -/
inductive Token where
  | code (c : Char)
  | literal (written : List Char)
  deriving DecidableEq, Repr

namespace Token

/-- The token as it is written. -/
def chars : Token → List Char
  | code c => [c]
  | literal written => '"' :: (written ++ ['"'])

mutual

/-- The tokens of a text; there are none if a literal is still open at its end. -/
def outside : List Char → Option (List Token)
  | [] => some []
  | '"' :: rest => inside [] rest
  | c :: rest => (outside rest).map (code c :: ·)

/-- The tokens from within a literal on, of which `read` has been read, the last character first. -/
def inside (read : List Char) : List Char → Option (List Token)
  | [] => none
  | '"' :: rest => (outside rest).map (literal read.reverse :: ·)
  | '\\' :: c :: rest => inside (c :: '\\' :: read) rest
  | c :: rest => inside (c :: read) rest

end

def lex (text : String) : Option (List Token) :=
  outside text.toList

/-- What is written in the literals, in order. -/
def literals (tokens : List Token) : List (List Char) :=
  tokens.filterMap fun
    | literal written => some written
    | code _ => none

/-- The character that a backslash and another character stand for in a literal. -/
def escaped? : Char → Option Char
  | '"' => some '"'
  | '\\' => some '\\'
  | 'n' => some '\n'
  | 'r' => some '\r'
  | 't' => some '\t'
  | _ => none

/-- The text that a literal stands for. -/
def decode? : List Char → Option (List Char)
  | [] => some []
  | '\\' :: c :: rest => do
      let meant ← escaped? c
      let later ← decode? rest
      return meant :: later
  | c :: rest => if c = '\\' then none else (decode? rest).map (c :: ·)

/-- A text, and what may be written for it between double quotes: its characters as they are, or a
backslash and a character that stands for one of them. -/
inductive WrittenAs : List Char → List Char → Prop
  | nil : WrittenAs [] []
  | plain {c : Char} {text written : List Char} : c ≠ '"' → c ≠ '\\' → WrittenAs text written →
      WrittenAs (c :: text) (c :: written)
  | escaped {c letter : Char} {text written : List Char} : escaped? letter = some c →
      WrittenAs text written → WrittenAs (c :: text) ('\\' :: letter :: written)

/-- A character is quoted in one of two ways: as it is, or by a backslash and a character that stands
for it. -/
theorem quotedChar_cases (c : Char) :
    (Text.quotedChar c = [c] ∧ c ≠ '"' ∧ c ≠ '\\') ∨
      ∃ letter, Text.quotedChar c = ['\\', letter] ∧ escaped? letter = some c := by
  unfold Text.quotedChar
  split
  case h_6 c hquote hslash _ _ _ => exact Or.inl ⟨rfl, hquote, hslash⟩
  all_goals exact Or.inr ⟨_, rfl, rfl⟩

theorem writtenAs_quoted (text : List Char) : WrittenAs text (text.flatMap Text.quotedChar) := by
  induction text with
  | nil => exact .nil
  | cons c text ih =>
      rw [List.flatMap_cons]
      rcases quotedChar_cases c with ⟨hplain, hquote, hslash⟩ | ⟨letter, hescape, hletter⟩
      · rw [hplain]
        exact .plain hquote hslash ih
      · rw [hescape]
        exact .escaped hletter ih

namespace WrittenAs

variable {text written : List Char}

theorem decode?_eq (h : WrittenAs text written) : decode? written = some text := by
  induction h with
  | nil => rfl
  | plain _ hslash _ ih =>
      rw [decode?, if_neg hslash, ih]
      · rfl
      · intro letter rest hescape
        exact absurd hescape hslash
  | escaped hletter _ ih => simp [decode?, hletter, ih]

/-- A literal that is being read takes in all that is written for a text. -/
theorem inside_append (h : WrittenAs text written) (read rest : List Char) :
    inside read (written ++ rest) = inside (written.reverse ++ read) rest := by
  induction h generalizing read with
  | nil => rfl
  | plain hquote hslash _ ih =>
      rw [List.cons_append, inside, ih]
      · simp
      · exact hquote
      · intro letter rest hescape
        exact absurd hescape hslash
  | escaped _ _ ih =>
      rw [List.cons_append, List.cons_append, inside, ih]
      simp

theorem outside_append (h : WrittenAs text written) (rest : List Char) :
    outside (chars (literal written) ++ rest) = (outside rest).map (literal written :: ·) := by
  rw [chars, List.cons_append, outside, List.append_assoc, h.inside_append, List.singleton_append,
    inside]
  simp

/-- What is lexed as the rest of one literal and decodes to a text is written for that text. -/
theorem of_inside (read : List Char) (htext : decode? written = some text)
    (hread : inside read (written ++ ['"']) = some [literal (read.reverse ++ written)]) :
    WrittenAs text written := by
  fun_induction decode? written generalizing text read with
  | case1 =>
      cases htext
      exact .nil
  | case2 letter rest ih =>
      simp only [Option.bind_eq_bind, Option.bind_eq_some_iff, Option.pure_def] at htext
      obtain ⟨c, hletter, later, hlater, hdone⟩ := htext
      cases hdone
      refine .escaped hletter (ih (letter :: '\\' :: read) hlater ?_)
      simpa [inside] using hread
  | case3 => cases htext
  | case4 c rest hescape hslash ih =>
      obtain ⟨later, hlater, rfl⟩ := Option.map_eq_some_iff.mp htext
      have hquote : c ≠ '"' := by
        rintro rfl
        -- The literal would end at this quote, before all of it is read.
        rw [List.cons_append, inside] at hread
        obtain ⟨tokens, -, htokens⟩ := Option.map_eq_some_iff.mp hread
        simp at htokens
      refine .plain hquote hslash (ih (c :: read) hlater ?_)
      rw [List.cons_append, inside] at hread
      · simpa using hread
      · exact hquote
      · intro letter later heq
        exact absurd heq hslash

end WrittenAs

/-- What is written for a text is what the lexer takes for one literal and decodes to the text. -/
theorem writtenAs_iff {text written : List Char} :
    WrittenAs text written ↔
      outside (chars (literal written)) = some [literal written] ∧ decode? written = some text := by
  constructor
  · intro h
    have hwhole := h.outside_append []
    rw [List.append_nil] at hwhole
    exact ⟨hwhole, h.decode?_eq⟩
  · rintro ⟨hread, htext⟩
    exact .of_inside [] htext hread

theorem outside_of_no_quote {cs : List Char} (hquote : ∀ c ∈ cs, c ≠ '"') (rest : List Char) :
    outside (cs ++ rest) = (outside rest).map (cs.map .code ++ ·) := by
  induction cs with
  | nil => simp
  | cons c cs ih =>
      have hlater : outside (cs ++ rest) = (outside rest).map (cs.map .code ++ ·) := by
        apply ih
        intro d hd
        exact hquote d (List.mem_cons_of_mem c hd)
      rw [List.cons_append, outside, hlater]
      · simp [Function.comp_def]
      · exact hquote c List.mem_cons_self

/-- The text has these tokens whatever comes after it. -/
structure Lexes (text : String) (tokens : List Token) : Prop where
  outside_append : ∀ rest, outside (text.toList ++ rest) = (outside rest).map (tokens ++ ·)
  flatMap_chars : tokens.flatMap chars = text.toList

namespace Lexes

variable {text later : String} {tokens laterTokens : List Token}

theorem lex_eq (h : Lexes text tokens) : lex text = some tokens := by
  have hend := h.outside_append []
  rw [List.append_nil] at hend
  simpa [lex, outside] using hend

theorem append (h : Lexes text tokens) (hlater : Lexes later laterTokens) :
    Lexes (text ++ later) (tokens ++ laterTokens) where
  outside_append rest := by
    rw [String.toList_append, List.append_assoc, h.outside_append, hlater.outside_append,
      Option.map_map]
    congr 1
    funext following
    exact (List.append_assoc tokens laterTokens following).symm
  flatMap_chars := by
    rw [List.flatMap_append, h.flatMap_chars, hlater.flatMap_chars, String.toList_append]

/-- A text without quotes is read character by character. -/
theorem code (hquote : text.toList.all (· != '"') = true) :
    Lexes text (text.toList.map .code) where
  outside_append := outside_of_no_quote (by simpa using hquote)
  flatMap_chars := by
    simp [List.flatMap_map, chars]

theorem parens (h : Lexes text tokens) :
    Lexes ("(" ++ text ++ ")") (.code '(' :: (tokens ++ [.code ')'])) := by
  have hopen : Lexes "(" [.code '('] := code (by decide)
  have hclose : Lexes ")" [.code ')'] := code (by decide)
  exact (hopen.append h).append hclose

/-- A quoted text is one literal, whatever the text is. -/
theorem quoted (text : String) :
    Lexes (Text.quoted text) [literal (text.toList.flatMap Text.quotedChar)] where
  outside_append rest := by
    rw [Text.quoted, String.toList_ofList]
    exact (writtenAs_quoted text.toList).outside_append rest
  flatMap_chars := by
    simp [Text.quoted, Text.quotedChars, chars]

end Lexes

end Token

end RuleExpr
