import RuleExpr.Proofs.Token
/-!
Parentheses and connectives among tokens. A text is cut at the connectives that stand outside of all
parentheses; texts that have no such connective and match their parentheses come back from a text that
joins them.
-/
namespace RuleExpr

inductive Connective where
  | and
  | or
  deriving DecidableEq, Repr

/-- The character that is written twice for the connective. -/
def Connective.mark : Connective → Char
  | .and => '&'
  | .or => '|'

def Connective.tokens (connective : Connective) : List Token :=
  [.code connective.mark, .code connective.mark]

namespace Token

/-- The depth of parentheses after the token. -/
def depth (depth : Nat) : Token → Nat
  | .code '(' => depth + 1
  | .code ')' => depth - 1
  | _ => depth

/-- The parts between the occurrences of the connective outside of all parentheses. -/
def split (connective : Connective) (depth : Nat) : List Token → List (List Token)
  | [] => [[]]
  | .code first :: .code second :: rest =>
      if depth = 0 ∧ first = connective.mark ∧ second = connective.mark then
        [] :: split connective 0 rest
      else
        (split connective ((Token.code first).depth depth) (.code second :: rest)).modifyHead
          (.code first :: ·)
  | token :: rest => (split connective (token.depth depth) rest).modifyHead (token :: ·)

/-- What comes before a closing parenthesis for which there is no opening one, if that is the last
token. -/
def untilClosed? (depth : Nat) : List Token → Option (List Token)
  | [] => none
  | token :: rest =>
      if depth = 0 ∧ token = .code ')' then
        if rest = [] then some [] else none
      else (untilClosed? (token.depth depth) rest).map (token :: ·)

/-- What stands inside of one pair of parentheses that has nothing around it. -/
def enclosed? : List Token → Option (List Token)
  | .code '(' :: rest => untilClosed? 0 rest
  | _ => none

/-- The tokens lead from one depth of parentheses to another. They close no parenthesis that they have
not opened, and none of the banned connectives has a mark outside of all parentheses. -/
inductive Spans (banned : List Connective) : Nat → List Token → Nat → Prop where
  | nil {depth : Nat} : Spans banned depth [] depth
  | opening {depth last : Nat} {rest : List Token} (later : Spans banned (depth + 1) rest last) :
      Spans banned depth (.code '(' :: rest) last
  | closing {depth last : Nat} {rest : List Token} (later : Spans banned depth rest last) :
      Spans banned (depth + 1) (.code ')' :: rest) last
  | literal {depth last : Nat} {written : List Char} {rest : List Token}
      (later : Spans banned depth rest last) : Spans banned depth (.literal written :: rest) last
  | code {depth last : Nat} {c : Char} {rest : List Token} (hopen : c ≠ '(') (hclose : c ≠ ')')
      (hbanned : depth = 0 → ∀ connective ∈ banned, c ≠ connective.mark)
      (later : Spans banned depth rest last) : Spans banned depth (.code c :: rest) last

namespace Spans

variable {banned : List Connective} {depth middle last : Nat} {tokens later : List Token}

theorem append (h : Spans banned depth tokens middle) (hlater : Spans banned middle later last) :
    Spans banned depth (tokens ++ later) last := by
  induction h with
  | nil => exact hlater
  | opening _ ih => exact opening (ih hlater)
  | closing _ ih => exact closing (ih hlater)
  | literal _ ih => exact literal (ih hlater)
  | code hopen hclose hbanned _ ih => exact code hopen hclose hbanned (ih hlater)

/-- One parenthesis deeper, no connective matters. -/
theorem deeper (h : Spans banned depth tokens last) (others : List Connective) :
    Spans others (depth + 1) tokens (last + 1) := by
  induction h with
  | nil => exact nil
  | opening _ ih => exact opening ih
  | closing _ ih => exact closing ih
  | literal _ ih => exact literal ih
  | code hopen hclose _ _ ih => exact code hopen hclose (by simp) ih

theorem parens (h : Spans banned 0 tokens 0) (others : List Connective) :
    Spans others 0 (.code '(' :: (tokens ++ [.code ')'])) 0 :=
  opening ((h.deeper others).append (closing nil))

theorem mono (h : Spans banned depth tokens last) {fewer : List Connective}
    (hfewer : fewer ⊆ banned) : Spans fewer depth tokens last := by
  induction h with
  | nil => exact nil
  | opening _ ih => exact opening ih
  | closing _ ih => exact closing ih
  | literal _ ih => exact literal ih
  | code hopen hclose hbanned _ ih =>
      refine code hopen hclose ?_ ih
      intro hdepth connective hmem
      exact hbanned hdepth connective (hfewer hmem)

theorem connective {connective : Connective} (hbanned : connective ∉ banned) :
    Spans banned 0 connective.tokens 0 := by
  have hmark (other : Connective) (hother : other ∈ banned) : connective.mark ≠ other.mark := by
    intro hsame
    have hequal : connective = other := by
      cases connective <;> cases other <;> first | rfl | (exact absurd hsame (by decide))
    exact hbanned (hequal ▸ hother)
  have hopen : connective.mark ≠ '(' := by cases connective <;> decide
  have hclose : connective.mark ≠ ')' := by cases connective <;> decide
  exact code hopen hclose (fun _ => hmark) (code hopen hclose (fun _ => hmark) nil)

/-- Texts joined by a connective that is not banned. -/
theorem joined {connective : Connective} (hconnective : connective ∉ banned)
    {parts : List (List Token)} (hparts : ∀ part ∈ parts, Spans banned 0 part 0) :
    Spans banned 0 (connective.tokens.intercalate parts) 0 := by
  induction parts with
  | nil => exact nil
  | cons part parts ih =>
      have hpart := hparts part List.mem_cons_self
      have hrest : Spans banned 0 (connective.tokens.intercalate parts) 0 := by
        apply ih
        intro other hmem
        exact hparts other (List.mem_cons_of_mem part hmem)
      by_cases hnil : parts = []
      · rw [hnil, List.intercalate_singleton]
        exact hpart
      · rw [List.intercalate_cons_of_ne_nil hnil]
        exact (hpart.append (Spans.connective hconnective)).append hrest

end Spans

section Split

variable {connective : Connective} {banned : List Connective} {depth last : Nat}
  {tokens rest : List Token}

theorem split_cons {token : Token} (htoken : depth = 0 → token ≠ .code connective.mark) :
    split connective depth (token :: rest) =
      (split connective (token.depth depth) rest).modifyHead (token :: ·) := by
  match token, rest with
  | .literal written, rest => rw [split]; simp
  | .code c, [] => simp [split]
  | .code c, .literal written :: rest => rw [split]; simp
  | .code c, .code d :: rest =>
      have hnot : ¬ (depth = 0 ∧ c = connective.mark ∧ d = connective.mark) := by
        rintro ⟨hdepth, rfl, -⟩
        exact htoken hdepth rfl
      rw [split, if_neg hnot]

theorem split_connective :
    split connective 0 (connective.tokens ++ rest) = [] :: split connective 0 rest := by
  rw [Connective.tokens, List.cons_append, List.singleton_append, split,
    if_pos ⟨rfl, rfl, rfl⟩]

/-- What spans to another depth without the connective stays in one part. -/
theorem split_append_of_spans (h : Spans banned depth tokens last)
    (hbanned : connective ∈ banned) :
    split connective depth (tokens ++ rest) =
      (split connective last rest).modifyHead (tokens ++ ·) := by
  have hopen : Token.code '(' ≠ .code connective.mark := by cases connective <;> decide
  have hclose : Token.code ')' ≠ .code connective.mark := by cases connective <;> decide
  -- Along the tokens the depth changes, and the part that is open grows by one token at a time.
  induction h with
  | nil =>
      rw [List.nil_append]
      cases split connective _ rest <;> rfl
  | opening _ ih =>
      rw [List.cons_append, split_cons fun _ => hopen, Token.depth, ih, List.modifyHead_modifyHead]
      rfl
  | closing _ ih =>
      rw [List.cons_append, split_cons fun _ => hclose, Token.depth, Nat.add_sub_cancel, ih,
        List.modifyHead_modifyHead]
      rfl
  | literal _ ih =>
      rw [List.cons_append, split_cons fun _ => by simp, Token.depth, ih,
        List.modifyHead_modifyHead]
      · rfl
      all_goals simp
  | code hopen hclose hmark _ ih =>
      have htoken (hdepth : _ = 0) := hmark hdepth connective hbanned
      rw [List.cons_append, split_cons (by simpa using htoken), Token.depth, ih,
        List.modifyHead_modifyHead]
      · rfl
      all_goals simpa

theorem split_of_spans (h : Spans banned 0 tokens 0) (hbanned : connective ∈ banned) :
    split connective 0 tokens = [tokens] := by
  have hsplit : split connective 0 (tokens ++ []) = _ := split_append_of_spans h hbanned
  simpa [split] using hsplit

/-- Cutting at a connective undoes joining with it. -/
theorem split_joined (hbanned : connective ∈ banned) {parts : List (List Token)}
    (hne : parts ≠ []) (hparts : ∀ part ∈ parts, Spans banned 0 part 0) :
    split connective 0 (connective.tokens.intercalate parts) = parts := by
  induction parts with
  | nil => exact absurd rfl hne
  | cons part parts ih =>
      have hpart := hparts part List.mem_cons_self
      by_cases hnil : parts = []
      · rw [hnil, List.intercalate_singleton]
        exact split_of_spans hpart hbanned
      · have hrest : split connective 0 (connective.tokens.intercalate parts) = parts := by
          apply ih hnil
          intro other hmem
          exact hparts other (List.mem_cons_of_mem part hmem)
        rw [List.intercalate_cons_of_ne_nil hnil, List.append_assoc,
          split_append_of_spans hpart hbanned, split_connective, hrest]
        simp

theorem untilClosed?_cons {token : Token} (htoken : depth = 0 → token ≠ .code ')') :
    untilClosed? depth (token :: rest) =
      (untilClosed? (token.depth depth) rest).map (token :: ·) := by
  have hnot : ¬ (depth = 0 ∧ token = .code ')') := by
    rintro ⟨hdepth, hsame⟩
    exact htoken hdepth hsame
  rw [untilClosed?, if_neg hnot]

theorem untilClosed?_append (h : Spans banned depth tokens last) :
    untilClosed? depth (tokens ++ rest) = (untilClosed? last rest).map (tokens ++ ·) := by
  induction h with
  | nil => simp
  | opening _ ih =>
      rw [List.cons_append, untilClosed?_cons (by simp), Token.depth, ih, Option.map_map]
      rfl
  | closing _ ih =>
      rw [List.cons_append, untilClosed?_cons (by simp), Token.depth, Nat.add_sub_cancel, ih,
        Option.map_map]
      rfl
  | literal _ ih =>
      rw [List.cons_append, untilClosed?_cons (by simp), Token.depth, ih, Option.map_map]
      · rfl
      all_goals simp
  | code hopen hclose _ _ ih =>
      rw [List.cons_append, untilClosed?_cons (by simpa using fun _ => hclose), Token.depth, ih,
        Option.map_map]
      · rfl
      all_goals simpa

/-- Parentheses around a text that matches its own are one pair around it. -/
theorem enclosed?_parens (h : Spans banned 0 tokens 0) :
    enclosed? (.code '(' :: (tokens ++ [.code ')'])) = some tokens := by
  rw [enclosed?, untilClosed?_append h]
  simp [untilClosed?]

theorem length_lt_of_untilClosed? {inner : List Token}
    (h : untilClosed? depth tokens = some inner) : inner.length < tokens.length := by
  induction tokens generalizing depth inner with
  | nil => cases h
  | cons token rest ih =>
      rw [untilClosed?] at h
      split at h
      · split at h
        · cases h
          simp
        · contradiction
      · obtain ⟨later, hlater, rfl⟩ := Option.map_eq_some_iff.mp h
        have hlength := ih hlater
        simp only [List.length_cons]
        omega

theorem length_lt_of_enclosed? {inner : List Token} (h : enclosed? tokens = some inner) :
    inner.length < tokens.length := by
  unfold enclosed? at h
  split at h
  · exact Nat.lt_succ_of_lt (length_lt_of_untilClosed? h)
  · contradiction

theorem length_le_of_mem_modifyHead {token : Token} {parts : List (List Token)} {bound : Nat}
    (hparts : ∀ part ∈ parts, part.length ≤ bound) :
    ∀ part ∈ parts.modifyHead (token :: ·), part.length ≤ bound + 1 := by
  cases parts with
  | nil => simp
  | cons head tail =>
      intro part hpart
      rcases List.mem_cons.mp hpart with rfl | htail
      · simpa using hparts head List.mem_cons_self
      · have hlength := hparts part (List.mem_cons_of_mem head htail)
        omega

/-- No part is longer than the whole. -/
theorem length_le_of_mem_split (connective : Connective) (depth : Nat) (tokens : List Token) :
    ∀ part ∈ split connective depth tokens, part.length ≤ tokens.length := by
  fun_induction split connective depth tokens with
  | case1 => simp
  | case2 depth first second rest hmarks ih =>
      intro part hpart
      simp only [List.length_cons]
      rcases List.mem_cons.mp hpart with rfl | hlater
      · exact Nat.zero_le _
      · have hlength := ih part hlater
        omega
  | case3 depth first second rest hmarks ih => exact length_le_of_mem_modifyHead ih
  | case4 depth token rest _ ih => exact length_le_of_mem_modifyHead ih

end Split

end Token

end RuleExpr
