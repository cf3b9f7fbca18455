import RuleExpr.Json.Quoted
import Mathlib.Tactic.Common
/-!
The grammar of JSON texts between their quotes. Reading takes a text up to the quote that ends it, and
what is read back from a quoted text is that text.
-/
namespace RuleExpr.Json

/-- Pieces of a text, and how they are written between quotes: as they are, by a backslash and a letter,
or by the four hexadecimal digits of a unit. -/
inductive Piece.Spelled : List Piece → List Char → Prop
  | nil : Spelled [] []
  | plain {c : Char} {pieces : List Piece} {text : List Char} : c ≠ '"' → c ≠ '\\' →
      0x20 ≤ c.toNat → Spelled pieces text → Spelled (.char c :: pieces) (c :: text)
  | escaped {c meant : Char} {pieces : List Piece} {text : List Char} :
      unescaped? c = some meant → Spelled pieces text →
        Spelled (.char meant :: pieces) ('\\' :: c :: text)
  | unit {a b c d : Char} {a' b' c' d' : Nat} {pieces : List Piece} {text : List Char} :
      hexDigit? a = some a' → hexDigit? b = some b' → hexDigit? c = some c' →
        hexDigit? d = some d' → Spelled pieces text →
          Spelled (.ofUnit (0x1000 * a' + 0x100 * b' + 0x10 * c' + d') :: pieces)
            ('\\' :: 'u' :: a :: b :: c :: d :: text)

/-- Pieces are read as they are written, up to the quote. -/
theorem pieces?_append {pieces : List Piece} {text : List Char} (h : Piece.Spelled pieces text)
    (rest : List Char) : pieces? (text ++ '"' :: rest) = some (pieces, rest) := by
  induction h with
  | nil => rfl
  | @plain c pieces text hquote hslash hcontrol h ih =>
      have hvisible : ¬ c.toNat < 0x20 := by omega
      rw [List.cons_append, pieces?, if_neg hvisible, ih]
      · rfl
      · exact hquote
      · rintro a b c' d later rfl
        exact absurd rfl hslash
      · rintro c' later rfl
        exact absurd rfl hslash
  | @escaped c meant pieces text hmeant h ih =>
      rw [List.cons_append, List.cons_append, pieces?, hmeant, ih]
      · rfl
      · rintro a b c' d later rfl
        cases hmeant
  | unit ha hb hc hd h ih =>
      simp only [List.cons_append, pieces?, ha, hb, hc, hd, ih, Option.bind_eq_bind,
        Option.bind_some, Option.pure_def]

/-- What is read is written up to a quote. -/
theorem eq_append_of_pieces? {cs rest : List Char} {pieces : List Piece}
    (h : pieces? cs = some (pieces, rest)) :
    ∃ text, cs = text ++ '"' :: rest ∧ Piece.Spelled pieces text := by
  fun_induction pieces? cs generalizing pieces with
  | case1 => cases h
  | case2 later =>
      cases h
      exact ⟨[], rfl, .nil⟩
  | case3 a b c d later ih =>
      simp only [Option.bind_eq_bind, Option.bind_eq_some_iff, Prod.exists, Option.pure_def] at h
      obtain ⟨a', ha, b', hb, c', hc, d', hd, found, rest', hfound, hdone⟩ := h
      cases hdone
      obtain ⟨text, rfl, hspelled⟩ := ih hfound
      exact ⟨_, rfl, .unit ha hb hc hd hspelled⟩
  | case4 c later hunit ih =>
      simp only [Option.bind_eq_bind, Option.bind_eq_some_iff, Prod.exists, Option.pure_def] at h
      obtain ⟨meant, hmeant, found, rest', hfound, hdone⟩ := h
      cases hdone
      obtain ⟨text, rfl, hspelled⟩ := ih hfound
      exact ⟨_, rfl, .escaped hmeant hspelled⟩
  | case5 c later hquote hunit hescaped hcontrol => cases h
  | case6 c later hquote hunit hescaped hcontrol ih =>
      simp only [Option.bind_eq_bind, Option.bind_eq_some_iff, Prod.exists, Option.pure_def] at h
      obtain ⟨found, rest', hfound, hdone⟩ := h
      cases hdone
      obtain ⟨text, rfl, hspelled⟩ := ih hfound
      refine ⟨_, rfl, .plain hquote ?_ (by omega) hspelled⟩
      -- A backslash that nothing follows is read as it is, and then there is no quote to end at.
      rintro rfl
      have hne : text ++ '"' :: rest ≠ [] := by simp
      obtain ⟨d, later', hcons⟩ := List.exists_cons_of_ne_nil hne
      exact hescaped d later' rfl hcons

/-- The digits of a control character are two zeros and the two digits of its code point. -/
theorem controlDigits_ofNat : ∀ n < 0x20,
    controlDigits (Char.ofNat n) = ['0', '0', (n / 16).digitChar, (n % 16).digitChar] ∧
      hexDigit? (n / 16).digitChar = some (n / 16) ∧ hexDigit? (n % 16).digitChar = some (n % 16) ∧
        Piece.ofUnit n = .char (Char.ofNat n) := by
  decide

theorem spelled_control {c : Char} (hcontrol : c.toNat < 0x20) {pieces : List Piece}
    {text : List Char} (h : Piece.Spelled pieces text) :
    Piece.Spelled (.char c :: pieces) ('\\' :: 'u' :: (controlDigits c ++ text)) := by
  obtain ⟨hdigits, hhigh, hlow, hunit⟩ := controlDigits_ofNat c.toNat hcontrol
  rw [Char.ofNat_toNat] at hdigits hunit
  have hzero : hexDigit? '0' = some 0 := rfl
  have hspelled := Piece.Spelled.unit hzero hzero hhigh hlow h
  have hcode : 0x1000 * 0 + 0x100 * 0 + 0x10 * (c.toNat / 16) + c.toNat % 16 = c.toNat := by
    omega
  rw [hcode, hunit] at hspelled
  rw [hdigits]
  exact hspelled

theorem spelled_escapedChar (c : Char) {pieces : List Piece} {text : List Char}
    (h : Piece.Spelled pieces text) :
    Piece.Spelled (.char c :: pieces) (escapedChar c ++ text) := by
  unfold escapedChar
  split
  case h_8 _ hquote hslash _ _ _ _ _ =>
      split
      · rename_i hcontrol
        exact spelled_control hcontrol h
      · exact .plain hquote hslash (by omega) h
  all_goals exact .escaped rfl h

theorem spelled_flatMap_escapedChar (text : List Char) :
    Piece.Spelled (text.map .char) (text.flatMap escapedChar) := by
  induction text with
  | nil => exact .nil
  | cons c text ih =>
      rw [List.map_cons, List.flatMap_cons]
      exact spelled_escapedChar c ih

/-- Whole characters are put together to the text that they are of. -/
theorem join?_map_char (text : List Char) : Piece.join? (text.map .char) = some text := by
  induction text with
  | nil => rfl
  | cons c text ih => rw [List.map_cons, Piece.join?, ih, Option.map_some]

end RuleExpr.Json
