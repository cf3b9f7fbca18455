import Mathlib.Data.List.DropRight
import RuleExpr.Expression.Condition
/-!
What the checked operands are made of: the characters of paths and numbers, and the ends of a trimmed
text. Nothing outside of these characters comes from an operand into an expression without quotes.
-/
namespace RuleExpr

namespace Path

theorem parts_ne_nil (text : List Char) : parts text ≠ [] := by
  unfold parts
  split
  · simp
  · split
    · simp
    · split <;> simp

/-- A character that is no dot stands at the start of the first part. -/
theorem parts_cons {c : Char} (hdot : c ≠ '.') (cs : List Char) :
    ∃ part rest, parts cs = part :: rest ∧ parts (c :: cs) = (c :: part) :: rest := by
  obtain ⟨part, rest, hparts⟩ := List.exists_cons_of_ne_nil (parts_ne_nil cs)
  exact ⟨part, rest, hparts, by rw [parts, if_neg hdot, hparts]⟩

/-- Every character of a text is a dot or belongs to a part. -/
theorem eq_dot_or_mem_part {text : List Char} {c : Char} (hc : c ∈ text) :
    c = '.' ∨ ∃ part ∈ parts text, c ∈ part := by
  induction text with
  | nil => cases hc
  | cons head tail ih =>
      by_cases hdot : head = '.'
      · rw [parts, if_pos hdot]
        rcases List.mem_cons.mp hc with rfl | htail
        · exact Or.inl hdot
        · rcases ih htail with hc | ⟨part, hpart, hmem⟩
          · exact Or.inl hc
          · exact Or.inr ⟨part, List.mem_cons_of_mem [] hpart, hmem⟩
      · obtain ⟨first, rest, htailParts, hparts⟩ := parts_cons hdot tail
        rw [hparts]
        rcases List.mem_cons.mp hc with rfl | htail
        · exact Or.inr ⟨c :: first, by simp, by simp⟩
        · rcases ih htail with rfl | ⟨part, hpart, hmem⟩
          · exact Or.inl rfl
          · rw [htailParts] at hpart
            rcases List.mem_cons.mp hpart with rfl | hrest
            · exact Or.inr ⟨head :: part, by simp, by simp [hmem]⟩
            · exact Or.inr ⟨part, by simp [hrest], hmem⟩

theorem isPath_iff {text : String} :
    isPath text = true ↔ (parts text.toList).all isIdentifier = true := by
  unfold isPath segments?
  split <;> simp_all

theorem mem_of_isIdentifier {part : List Char} (h : isIdentifier part = true) {c : Char}
    (hc : c ∈ part) : c.isAlphanum = true ∨ c = '_' := by
  cases part with
  | nil => cases hc
  | cons head tail =>
      simp only [isIdentifier, isIdentifierStart, isIdentifierRest, Bool.and_eq_true,
        Bool.or_eq_true, beq_iff_eq, List.all_eq_true] at h
      rcases List.mem_cons.mp hc with rfl | htail
      · exact h.1.imp_left fun halpha => by simp [Char.isAlphanum, halpha]
      · exact h.2 c htail

/-- A path is made of ASCII letters, digits, underscores and dots. -/
theorem mem_of_isPath {text : String} (h : isPath text = true) {c : Char}
    (hc : c ∈ text.toList) : c.isAlphanum = true ∨ c = '_' ∨ c = '.' := by
  rw [isPath_iff, List.all_eq_true] at h
  rcases eq_dot_or_mem_part hc with rfl | ⟨part, hpart, hmem⟩
  · exact Or.inr (Or.inr rfl)
  · exact (mem_of_isIdentifier (h part hpart) hmem).imp_right Or.inl

/-- A path starts as an identifier does. -/
theorem exists_start_of_isPath {text : String} (h : isPath text = true) :
    ∃ c cs, text.toList = c :: cs ∧ isIdentifierStart c = true := by
  rw [isPath_iff, List.all_eq_true] at h
  cases htext : text.toList with
  | nil =>
      rw [htext] at h
      exact absurd (h [] (by simp [parts])) (by decide)
  | cons c cs =>
      rw [htext] at h
      by_cases hdot : c = '.'
      · have hempty := h [] (by simp [parts, hdot])
        exact absurd hempty (by decide)
      · obtain ⟨part, rest, -, hparts⟩ := parts_cons hdot cs
        have hfirst := h (c :: part) (by simp [hparts])
        simp only [isIdentifier, Bool.and_eq_true] at hfirst
        exact ⟨c, cs, rfl, hfirst.1⟩

end Path

namespace Literal

theorem mem_of_isFraction {text : List Char} (h : isFraction text = true) {c : Char}
    (hc : c ∈ text) : c.isDigit = true ∨ c = '.' := by
  unfold isFraction at h
  split at h
  · contradiction
  · simp only [Bool.and_eq_true, List.all_eq_true] at h
    rcases List.mem_cons.mp hc with rfl | hdigit
    · exact Or.inr rfl
    · exact Or.inl (h.2 c hdigit)
  · contradiction

theorem mem_of_isUnsigned {text : List Char} (h : isUnsigned text = true) {c : Char}
    (hc : c ∈ text) : c.isDigit = true ∨ c = '.' := by
  unfold isUnsigned at h
  split at h
  · contradiction
  · rcases List.mem_cons.mp hc with rfl | hrest
    · exact Or.inl (by decide)
    · exact mem_of_isFraction h hrest
  · rename_i first rest _
    rw [Bool.and_eq_true] at h
    rcases List.mem_cons.mp hc with rfl | hrest
    · exact Or.inl h.1
    · rw [← List.takeWhile_append_dropWhile (p := Char.isDigit) (l := rest)] at hrest
      rcases List.mem_append.mp hrest with hdigits | hfraction
      · exact Or.inl (List.mem_takeWhile_imp hdigits)
      · exact mem_of_isFraction h.2 hfraction

/-- A number is made of digits, a point and a minus sign. -/
theorem mem_of_isNumber {text : List Char} (h : isNumber text = true) {c : Char}
    (hc : c ∈ text) : c.isDigit = true ∨ c = '.' ∨ c = '-' := by
  unfold isNumber at h
  split at h
  · rcases List.mem_cons.mp hc with rfl | hrest
    · exact Or.inr (Or.inr rfl)
    · exact (mem_of_isUnsigned h hrest).imp_right Or.inl
  · exact (mem_of_isUnsigned h hc).imp_right Or.inl

theorem isDigit_of_isTwoDigits {low high : Nat} {tens ones : Char}
    (h : isTwoDigits low high tens ones = true) : tens.isDigit = true ∧ ones.isDigit = true := by
  simp only [isTwoDigits, Bool.and_eq_true] at h
  exact h.1

/-- The characters of a date: digits, and what stands between its parts. -/
def isDateChar (c : Char) : Bool :=
  c.isDigit || c == '-' || c == ':' || c == 'T' || c == ' '

theorem all_isDateChar_of_isSeconds {text : List Char} (h : isSeconds text = true) :
    text.all isDateChar = true := by
  unfold isSeconds at h
  split at h
  · rfl
  · obtain ⟨htens, hones⟩ := isDigit_of_isTwoDigits h
    simp [isDateChar, htens, hones]
  · contradiction

theorem all_isDateChar_of_isTimeOfDay {text : List Char} (h : isTimeOfDay text = true) :
    text.all isDateChar = true := by
  unfold isTimeOfDay at h
  split at h
  · rfl
  · simp only [Bool.and_eq_true, Bool.or_eq_true, beq_iff_eq] at h
    obtain ⟨⟨⟨hseparator, hhours⟩, hminutes⟩, hseconds⟩ := h
    have hrest := all_isDateChar_of_isSeconds hseconds
    obtain ⟨hh, hh'⟩ := isDigit_of_isTwoDigits hhours
    obtain ⟨hm, hm'⟩ := isDigit_of_isTwoDigits hminutes
    rcases hseparator with rfl | rfl <;>
      simp_all [isDateChar]
  · contradiction

theorem all_isDateChar_of_isDate {text : List Char} (h : isDate text = true) :
    text.all isDateChar = true := by
  unfold isDate at h
  split at h
  · simp only [Bool.and_eq_true] at h
    obtain ⟨⟨⟨hyear, hmonth⟩, hday⟩, htime⟩ := h
    have hrest := all_isDateChar_of_isTimeOfDay htime
    obtain ⟨hm, hm'⟩ := isDigit_of_isTwoDigits hmonth
    obtain ⟨hd, hd'⟩ := isDigit_of_isTwoDigits hday
    simp_all [isDateChar]
  · contradiction

end Literal

namespace Text

/-- A text that is trimmed has nothing left to trim. -/
theorem trimChars_trimChars (cs : List Char) : trimChars (trimChars cs) = trimChars cs := by
  have hends : trimChars cs <+: cs.dropWhile isBlank := List.rdropWhile_prefix isBlank _
  have hstart : (trimChars cs).dropWhile isBlank = trimChars cs := by
    rw [List.dropWhile_eq_self_iff]
    intro hpos
    have hfirst := List.dropWhile_eq_self_iff.mp (List.dropWhile_idempotent isBlank cs)
      (Nat.lt_of_lt_of_le hpos hends.length_le)
    rwa [hends.getElem hpos]
  calc trimChars (trimChars cs)
      = ((trimChars cs).dropWhile isBlank).rdropWhile isBlank := rfl
    _ = (trimChars cs).rdropWhile isBlank := by rw [hstart]
    _ = trimChars cs := List.rdropWhile_idempotent isBlank _

/-- Every character of a text is trimmed off as a blank or is still there. -/
theorem isBlank_or_mem_trimChars {cs : List Char} {c : Char} (hc : c ∈ cs) :
    isBlank c = true ∨ c ∈ trimChars cs := by
  have hdropped (text : List Char) (hmem : c ∈ text) :
      isBlank c = true ∨ c ∈ text.dropWhile isBlank := by
    rw [← List.takeWhile_append_dropWhile (p := isBlank) (l := text)] at hmem
    rcases List.mem_append.mp hmem with htaken | hrest
    · exact Or.inl (List.mem_takeWhile_imp htaken)
    · exact Or.inr hrest
  rcases hdropped cs hc with hblank | hmem
  · exact Or.inl hblank
  · rw [trimChars, List.mem_reverse]
    exact hdropped _ (List.mem_reverse.mpr hmem)

end Text

namespace Literal

/-- The bounds of a range are trimmed. -/
theorem trimChars_of_range? {text low high : List Char} (h : range? text = some (low, high)) :
    Text.trimChars low = low ∧ Text.trimChars high = high := by
  unfold range? at h
  split at h <;> split at h <;> cases h <;>
    exact ⟨Text.trimChars_trimChars _, Text.trimChars_trimChars _⟩

end Literal

end RuleExpr
