import Mathlib.Data.List.Forall2
import RuleExpr.Proofs.Grammar
import RuleExpr.Proofs.Outcome
/-!
The forms of checked operands, each by the characters that its texts are made of. A check accepts the
texts of its form and no others, it takes a path apart into names that can be put together again, and a
number or a date is written as it was accepted.
-/
namespace RuleExpr

theorem isLower_iff {c : Char} : c.isLower = true ↔ 'a' ≤ c ∧ c ≤ 'z' := by
  change (decide ('a' ≤ c) && decide (c ≤ 'z')) = true ↔ _
  rw [Bool.and_eq_true, decide_eq_true_iff, decide_eq_true_iff]

namespace Path

/-- A letter of the ASCII alphabet. -/
def IsLetter (c : Char) : Prop :=
  'a' ≤ c ∧ c ≤ 'z' ∨ 'A' ≤ c ∧ c ≤ 'Z'

/-- A letter or an underscore, and then letters, digits and underscores. -/
inductive IsName : List Char → Prop
  | name {first : Char} {rest : List Char} : IsLetter first ∨ first = '_' →
      (∀ c ∈ rest, IsLetter c ∨ c.isDigit = true ∨ c = '_') → IsName (first :: rest)

theorem isAlpha_iff {c : Char} : c.isAlpha = true ↔ IsLetter c := by
  have hupper : c.isUpper = true ↔ 'A' ≤ c ∧ c ≤ 'Z' := decide_eq_true_iff
  change (c.isUpper || c.isLower) = true ↔ _
  rw [Bool.or_eq_true, hupper, isLower_iff]
  exact or_comm

theorem isIdentifier_iff {text : List Char} : isIdentifier text = true ↔ IsName text := by
  constructor
  · intro h
    cases text with
    | nil => cases h
    | cons first rest =>
        simp only [isIdentifier, isIdentifierStart, isIdentifierRest, Char.isAlphanum,
          Bool.and_eq_true, Bool.or_eq_true, beq_iff_eq, List.all_eq_true, isAlpha_iff, or_assoc] at h
        exact .name h.1 h.2
  · rintro ⟨hfirst, hrest⟩
    simp only [isIdentifier, isIdentifierStart, isIdentifierRest, Char.isAlphanum,
      Bool.and_eq_true, Bool.or_eq_true, beq_iff_eq, List.all_eq_true, isAlpha_iff, or_assoc]
    exact ⟨hfirst, hrest⟩

/-- A path is taken apart into the names that it joins, and there is no other way to join it. -/
theorem segments?_eq_some_iff {text : List Char} {segments : List (List Char)} :
    segments? text = some segments ↔
      segments ≠ [] ∧ (∀ segment ∈ segments, IsName segment) ∧
        text = ['.'].intercalate segments := by
  have hnames (names : List (List Char)) :
      names.all isIdentifier = true ↔ ∀ name ∈ names, IsName name := by
    simp only [List.all_eq_true, isIdentifier_iff]
  rw [segments?, Option.ite_none_right_eq_some, hnames]
  constructor
  · rintro ⟨hparts, hsegments⟩
    cases hsegments
    exact ⟨parts_ne_nil text, hparts, (intercalate_parts text).symm⟩
  · rintro ⟨hne, hsegments, rfl⟩
    have hparts : parts (['.'].intercalate segments) = segments := by
      apply parts_intercalate hne
      intro segment hmem
      exact isIdentifier_iff.mpr (hsegments segment hmem)
    rw [hparts]
    exact ⟨hsegments, rfl⟩

end Path

namespace Literal

/-- The text is the word, with any of its letters capital. -/
def SpellsInAnyCase (word text : List Char) : Prop :=
  List.Forall₂ (fun letter c => c = letter ∨ c = letter.toUpper) word text

theorem toNat_toLower (c : Char) :
    c.toLower.toNat = if 65 ≤ c.toNat ∧ c.toNat ≤ 90 then c.toNat + 32 else c.toNat := by
  have hlow : c.val ≥ 'A'.val ↔ 65 ≤ c.toNat := UInt32.le_iff_toNat_le
  have hhigh : c.val ≤ 'Z'.val ↔ c.toNat ≤ 90 := UInt32.le_iff_toNat_le
  unfold Char.toLower
  simp only [hlow, hhigh]
  split
  · rename_i hcapital
    have hval : c.val.toNat ≤ 90 := hcapital.2
    change (c.val + 32).toNat = c.val.toNat + 32
    rw [UInt32.toNat_add]
    exact Nat.mod_eq_of_lt (by change c.val.toNat + 32 < _; omega)
  · rfl

theorem range_of_isLower {letter : Char} (hletter : letter.isLower = true) :
    97 ≤ letter.toNat ∧ letter.toNat ≤ 122 :=
  isLower_iff.mp hletter

theorem toNat_toUpper {letter : Char} (hletter : letter.isLower = true) :
    letter.toUpper.toNat = letter.toNat - 32 := by
  have hsmall : 'a'.val ≤ letter.val ∧ letter.val ≤ 'z'.val := isLower_iff.mp hletter
  have hrange : 97 ≤ letter.val.toNat ∧ letter.val.toNat ≤ 122 := range_of_isLower hletter
  unfold Char.toUpper
  rw [dif_pos hsmall]
  change (letter.val + ('A'.val - 'a'.val)).toNat = letter.val.toNat - 32
  -- The difference is negative, and is added modulo the width of a character.
  rw [UInt32.toNat_add]
  change (letter.val.toNat + 4294967264) % 4294967296 = _
  omega

/-- What is put in small letters was a small letter or is its capital. -/
theorem toLower_eq_iff {c letter : Char} (hletter : letter.isLower = true) :
    c.toLower = letter ↔ c = letter ∨ c = letter.toUpper := by
  have hrange := range_of_isLower hletter
  simp only [← Char.toNat_inj, toNat_toLower, toNat_toUpper hletter]
  split <;> omega

theorem map_toLower_eq_iff {word text : List Char} (hword : word.all Char.isLower = true) :
    text.map Char.toLower = word ↔ SpellsInAnyCase word text := by
  induction word generalizing text with
  | nil => simp [SpellsInAnyCase]
  | cons letter word ih =>
      rw [List.all_cons, Bool.and_eq_true] at hword
      obtain ⟨hletter, hword⟩ := hword
      cases text with
      | nil => simp [SpellsInAnyCase]
      | cons c text =>
          rw [List.map_cons, List.cons.injEq, toLower_eq_iff hletter, ih hword, SpellsInAnyCase,
            SpellsInAnyCase, List.forall₂_cons]

theorem boolean?_eq_some_iff_spells {text : List Char} {value : Bool} :
    boolean? text = some value ↔ SpellsInAnyCase (booleanText value).toList text := by
  rw [boolean?_eq_some_iff]
  apply map_toLower_eq_iff
  cases value <;> rfl

end Literal

/-- Every check accepts the texts of its form and no others. What it makes of an accepted text is the
names that a path joins, the truth value that is spelled, and otherwise the text itself. -/
theorem checks_accept_forms :
    (∀ (text : String) (segments : List (List Char)),
      Path.segments? text.toList = some segments ↔
        segments ≠ [] ∧ (∀ segment ∈ segments, Path.IsName segment) ∧
          text.toList = ['.'].intercalate segments) ∧
    (∀ text : String, Literal.isNumber text.toList = true ↔ Literal.IsDecimal text.toList) ∧
    (∀ text : String, Literal.isDate text.toList = true ↔ Literal.IsDay text.toList) ∧
    (∀ (text : String) (value : Bool), Literal.boolean? text.toList = some value ↔
      Literal.SpellsInAnyCase (Literal.booleanText value).toList text.toList) ∧
    (∀ (target : Target) (c : Condition) (operand text : String),
      (target.literal c .numeric operand = .ok text ↔
        Literal.IsDecimal (Text.trim operand).toList ∧ text = Text.trim operand) ∧
      (target.literal c .date operand = .ok text ↔
        Literal.IsDay (Text.trim operand).toList ∧
          text = target.dialect.date (Text.quoted (Text.trim operand)))) := by
  refine ⟨fun _ _ => Path.segments?_eq_some_iff, fun _ => Literal.isNumber_iff,
    fun _ => Literal.isDate_iff, fun _ _ => Literal.boolean?_eq_some_iff_spells, ?_⟩
  intro target c operand text
  rw [Target.literal_eq_ok_iff, Target.literal_eq_ok_iff, Literal.isNumber_iff, Literal.isDate_iff]
  exact ⟨Iff.rfl, Iff.rfl⟩

end RuleExpr
