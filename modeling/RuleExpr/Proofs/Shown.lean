import Mathlib.Data.List.Basic
import RuleExpr.Text.Shown
/-!
Shown values are told apart. Whatever characters are hidden, each character is shown in a way of its
own, and a quote that is shown never looks like the one at the end. So a line that starts with a shown
value tells the value and where it ends.
-/
namespace RuleExpr.Text

/-- A line that starts with the text of an item tells the item, and where its text ends. -/
def PrefixFree {α : Type} (text : α → List Char) : Prop :=
  ∀ ⦃item other : α⦄ ⦃rest otherRest : List Char⦄,
    text item ++ rest = text other ++ otherRest → item = other ∧ rest = otherRest

/-- A text in front of a mark that it does not contain ends where the mark first stands. -/
theorem append_mark_inj {mark : Char} {text other rest otherRest : List Char} (htext : mark ∉ text)
    (hother : mark ∉ other) (h : text ++ mark :: rest = other ++ mark :: otherRest) :
    text = other ∧ rest = otherRest := by
  induction text generalizing other with
  | nil =>
      cases other with
      | nil => exact ⟨rfl, List.tail_eq_of_cons_eq h⟩
      | cons c other => exact absurd (List.head_eq_of_cons_eq h) (List.ne_of_not_mem_cons hother)
  | cons c text ih =>
      cases other with
      | nil => exact absurd (List.head_eq_of_cons_eq h).symm (List.ne_of_not_mem_cons htext)
      | cons d other =>
          obtain ⟨rfl, hlater⟩ := List.cons.inj h
          obtain ⟨rfl, hrest⟩ := ih (List.not_mem_of_not_mem_cons htext)
            (List.not_mem_of_not_mem_cons hother) hlater
          exact ⟨rfl, hrest⟩

theorem digitChar_inj : ∀ digit < 16, ∀ other < 16,
    Nat.digitChar digit = Nat.digitChar other → digit = other := by
  decide

/-- Hexadecimal digits tell the number that they belong to. -/
theorem toDigits_inj {number other : Nat} (h : Nat.toDigits 16 number = Nat.toDigits 16 other) :
    number = other := by
  induction number using Nat.strongRecOn generalizing other with
  | ind number ih =>
      rw [Nat.toDigits_eq_if (by decide), Nat.toDigits_eq_if (n := other) (by decide)] at h
      split at h <;> split at h
      case isTrue.isTrue hsmall hother =>
          exact digitChar_inj number hsmall other hother (List.singleton_inj.mp h)
      case isFalse.isFalse hlarge hother =>
          obtain ⟨hhigh, hlow⟩ := List.append_inj' h rfl
          have hdiv : number / 16 = other / 16 := ih (number / 16) (by omega) hhigh
          have hmod : number % 16 = other % 16 :=
            digitChar_inj _ (Nat.mod_lt _ (by decide)) _ (Nat.mod_lt _ (by decide))
              (List.singleton_inj.mp hlow)
          omega
      -- One digit on one side only: there are further digits before the last one on the other side.
      all_goals
        have hlength := congrArg List.length h
        have hpos : ∀ n, 0 < (Nat.toDigits 16 n).length := fun _ => Nat.length_toDigits_pos
        grind

theorem brace_not_mem_toDigits (number : Nat) : '}' ∉ Nat.toDigits 16 number := by
  induction number using Nat.strongRecOn with
  | ind number ih =>
      have hdigit (digit : Nat) : '}' ≠ digit.digitChar := (Nat.digitChar_ne '}' (by decide)).symm
      rw [Nat.toDigits_eq_if (by decide)]
      split
      case isTrue => simp [hdigit]
      case isFalse hlarge => simp [hdigit, ih (number / 16) (by omega)]

/-- The character that a letter behind a backslash stands for. -/
def named? : Char → Option Char
  | '0' => some '\x00'
  | 't' => some '\t'
  | 'r' => some '\r'
  | 'n' => some '\n'
  | '"' => some '"'
  | '\\' => some '\\'
  | _ => none

/-- A line starts with a character as it is shown, and goes on with the rest. -/
inductive Shows : List Char → Char → List Char → Prop
  | plain {c : Char} {rest : List Char} : c ≠ '"' → c ≠ '\\' → Shows (c :: rest) c rest
  | named {letter c : Char} {rest : List Char} : named? letter = some c →
      Shows ('\\' :: letter :: rest) c rest
  | codePoint {c : Char} {digits rest : List Char} :
      digits = Nat.toDigits 16 c.toNat ++ '}' :: rest →
        Shows ('\\' :: 'u' :: '{' :: digits) c rest

theorem shows_shownChar (hidden : Char → Bool) (c : Char) (rest : List Char) :
    Shows (shownChar hidden c ++ rest) c rest := by
  unfold shownChar
  split
  case h_7 c _ _ _ _ hquote hslash =>
      split
      case isTrue => exact .codePoint (by simp)
      case isFalse => exact .plain hquote hslash
  all_goals exact .named rfl

theorem Shows.unique {line rest otherRest : List Char} {c other : Char} (h : Shows line c rest)
    (hother : Shows line other otherRest) : c = other ∧ rest = otherRest := by
  cases h with
  | plain hquote hslash =>
      cases hother with
      | plain => exact ⟨rfl, rfl⟩
      | named | codePoint => exact absurd rfl hslash
  | @named letter _ _ hletter =>
      cases hother with
      | plain _ hslash => exact absurd rfl hslash
      | named hotherLetter => exact ⟨Option.some.inj (hletter.symm.trans hotherLetter), rfl⟩
      | codePoint => cases hletter
  | codePoint hdigits =>
      cases hother with
      | plain _ hslash => exact absurd rfl hslash
      | named hotherLetter => cases hotherLetter
      | codePoint hotherDigits =>
          obtain ⟨hnumber, hrest⟩ := append_mark_inj (brace_not_mem_toDigits _)
            (brace_not_mem_toDigits _) (hdigits.symm.trans hotherDigits)
          exact ⟨Char.toNat_inj.mp (toDigits_inj hnumber), hrest⟩

/-- No character is shown as the quote at the end is. -/
theorem Shows.ne_quote {line rest : List Char} {c : Char} (h : Shows line c rest)
    (later : List Char) : line ≠ '"' :: later := by
  rintro rfl
  cases h with
  | plain hquote => exact hquote rfl

theorem flatMap_shownChar_inj {hidden : Char → Bool} {value other rest otherRest : List Char}
    (h : value.flatMap (shownChar hidden) ++ '"' :: rest =
      other.flatMap (shownChar hidden) ++ '"' :: otherRest) :
    value = other ∧ rest = otherRest := by
  induction value generalizing other with
  | nil =>
      cases other with
      | nil => exact ⟨rfl, List.tail_eq_of_cons_eq h⟩
      | cons d other =>
          rw [List.flatMap_cons, List.append_assoc] at h
          exact absurd h.symm ((shows_shownChar hidden d _).ne_quote _)
  | cons c value ih =>
      rw [List.flatMap_cons, List.append_assoc] at h
      cases other with
      | nil => exact absurd h ((shows_shownChar hidden c _).ne_quote _)
      | cons d other =>
          rw [List.flatMap_cons, List.append_assoc] at h
          have hfirst := shows_shownChar hidden c (value.flatMap (shownChar hidden) ++ '"' :: rest)
          rw [h] at hfirst
          obtain ⟨rfl, hlater⟩ := hfirst.unique (shows_shownChar hidden d _)
          obtain ⟨rfl, hrest⟩ := ih hlater
          exact ⟨rfl, hrest⟩

/-- A shown value is recovered from any line that starts with it, whatever characters are hidden. -/
theorem prefixFree_shownChars (hidden : Char → Bool) : PrefixFree (shownChars hidden) := by
  intro value other rest otherRest h
  have hinside : value.flatMap (shownChar hidden) ++ '"' :: rest =
      other.flatMap (shownChar hidden) ++ '"' :: otherRest := by
    simpa [shownChars] using h
  exact flatMap_shownChar_inj hinside

end RuleExpr.Text
