import RuleExpr.Proofs.Characters
/-!
The language of ranges: which texts have two bounds, and which bounds those are. A literal of an ordered
type is never cut by a comma or a bracket, so such literals can be told from the text around them.
-/
namespace RuleExpr.Literal

/-- The text is two bounds with a comma between them, bare or in one pair of brackets. -/
def IsRange (text low high : List Char) : Prop :=
  text = low ++ ',' :: high ∨ text = '[' :: (low ++ ',' :: high ++ [']'])

/-- A class of characters without the comma and the brackets is within a bound. -/
theorem isBoundChar_of {p : Char → Bool} (hcomma : p ',' = false) (hopen : p '[' = false)
    (hclose : p ']' = false) {c : Char} (hc : p c = true) : isBoundChar c = true := by
  simp only [isBoundChar, Bool.and_eq_true, bne_iff_ne]
  refine ⟨⟨?_, ?_⟩, ?_⟩ <;> rintro rfl
  · exact absurd hc (by simp [hcomma])
  · exact absurd hc (by simp [hopen])
  · exact absurd hc (by simp [hclose])

/-- A bound of a range before it is trimmed. -/
structure IsBound (bound : List Char) : Prop where
  ne_nil : bound ≠ []
  boundChars : ∀ c ∈ bound, isBoundChar c = true

namespace IsBound

variable {bound rest : List Char}

theorem takeWhile_append (h : IsBound bound) (hrest : ∀ c ∈ rest.head?, isBoundChar c = false) :
    (bound ++ rest).takeWhile isBoundChar = bound := by
  rw [List.takeWhile_append_of_pos h.boundChars]
  cases rest with
  | nil => simp
  | cons c rest => rw [List.takeWhile_cons_of_neg (by simp [hrest c rfl]), List.append_nil]

theorem dropWhile_append (h : IsBound bound) (hrest : ∀ c ∈ rest.head?, isBoundChar c = false) :
    (bound ++ rest).dropWhile isBoundChar = rest := by
  rw [List.dropWhile_append_of_pos h.boundChars]
  cases rest with
  | nil => rfl
  | cons c rest => rw [List.dropWhile_cons_of_neg (by simp [hrest c rfl])]

end IsBound

theorem head?_dropWhile_isBoundChar (text : List Char) :
    ∀ c ∈ (text.dropWhile isBoundChar).head?, isBoundChar c = false := by
  intro c hc
  have hnot := List.head?_dropWhile_not isBoundChar text
  rw [Option.mem_def.mp hc] at hnot
  simpa using hnot

theorem isBound_takeWhile {text : List Char} (h : (text.takeWhile isBoundChar).isEmpty = false) :
    IsBound (text.takeWhile isBoundChar) where
  ne_nil := by
    rintro hnil
    simp [hnil] at h
  boundChars _ hc := List.mem_takeWhile_imp hc

/-- Bounds are cut at the first comma, and the second one ends where no bound goes on. -/
theorem bounds?_eq_some_iff {text low high rest : List Char} :
    bounds? text = some (low, high, rest) ↔
      IsBound low ∧ IsBound high ∧ (∀ c ∈ rest.head?, isBoundChar c = false) ∧
        text = low ++ ',' :: (high ++ rest) := by
  constructor
  · intro h
    unfold bounds? at h
    dsimp only at h
    split at h
    · rename_i tail htail
      split at h
      · contradiction
      · rename_i hempty
        simp only [Bool.or_eq_true, not_or, Bool.not_eq_true] at hempty
        cases h
        refine ⟨isBound_takeWhile hempty.1, isBound_takeWhile hempty.2,
          head?_dropWhile_isBoundChar tail, ?_⟩
        rw [List.takeWhile_append_dropWhile, ← htail, List.takeWhile_append_dropWhile]
    · contradiction
  · rintro ⟨hlow, hhigh, hrest, rfl⟩
    have hcomma : ∀ c ∈ (',' :: (high ++ rest)).head?, isBoundChar c = false := by
      intro c hc
      cases hc
      rfl
    simp [bounds?, hlow.takeWhile_append hcomma, hlow.dropWhile_append hcomma,
      hhigh.takeWhile_append hrest, hhigh.dropWhile_append hrest, hlow.ne_nil, hhigh.ne_nil]

/-- A range is two bounds of which each has a character, none of them a comma or a bracket. -/
theorem range?_eq_some_iff {text low high : List Char} :
    range? text = some (low, high) ↔
      ∃ rawLow rawHigh, IsBound rawLow ∧ IsBound rawHigh ∧ IsRange text rawLow rawHigh ∧
        low = Text.trimChars rawLow ∧ high = Text.trimChars rawHigh := by
  constructor
  · intro h
    unfold range? at h
    split at h
    · split at h
      · rename_i inner rawLow rawHigh hbounds
        obtain ⟨hlow, hhigh, -, rfl⟩ := bounds?_eq_some_iff.mp hbounds
        cases h
        exact ⟨rawLow, rawHigh, hlow, hhigh, Or.inr (by simp), rfl, rfl⟩
      · contradiction
    · split at h
      · rename_i rawLow rawHigh hbounds
        obtain ⟨hlow, hhigh, -, rfl⟩ := bounds?_eq_some_iff.mp hbounds
        cases h
        exact ⟨rawLow, rawHigh, hlow, hhigh, Or.inl (by simp), rfl, rfl⟩
      · contradiction
  · rintro ⟨rawLow, rawHigh, hlow, hhigh, rfl | rfl, rfl, rfl⟩
    · have hbounds : bounds? (rawLow ++ ',' :: rawHigh) = some (rawLow, rawHigh, []) :=
        bounds?_eq_some_iff.mpr ⟨hlow, hhigh, by simp, by simp⟩
      obtain ⟨first, rawLow, rfl⟩ := List.exists_cons_of_ne_nil hlow.ne_nil
      -- A bound does not start with a bracket, so the bare form is read as such.
      have hfirst : first ≠ '[' := by
        rintro rfl
        exact absurd (hlow.boundChars '[' (by simp)) (by decide)
      unfold range?
      split
      · rename_i heq
        exact absurd (List.cons.inj heq).1 hfirst
      · rw [hbounds]
    · have hbounds : bounds? (rawLow ++ ',' :: rawHigh ++ [']']) =
          some (rawLow, rawHigh, [']']) := by
        refine bounds?_eq_some_iff.mpr ⟨hlow, hhigh, ?_, by simp⟩
        intro c hc
        cases hc
        rfl
      simp only [range?, hbounds]

/-- What is left of a bound once it is trimmed decides whether it is one, since no blank is a comma or a
bracket. -/
theorem isBound_of_trimChars {bound : List Char} (hne : Text.trimChars bound ≠ [])
    (h : ∀ c ∈ Text.trimChars bound, isBoundChar c = true) : IsBound bound where
  ne_nil := by
    rintro rfl
    exact hne rfl
  boundChars := by
    intro c hc
    rcases Text.isBlank_or_mem_trimChars hc with hblank | hmem
    · exact isBoundChar_of rfl rfl rfl hblank
    · exact h c hmem

theorem isBound_of_isNumber {bound : List Char} (h : isNumber (Text.trimChars bound) = true) :
    IsBound bound := by
  apply isBound_of_trimChars
  · intro hnil
    simp [hnil, isNumber, isUnsigned] at h
  · intro c hc
    rcases mem_of_isNumber h hc with hdigit | rfl | rfl
    · exact isBoundChar_of rfl rfl rfl hdigit
    · rfl
    · rfl

theorem isBound_of_isDate {bound : List Char} (h : isDate (Text.trimChars bound) = true) :
    IsBound bound := by
  apply isBound_of_trimChars
  · intro hnil
    simp [hnil, isDate] at h
  · intro c hc
    exact isBoundChar_of rfl rfl rfl (List.all_eq_true.mp (all_isDateChar_of_isDate h) c hc)

end RuleExpr.Literal
