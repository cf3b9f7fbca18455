import Mathlib.Tactic.IntervalCases
import RuleExpr.Proofs.Characters
/-!
The grammars of paths and literals, each as what its texts are made of. A check accepts exactly the texts
of its grammar.
-/
namespace RuleExpr

namespace Path

/-- The text is one or more identifiers with single dots between them. -/
def IsDotted (text : List Char) : Prop :=
  ∃ identifiers : List (List Char), identifiers ≠ [] ∧
    (∀ identifier ∈ identifiers, isIdentifier identifier = true) ∧
      text = ['.'].intercalate identifiers

theorem intercalate_parts (text : List Char) : ['.'].intercalate (parts text) = text := by
  induction text with
  | nil => rfl
  | cons c text ih =>
      by_cases hdot : c = '.'
      · obtain ⟨part, rest, hparts⟩ := List.exists_cons_of_ne_nil (parts_ne_nil text)
        rw [parts, if_pos hdot, hparts, hdot]
        rw [hparts] at ih
        simpa using ih
      · obtain ⟨part, rest, htext, hparts⟩ := parts_cons hdot text
        rw [hparts]
        rw [htext] at ih
        cases rest with
        | nil => simpa using ih
        | cons next rest => simpa using ih

theorem dot_not_mem_of_isIdentifier {part : List Char} (h : isIdentifier part = true) :
    '.' ∉ part := by
  intro hdot
  exact absurd (mem_of_isIdentifier h hdot) (by decide)

theorem parts_append_of_not_mem {part : List Char} (h : '.' ∉ part) (text : List Char) :
    ∃ first rest, parts text = first :: rest ∧
      parts (part ++ text) = (part ++ first) :: rest := by
  induction part with
  | nil =>
      obtain ⟨first, rest, hparts⟩ := List.exists_cons_of_ne_nil (parts_ne_nil text)
      exact ⟨first, rest, hparts, hparts⟩
  | cons c part ih =>
      obtain ⟨hdot, hpart⟩ := not_or.mp (fun hmem => h (List.mem_cons.mpr hmem))
      obtain ⟨first, rest, htext, hparts⟩ := ih hpart
      obtain ⟨first', rest', hsame, hcons⟩ := parts_cons (Ne.symm hdot) (part ++ text)
      rw [hparts] at hsame
      cases hsame
      exact ⟨first, rest, htext, hcons⟩

/-- Identifiers have no dots, so that joining them can be undone. -/
theorem parts_intercalate {identifiers : List (List Char)} (hne : identifiers ≠ [])
    (h : ∀ identifier ∈ identifiers, isIdentifier identifier = true) :
    parts (['.'].intercalate identifiers) = identifiers := by
  induction identifiers with
  | nil => exact absurd rfl hne
  | cons first rest ih =>
      have hfirst := dot_not_mem_of_isIdentifier (h first (by simp))
      cases rest with
      | nil =>
          obtain ⟨part, parts', hnil, hparts⟩ := parts_append_of_not_mem hfirst []
          cases hnil
          simpa using hparts
      | cons second rest =>
          have hrest := ih (by simp) fun identifier hmem =>
            h identifier (List.mem_cons_of_mem first hmem)
          obtain ⟨part, parts', hdot, hparts⟩ := parts_append_of_not_mem hfirst
            ('.' :: ['.'].intercalate (second :: rest))
          rw [parts, if_pos rfl, hrest] at hdot
          cases hdot
          simpa using hparts

theorem isPath_iff_isDotted {text : String} : isPath text = true ↔ IsDotted text.toList := by
  rw [isPath_iff, List.all_eq_true]
  constructor
  · intro h
    exact ⟨parts text.toList, parts_ne_nil _, h, (intercalate_parts _).symm⟩
  · rintro ⟨identifiers, hne, hidentifiers, htext⟩
    rwa [htext, parts_intercalate hne hidentifiers]

end Path

namespace Literal

/-! ## Numbers -/

/-- Digits without a leading zero. -/
inductive IsWhole : List Char → Prop
  | zero : IsWhole ['0']
  | digits {first : Char} {rest : List Char} : first.isDigit = true → first ≠ '0' →
      (∀ c ∈ rest, c.isDigit = true) → IsWhole (first :: rest)

/-- A point and digits, or nothing at all. -/
inductive IsFractional : List Char → Prop
  | none : IsFractional []
  | digits {digits : List Char} : digits ≠ [] → (∀ c ∈ digits, c.isDigit = true) →
      IsFractional ('.' :: digits)

/-- Decimal numbers. -/
inductive IsDecimal : List Char → Prop
  | bare {whole fraction : List Char} : IsWhole whole → IsFractional fraction →
      IsDecimal (whole ++ fraction)
  | negative {whole fraction : List Char} : IsWhole whole → IsFractional fraction →
      IsDecimal ('-' :: (whole ++ fraction))

theorem isFraction_iff {text : List Char} : isFraction text = true ↔ IsFractional text := by
  constructor
  · intro h
    unfold isFraction at h
    split at h
    · exact .none
    · simp only [Bool.and_eq_true, Bool.not_eq_true', List.isEmpty_eq_false_iff,
        List.all_eq_true] at h
      exact .digits h.1 h.2
    · contradiction
  · rintro (_ | ⟨hne, hdigits⟩)
    · rfl
    · simpa [isFraction, hne] using hdigits

theorem isUnsigned_iff {text : List Char} :
    isUnsigned text = true ↔
      ∃ whole fraction, IsWhole whole ∧ IsFractional fraction ∧ text = whole ++ fraction := by
  constructor
  · intro h
    unfold isUnsigned at h
    split at h
    · contradiction
    · exact ⟨['0'], _, .zero, isFraction_iff.mp h, rfl⟩
    · rename_i first rest hzero
      rw [Bool.and_eq_true] at h
      refine ⟨first :: rest.takeWhile Char.isDigit, rest.dropWhile Char.isDigit,
        .digits h.1 ?_ fun c hc => List.mem_takeWhile_imp hc, isFraction_iff.mp h.2, by simp⟩
      rintro rfl
      exact hzero rfl
  · rintro ⟨whole, fraction, hwhole, hfraction, rfl⟩
    have hpoint : ∀ c ∈ fraction.head?, c.isDigit = false := by
      intro c hc
      cases hfraction with
      | none => cases hc
      | digits => cases hc; rfl
    cases hwhole with
    | zero => exact isFraction_iff.mpr hfraction
    | @digits first rest hfirst hzero hrest =>
        have hdrop : (rest ++ fraction).dropWhile Char.isDigit = fraction := by
          rw [List.dropWhile_append_of_pos hrest]
          cases fraction with
          | nil => rfl
          | cons c fraction => rw [List.dropWhile_cons_of_neg (by simp [hpoint c rfl])]
        unfold isUnsigned
        split
        · simp_all
        · rename_i heq
          exact absurd (List.cons.inj heq).1 hzero
        · rename_i heq
          cases heq
          change (first.isDigit && isFraction ((rest ++ fraction).dropWhile Char.isDigit)) = true
          rw [hdrop, hfirst, isFraction_iff.mpr hfraction]
          rfl

theorem isNumber_iff {text : List Char} : isNumber text = true ↔ IsDecimal text := by
  constructor
  · intro h
    unfold isNumber at h
    split at h
    · obtain ⟨whole, fraction, hwhole, hfraction, rfl⟩ := isUnsigned_iff.mp h
      exact .negative hwhole hfraction
    · obtain ⟨whole, fraction, hwhole, hfraction, rfl⟩ := isUnsigned_iff.mp h
      exact .bare hwhole hfraction
  · rintro (⟨hwhole, hfraction⟩ | ⟨hwhole, hfraction⟩)
    · unfold isNumber
      split
      · rename_i rest heq
        cases hwhole with
        | zero => cases heq
        | digits hfirst =>
            cases heq
            contradiction
      · exact isUnsigned_iff.mpr ⟨_, _, hwhole, hfraction, rfl⟩
    · exact isUnsigned_iff.mpr ⟨_, _, hwhole, hfraction, rfl⟩

/-! ## Dates -/

/-- A number from `low` to `high` in two digits. -/
inductive IsTwoPlace (low high : Nat) : List Char → Prop
  | places (n : Nat) : low ≤ n → n ≤ high →
      IsTwoPlace low high [Nat.digitChar (n / 10), Nat.digitChar (n % 10)]

/-- A time of day, with or without seconds, or nothing at all. -/
inductive IsTime : List Char → Prop
  | none : IsTime []
  | minutes {separator : Char} {hour minute : List Char} : separator = 'T' ∨ separator = ' ' →
      IsTwoPlace 0 23 hour → IsTwoPlace 0 59 minute →
        IsTime (separator :: (hour ++ ':' :: minute))
  | seconds {separator : Char} {hour minute second : List Char} :
      separator = 'T' ∨ separator = ' ' → IsTwoPlace 0 23 hour → IsTwoPlace 0 59 minute →
        IsTwoPlace 0 59 second →
          IsTime (separator :: (hour ++ ':' :: (minute ++ ':' :: second)))

/-- A year in four digits, a month, a day, and perhaps a time of day. -/
inductive IsDay : List Char → Prop
  | day {year month day time : List Char} : year.length = 4 → (∀ c ∈ year, c.isDigit = true) →
      IsTwoPlace 1 12 month → IsTwoPlace 1 31 day → IsTime time →
        IsDay (year ++ '-' :: (month ++ '-' :: (day ++ time)))

theorem digitChar_of_isDigit {c : Char} (h : c.isDigit = true) :
    c.toNat - 48 < 10 ∧ Nat.digitChar (c.toNat - 48) = c := by
  have hrange : 48 ≤ c.toNat ∧ c.toNat ≤ 57 := by
    simpa [Char.isDigit, UInt32.le_iff_toNat_le] using h
  refine ⟨by omega, Char.toNat_inj.mp ?_⟩
  rw [Nat.toNat_digitChar_of_lt_ten (by omega)]
  omega

theorem isDigit_digitChar {n : Nat} (h : n < 10) : (Nat.digitChar n).isDigit = true := by
  interval_cases n <;> rfl

theorem isTwoDigits_iff {low high : Nat} (hhigh : high < 100) {tens ones : Char} :
    isTwoDigits low high tens ones = true ↔ IsTwoPlace low high [tens, ones] := by
  simp only [isTwoDigits, Bool.and_eq_true, decide_eq_true_eq, Char.reduceToNat]
  constructor
  · rintro ⟨⟨htens, hones⟩, hlow, hle⟩
    obtain ⟨htens, htensChar⟩ := digitChar_of_isDigit htens
    obtain ⟨hones, honesChar⟩ := digitChar_of_isDigit hones
    have hplaces := IsTwoPlace.places (10 * (tens.toNat - 48) + (ones.toNat - 48)) hlow hle
    have hdiv : (10 * (tens.toNat - 48) + (ones.toNat - 48)) / 10 = tens.toNat - 48 := by omega
    have hmod : (10 * (tens.toNat - 48) + (ones.toNat - 48)) % 10 = ones.toNat - 48 := by omega
    rwa [hdiv, hmod, htensChar, honesChar] at hplaces
  · rintro ⟨n, hlow, hle⟩
    have htens : n / 10 < 10 := by omega
    have hones : n % 10 < 10 := by omega
    rw [Nat.toNat_digitChar_of_lt_ten htens, Nat.toNat_digitChar_of_lt_ten hones]
    exact ⟨⟨isDigit_digitChar htens, isDigit_digitChar hones⟩, by omega, by omega⟩

theorem IsTwoPlace.exists_eq {low high : Nat} {text : List Char} (h : IsTwoPlace low high text) :
    ∃ tens ones, text = [tens, ones] := by
  cases h with
  | places n => exact ⟨_, _, rfl⟩

theorem isTimeOfDay_iff {text : List Char} : isTimeOfDay text = true ↔ IsTime text := by
  constructor
  · intro h
    unfold isTimeOfDay at h
    split at h
    · exact .none
    · simp only [Bool.and_eq_true, Bool.or_eq_true, beq_iff_eq] at h
      obtain ⟨⟨⟨hseparator, hhour⟩, hminute⟩, hseconds⟩ := h
      have hhour := (isTwoDigits_iff (by omega)).mp hhour
      have hminute := (isTwoDigits_iff (by omega)).mp hminute
      unfold isSeconds at hseconds
      split at hseconds
      · exact .minutes hseparator hhour hminute
      · exact .seconds hseparator hhour hminute ((isTwoDigits_iff (by omega)).mp hseconds)
      · contradiction
    · contradiction
  · rintro (_ | ⟨hseparator, hhour, hminute⟩ | ⟨hseparator, hhour, hminute, hsecond⟩)
    · rfl
    · obtain ⟨h, h', rfl⟩ := hhour.exists_eq
      obtain ⟨m, m', rfl⟩ := hminute.exists_eq
      simpa [isTimeOfDay, isSeconds, (isTwoDigits_iff (by omega)).mpr hhour,
        (isTwoDigits_iff (by omega)).mpr hminute] using hseparator
    · obtain ⟨h, h', rfl⟩ := hhour.exists_eq
      obtain ⟨m, m', rfl⟩ := hminute.exists_eq
      obtain ⟨s, s', rfl⟩ := hsecond.exists_eq
      simpa [isTimeOfDay, isSeconds, (isTwoDigits_iff (by omega)).mpr hhour,
        (isTwoDigits_iff (by omega)).mpr hminute,
        (isTwoDigits_iff (by omega)).mpr hsecond] using hseparator

theorem isDate_iff {text : List Char} : isDate text = true ↔ IsDay text := by
  constructor
  · intro h
    unfold isDate at h
    split at h
    · rename_i y y' y'' y''' m m' d d' rest
      simp only [Bool.and_eq_true, List.all_eq_true] at h
      obtain ⟨⟨⟨hyear, hmonth⟩, hday⟩, htime⟩ := h
      exact IsDay.day (by rfl) hyear ((isTwoDigits_iff (by omega)).mp hmonth)
        ((isTwoDigits_iff (by omega)).mp hday) (isTimeOfDay_iff.mp htime)
    · contradiction
  · rintro ⟨hlength, hyear, hmonth, hday, htime⟩
    rename_i year month day time
    obtain ⟨m, m', rfl⟩ := hmonth.exists_eq
    obtain ⟨d, d', rfl⟩ := hday.exists_eq
    match year, hlength with
    | [y, y', y'', y'''], _ =>
        simp only [List.cons_append, List.nil_append, isDate, Bool.and_eq_true, List.all_eq_true]
        exact ⟨⟨⟨hyear, (isTwoDigits_iff (by omega)).mpr hmonth⟩,
          (isTwoDigits_iff (by omega)).mpr hday⟩, isTimeOfDay_iff.mpr htime⟩

/-! ## Truth values -/

/-- A truth value is its name, in small or large ASCII letters. -/
theorem boolean?_eq_some_iff {text : List Char} {value : Bool} :
    boolean? text = some value ↔ text.map Char.toLower = (booleanText value).toList := by
  simp only [boolean?]
  split
  · rename_i hlower
    rw [hlower]
    cases value <;> decide
  · split
    · rename_i hlower
      rw [hlower]
      cases value <;> decide
    · cases value <;> simp_all [booleanText]

end Literal

end RuleExpr
