import RuleExpr.Proofs.Ranges
/-!
The calendar. The parts of a date are checked one by one, and a day is checked against the longest month
there is. So of the dates that are accepted all exist but those past the end of a shorter month, and these
are accepted like any other.
-/
namespace RuleExpr

/-- Nothing is trimmed off a text without blanks. -/
theorem Text.trimChars_eq_self {cs : List Char} (h : ∀ c ∈ cs, isBlank c = false) :
    trimChars cs = cs := by
  have hdrop (text : List Char) (htext : ∀ c ∈ text, isBlank c = false) :
      text.dropWhile isBlank = text := by
    cases text with
    | nil => rfl
    | cons c text => rw [List.dropWhile_cons_of_neg (by simp [htext c])]
  rw [trimChars, hdrop cs h, hdrop cs.reverse (by simpa using h), List.reverse_reverse]

/-- A year, a month and a day, whether or not there is such a day. -/
structure Date where
  year : Nat
  month : Nat
  day : Nat
  deriving DecidableEq, Repr

namespace Date

/-- Every fourth year is a leap year, but of the full centuries only every fourth. -/
def isLeap (year : Nat) : Bool :=
  year % 4 == 0 && (year % 100 != 0 || year % 400 == 0)

/-- The number of days that a month of the Gregorian calendar has. -/
def daysIn (year month : Nat) : Nat :=
  if month = 2 then
    if isLeap year then 29 else 28
  else if month = 4 ∨ month = 6 ∨ month = 9 ∨ month = 11 then 30
  else 31

/-- There is such a day in the Gregorian calendar. -/
structure Exists (date : Date) : Prop where
  month_pos : 1 ≤ date.month
  month_le : date.month ≤ 12
  day_pos : 1 ≤ date.day
  day_le : date.day ≤ daysIn date.year date.month

/-- Month and day are numbers that some month and some day have. -/
structure IsPlausible (date : Date) : Prop where
  month_pos : 1 ≤ date.month
  month_le : date.month ≤ 12
  day_pos : 1 ≤ date.day
  day_le : date.day ≤ 31

/-- The date is a 31st of a month with 30 days, a 30th or 31st of February, or a 29th of February in a year
that is no leap year. -/
def IsPastEnd (date : Date) : Prop :=
  date.day = 31 ∧ (date.month = 4 ∨ date.month = 6 ∨ date.month = 9 ∨ date.month = 11) ∨
    date.month = 2 ∧ (date.day = 30 ∨ date.day = 31 ∨ date.day = 29 ∧ isLeap date.year = false)

theorem IsPlausible.exists_iff {date : Date} (h : date.IsPlausible) :
    date.Exists ↔ ¬ date.IsPastEnd := by
  obtain ⟨year, month, day⟩ := date
  obtain ⟨hmonth, hmonthLe, hday, hdayLe⟩ := h
  have hexists : Exists ⟨year, month, day⟩ ↔ day ≤ daysIn year month :=
    ⟨Exists.day_le, fun hle => ⟨hmonth, hmonthLe, hday, hle⟩⟩
  rw [hexists]
  dsimp only [IsPastEnd, daysIn] at hmonth hmonthLe hday hdayLe ⊢
  cases isLeap year with
  | true =>
      simp only [if_true, reduceCtorEq, and_false, or_false]
      split_ifs <;> omega
  | false =>
      simp only [Bool.false_eq_true, if_false, and_true]
      split_ifs <;> omega

example : ((List.range 400).map fun year =>
    ((List.range 12).map fun month => daysIn year (month + 1)).sum).sum = 146097 := by
  decide +kernel

/-! ## Dates in texts -/

/-- The number that digits spell. -/
def number (digits : List Char) : Nat :=
  digits.foldl (fun n c => 10 * n + (c.toNat - '0'.toNat)) 0

/-- The year, the month and the day that a text starts with. -/
def read? : List Char → Option Date
  | y :: y' :: y'' :: y''' :: '-' :: m :: m' :: '-' :: d :: d' :: _ =>
      some ⟨number [y, y', y'', y'''], number [m, m'], number [d, d']⟩
  | _ => none

/-- The date in four digits, two digits and two digits. -/
def text (date : Date) : List Char :=
  [Nat.digitChar (date.year / 1000), Nat.digitChar (date.year / 100 % 10),
    Nat.digitChar (date.year / 10 % 10), Nat.digitChar (date.year % 10), '-',
    Nat.digitChar (date.month / 10), Nat.digitChar (date.month % 10), '-',
    Nat.digitChar (date.day / 10), Nat.digitChar (date.day % 10)]

theorem number_two (tens ones : Char) :
    number [tens, ones] = 10 * (tens.toNat - '0'.toNat) + (ones.toNat - '0'.toNat) := by
  simp [number]

/-- A text that is accepted as a date starts with a plausible one. -/
theorem exists_read?_of_isDate {text : List Char} (h : Literal.isDate text = true) :
    ∃ date, read? text = some date ∧ date.IsPlausible := by
  unfold Literal.isDate at h
  split at h
  · simp only [Literal.isTwoDigits, Bool.and_eq_true, decide_eq_true_eq, ← number_two] at h
    obtain ⟨⟨⟨-, -, hmonth, hmonthLe⟩, -, hday, hdayLe⟩, -⟩ := h
    exact ⟨_, rfl, hmonth, hmonthLe, hday, hdayLe⟩
  · contradiction

theorem toNat_digitChar_sub {n : Nat} (h : n < 10) : (Nat.digitChar n).toNat - '0'.toNat = n := by
  rw [Nat.toNat_digitChar_of_lt_ten h]
  change 48 + n - 48 = n
  omega

variable {date : Date}

/-- Numbers that have enough places are read back. -/
theorem read?_text (hyear : date.year < 10000) (hdate : date.IsPlausible) :
    read? date.text = some date := by
  obtain ⟨year, month, day⟩ := date
  obtain ⟨-, hmonth, -, hday⟩ := hdate
  dsimp only at hyear hmonth hday
  simp only [read?, text, number, List.foldl_cons, List.foldl_nil]
  rw [toNat_digitChar_sub (by omega), toNat_digitChar_sub (by omega),
    toNat_digitChar_sub (by omega), toNat_digitChar_sub (by omega),
    toNat_digitChar_sub (by omega), toNat_digitChar_sub (by omega),
    toNat_digitChar_sub (by omega), toNat_digitChar_sub (by omega)]
  congr 2 <;> omega

/-- Every plausible date is accepted. -/
theorem isDate_text (hyear : date.year < 10000) (hdate : date.IsPlausible) :
    Literal.isDate date.text = true := by
  have hmonth : Literal.IsTwoPlace 1 12 [Nat.digitChar (date.month / 10), _] :=
    .places date.month hdate.month_pos hdate.month_le
  have hday : Literal.IsTwoPlace 1 31 [Nat.digitChar (date.day / 10), _] :=
    .places date.day hdate.day_pos hdate.day_le
  apply Literal.isDate_iff.mpr
  refine @Literal.IsDay.day [_, _, _, _] _ _ [] rfl ?_ hmonth hday .none
  simp only [List.forall_mem_cons]
  exact ⟨Literal.isDigit_digitChar (by omega), Literal.isDigit_digitChar (by omega),
    Literal.isDigit_digitChar (by omega), Literal.isDigit_digitChar (by omega), by simp⟩

theorem isBlank_digitChar {n : Nat} (h : n < 10) : Text.isBlank (Nat.digitChar n) = false := by
  interval_cases n <;> rfl

/-- There are no blanks in a date without a time. -/
theorem trimChars_text (hyear : date.year < 10000) (hdate : date.IsPlausible) :
    Text.trimChars date.text = date.text := by
  have hmonth := hdate.month_le
  have hday := hdate.day_le
  apply Text.trimChars_eq_self
  simp only [text, List.forall_mem_cons]
  exact ⟨isBlank_digitChar (by omega), isBlank_digitChar (by omega), isBlank_digitChar (by omega),
    isBlank_digitChar (by omega), rfl, isBlank_digitChar (by omega), isBlank_digitChar (by omega), rfl,
    isBlank_digitChar (by omega), isBlank_digitChar (by omega), by simp⟩

end Date

/-- The text is compared with the field of the condition: it is the operand, or a bound of the range. -/
inductive Condition.HasLiteral (c : Condition) : String → Prop where
  | operand {sign : Sign} (hoperator : c.operator = .compare sign) : HasLiteral c c.value
  | low {inclusive : Bool} {low high : String} (hoperator : c.operator = .range inclusive)
      (hbounds : Literal.HasBounds c.value low high) : HasLiteral c low
  | high {inclusive : Bool} {low high : String} (hoperator : c.operator = .range inclusive)
      (hbounds : Literal.HasBounds c.value low high) : HasLiteral c high

namespace Target

variable {target : Target} {resolve : Resolver} {c : Condition} {type : FieldType} {text : String}

/-- A written range has bounds that are literals, whichever way its bounds are found. -/
theorem exists_literals_of_range {inclusive : Bool} (hoperator : c.operator = .range inclusive)
    {low high : String} (hbounds : Literal.HasBounds c.value low high)
    (h : (target.comparison c type).outcome resolve = .ok text) :
    (∃ lowText, target.literal c type (Text.trim low) = .ok lowText) ∧
      ∃ highText, target.literal c type (Text.trim high) = .ok highText := by
  have hrange : target.compareRange c type inclusive = .ok text := by
    simpa [comparison, hoperator] using h
  obtain ⟨low', high', lowText, highText, hread, hlow, hhigh, -⟩ := compareRange_eq_ok_iff.mp hrange
  have hgiven : Literal.range? c.value.toList =
      some ((Text.trim low).toList, (Text.trim high).toList) :=
    Literal.range?_eq_some_iff_hasBounds.mpr ⟨low, high, hbounds, by simp, by simp⟩
  simp only [hgiven, Option.some.injEq, Prod.mk.injEq] at hread
  obtain ⟨rfl, rfl⟩ := hread
  simp only [String.ofList_toList] at hlow hhigh
  exact ⟨⟨lowText, hlow⟩, highText, hhigh⟩

theorem isDate_of_literal {operand : String} (h : target.literal c .date operand = .ok text) :
    Literal.isDate (Text.trim operand).toList = true :=
  (literal_eq_ok_iff.mp h).1

/-- What a written condition compares a date with is accepted as a date. -/
theorem isDate_of_hasLiteral {operand : String} (hliteral : c.HasLiteral operand)
    (h : (target.comparison c .date).outcome resolve = .ok text) :
    Literal.isDate (Text.trim operand).toList = true := by
  cases hliteral with
  | @operand sign hoperator =>
      have hcompare : target.compare c .date sign = .ok text := by
        simpa [comparison, hoperator] using h
      obtain ⟨right, hright, -⟩ := compare_eq_ok_iff.mp hcompare
      exact isDate_of_literal hright
  | low hoperator hbounds =>
      obtain ⟨⟨lowText, hlow⟩, -⟩ := exists_literals_of_range hoperator hbounds h
      rw [← Text.trim_trim]
      exact isDate_of_literal hlow
  | high hoperator hbounds =>
      obtain ⟨-, highText, hhigh⟩ := exists_literals_of_range hoperator hbounds h
      rw [← Text.trim_trim]
      exact isDate_of_literal hhigh

end Target

namespace Dialect

/-- Whatever is written for a date field is compared with a plausible date, and this date exists unless it
is past the end of its month. And every plausible date is written, past the end or not. -/
theorem accepted_dates_exist_unless_past_end (dialect : Dialect) (entity : String)
    (resolve : Resolver) :
    (∀ c operand, resolve entity c.field = some .date → c.HasLiteral operand →
      dialect.Writes entity resolve c →
        ∃ date, Date.read? (Text.trim operand).toList = some date ∧ date.IsPlausible ∧
          (date.Exists ↔ ¬ date.IsPastEnd)) ∧
    (∀ field sign date, Path.isPath entity = true → Path.isPath field = true →
      resolve entity field = some .date → date.year < 10000 → date.IsPlausible →
        Date.read? date.text = some date ∧
          dialect.Writes entity resolve ⟨field, .compare sign, String.ofList date.text⟩) := by
  constructor
  · rintro c operand hdate hliteral ⟨text, htext⟩
    obtain ⟨-, hcondition⟩ := outcome_write_eq_ok_iff.mp htext
    obtain ⟨type, htype, -, hcomparison⟩ := Target.outcome_condition_eq_ok_iff.mp hcondition
    obtain ⟨-, hknown⟩ := Target.outcome_typeOf_eq_ok_iff.mp htype
    obtain rfl : type = .date := Option.some.inj (hknown.symm.trans hdate)
    obtain ⟨date, hread, hplausible⟩ :=
      Date.exists_read?_of_isDate (Target.isDate_of_hasLiteral hliteral hcomparison)
    exact ⟨date, hread, hplausible, hplausible.exists_iff⟩
  · intro field sign date hentity hfield hdate hyear hplausible
    have htrim : Text.trim (String.ofList date.text) = String.ofList date.text := by
      simp [Text.trim, Date.trimChars_text hyear hplausible]
    have hliteral : (Target.mk dialect entity).literal
        ⟨field, .compare sign, String.ofList date.text⟩ .date (String.ofList date.text) =
          .ok (dialect.date (Text.quoted (String.ofList date.text))) := by
      rw [Target.literal_eq_ok_iff]
      simp [htrim, Date.isDate_text hyear hplausible]
    have hcondition := Target.outcome_condition_compare_eq_ok_iff.mpr
      ⟨.date, _, Target.outcome_typeOf_eq_ok_iff.mpr ⟨hfield, hdate⟩, rfl, hliteral, rfl⟩
    exact ⟨Date.read?_text hyear hplausible, _, outcome_write_eq_ok_iff.mpr ⟨hentity, hcondition⟩⟩

/-- The bounds of a range are the last day of a February in a leap century and a 30th of November. -/
theorem ends_of_months_accepted :
    let resolve := (Catalog.empty.insert "order" "day" .date).resolver
    let c := Condition.within "day" true "[ 2000-02-29 ,2024-11-30T23:59]"
    (resolve "order" "day" = some .date ∧ c.HasLiteral " 2000-02-29 " ∧
        c.HasLiteral "2024-11-30T23:59" ∧ mvel.Writes "order" resolve c ∧
          (Date.mk 1900 2 29).IsPlausible) ∧
      (Date.mk 2000 2 29).Exists ∧ (Date.mk 2024 11 30).Exists ∧
        mvel.Writes "order" resolve ⟨"day", .compare .less, "1900-02-29"⟩ := by
  intro resolve c
  have hdate : resolve "order" "day" = some .date := by decide
  have hbounds : Literal.HasBounds c.value " 2000-02-29 " "2024-11-30T23:59" :=
    ⟨⟨by decide, List.all_eq_true.mp rfl⟩, ⟨by decide, List.all_eq_true.mp rfl⟩,
      Literal.isRange_toList_iff.mpr (Or.inr rfl)⟩
  have hlow : c.HasLiteral " 2000-02-29 " := .low rfl hbounds
  have hhigh : c.HasLiteral "2024-11-30T23:59" := .high rfl hbounds
  have hwrites : mvel.Writes "order" resolve c :=
    ⟨"order.day>=MvelHelper.convertField(\"DATE\",\"2000-02-29\")&&" ++
      "order.day<=MvelHelper.convertField(\"DATE\",\"2024-11-30T23:59\")", by decide +kernel⟩
  have hplausible : (Date.mk 1900 2 29).IsPlausible := ⟨by simp, by simp, by simp, by simp⟩
  have haccepted := accepted_dates_exist_unless_past_end mvel "order" resolve
  obtain ⟨low, hreadLow, -, hexistsLow⟩ := haccepted.1 c _ hdate hlow hwrites
  obtain ⟨high, hreadHigh, -, hexistsHigh⟩ := haccepted.1 c _ hdate hhigh hwrites
  obtain rfl : low = ⟨2000, 2, 29⟩ := Option.some.inj (hreadLow.symm.trans (by decide +kernel))
  obtain rfl : high = ⟨2024, 11, 30⟩ := Option.some.inj (hreadHigh.symm.trans (by decide +kernel))
  have hcommon := (haccepted.2 "day" .less ⟨1900, 2, 29⟩ rfl rfl hdate (by simp) hplausible).2
  refine ⟨⟨hdate, hlow, hhigh, hwrites, hplausible⟩, hexistsLow.mpr ?_, hexistsHigh.mpr ?_, hcommon⟩
  · simp [Date.IsPastEnd, Date.isLeap]
  · simp [Date.IsPastEnd]

/-- A 30th of February is written like any other date. -/
theorem february_thirtieth_accepted :
    let resolve := (Catalog.empty.insert "order" "submitDate" .date).resolver
    let c : Condition := ⟨"submitDate", .compare .equal, "2024-02-30"⟩
    (mvel.write "order" (.condition c)).outcome resolve =
        .ok "order.submitDate==MvelHelper.convertField(\"DATE\",\"2024-02-30\")" ∧
      Date.read? (Text.trim c.value).toList = some ⟨2024, 2, 30⟩ ∧
        ¬ (Date.mk 2024 2 30).Exists := by
  intro resolve c
  refine ⟨by decide +kernel, by decide +kernel, ?_⟩
  rintro ⟨-, -, -, hday⟩
  contradiction

end Dialect

end RuleExpr
