import RuleExpr.Json.Reader
import RuleExpr.Proofs.Grammar
/-!
The grammar of JSON numbers: a decimal number, and an exponent or none. Scanning takes exactly one such
number from the start of a text, as long as nothing follows that would go on with it.
-/
namespace RuleExpr.Json.Numeral

/-- An exponent, and how it is written. -/
inductive IsExponent : Int → List Char → Prop
  | none : IsExponent 0 []
  | unsigned {mark : Char} {digits : List Char} : mark = 'e' ∨ mark = 'E' → digits ≠ [] →
      (∀ c ∈ digits, c.isDigit = true) → IsExponent (ofDigits digits) (mark :: digits)
  | plus {mark : Char} {digits : List Char} : mark = 'e' ∨ mark = 'E' → digits ≠ [] →
      (∀ c ∈ digits, c.isDigit = true) → IsExponent (ofDigits digits) (mark :: '+' :: digits)
  | minus {mark : Char} {digits : List Char} : mark = 'e' ∨ mark = 'E' → digits ≠ [] →
      (∀ c ∈ digits, c.isDigit = true) → IsExponent (-(ofDigits digits)) (mark :: '-' :: digits)

/-- A number taken apart, and how it is written. -/
inductive Spelled : Numeral → List Char → Prop
  | mk (negative : Bool) {whole fractional exponentText : List Char} {exponent : Int} :
      Literal.IsWhole whole → Literal.IsFractional fractional → IsExponent exponent exponentText →
        Spelled ⟨whole, fractional.tail, exponent, !negative && (fractional ++ exponentText).isEmpty⟩
          ((if negative then ['-'] else []) ++ (whole ++ (fractional ++ exponentText)))

/-- No digit comes first. -/
def NoDigit (rest : List Char) : Prop :=
  ∀ c ∈ rest.head?, c.isDigit = false

/-- Nothing comes first that would go on with a number. -/
def Ends (rest : List Char) : Prop :=
  ∀ c ∈ rest.head?, c.isDigit = false ∧ c ≠ '.' ∧ c ≠ 'e' ∧ c ≠ 'E'

theorem Ends.noDigit {rest : List Char} (h : Ends rest) : NoDigit rest :=
  fun c hc => (h c hc).1

/-- No more is left after the exponent than after the whole part if there is nothing between. -/
theorem length_beq_append (fractional exponentText rest : List Char) :
    (rest.length == (fractional ++ (exponentText ++ rest)).length) =
      (fractional ++ exponentText).isEmpty := by
  rw [Bool.eq_iff_iff]
  simp only [beq_iff_eq, List.isEmpty_iff, List.length_append, ← List.length_eq_zero_iff]
  omega

section Append

variable {rest : List Char}

theorem digits_append {ds : List Char} (hds : ∀ c ∈ ds, c.isDigit = true) (hrest : NoDigit rest) :
    digits (ds ++ rest) = (ds, rest) := by
  rw [digits, List.takeWhile_append_of_pos hds, List.dropWhile_append_of_pos hds]
  cases rest with
  | nil => simp
  | cons c rest =>
      have hc := hrest c rfl
      rw [List.takeWhile_cons_of_neg (by simp [hc]), List.dropWhile_cons_of_neg (by simp [hc]),
        List.append_nil]

theorem whole?_append {whole : List Char} (hwhole : Literal.IsWhole whole) (hrest : NoDigit rest) :
    whole? (whole ++ rest) = some (whole, rest) := by
  cases hwhole with
  | zero => rfl
  | @digits first later hfirst hzero hlater =>
      have hall : ∀ c ∈ first :: later, c.isDigit = true := by
        simpa [hfirst] using hlater
      rw [List.cons_append, whole?, if_pos hfirst, ← List.cons_append, digits_append hall hrest]
      exact hzero

theorem fraction?_append {fractional : List Char} (hfractional : Literal.IsFractional fractional)
    (hrest : NoDigit rest) (hpoint : ∀ c ∈ rest.head?, c ≠ '.') :
    fraction? (fractional ++ rest) = some (fractional.tail, rest) := by
  cases hfractional with
  | none =>
      rw [List.nil_append, fraction?]
      · rfl
      · rintro later rfl
        exact hpoint '.' rfl rfl
  | @digits ds hne hds =>
      obtain ⟨d, later, rfl⟩ := List.exists_cons_of_ne_nil hne
      rw [List.cons_append, fraction?, digits_append hds hrest]
      rfl

theorem signedExponent?_append {ds : List Char} (negative : Bool) (hne : ds ≠ [])
    (hds : ∀ c ∈ ds, c.isDigit = true) (hrest : NoDigit rest) :
    signedExponent? negative (ds ++ rest) =
      some (if negative then -(ofDigits ds : Int) else ofDigits ds, rest) := by
  obtain ⟨d, later, rfl⟩ := List.exists_cons_of_ne_nil hne
  rw [signedExponent?, digits_append hds hrest]

theorem exponent?_append {exponent : Int} {text : List Char} (hexponent : IsExponent exponent text)
    (hrest : Ends rest) : exponent? (text ++ rest) = some (exponent, rest) := by
  have hdigits {mark : Char} (hmark : mark = 'e' ∨ mark = 'E') (cs : List Char) :
      exponent? (mark :: cs) = exponent? ('e' :: cs) := by
    rcases hmark with rfl | rfl <;> rfl
  cases hexponent with
  | none =>
      rw [List.nil_append, exponent?]
      · rintro later rfl
        exact (hrest 'e' rfl).2.2.1 rfl
      · rintro later rfl
        exact (hrest 'E' rfl).2.2.2 rfl
  | @unsigned mark ds hmark hne hds =>
      have hsigned := signedExponent?_append false hne hds hrest.noDigit
      obtain ⟨d, later, rfl⟩ := List.exists_cons_of_ne_nil hne
      have hd := hds d List.mem_cons_self
      rw [List.cons_append, hdigits hmark, List.cons_append, exponent?]
      · exact hsigned
      · intro rest heq
        cases heq
        contradiction
      · intro rest heq
        cases heq
        contradiction
  | plus hmark hne hds =>
      rw [List.cons_append, hdigits hmark]
      exact signedExponent?_append false hne hds hrest.noDigit
  | minus hmark hne hds =>
      rw [List.cons_append, hdigits hmark]
      exact signedExponent?_append true hne hds hrest.noDigit

theorem IsExponent.noDigit_append {exponent : Int} {text : List Char}
    (hexponent : IsExponent exponent text) (hrest : Ends rest) :
    NoDigit (text ++ rest) ∧ ∀ c ∈ (text ++ rest).head?, c ≠ '.' := by
  have hmark {mark : Char} (hmark : mark = 'e' ∨ mark = 'E') (later : List Char) :
      NoDigit (mark :: later) ∧ ∀ c ∈ (mark :: later).head?, c ≠ '.' := by
    rcases hmark with rfl | rfl <;> exact ⟨by simp [NoDigit], by simp⟩
  cases hexponent with
  | none => exact ⟨hrest.noDigit, fun c hc => (hrest c hc).2.1⟩
  | unsigned h | plus h | minus h => exact hmark h _

theorem noDigit_fractional_append {fractional : List Char}
    (hfractional : Literal.IsFractional fractional) (hrest : NoDigit rest) :
    NoDigit (fractional ++ rest) := by
  cases hfractional with
  | none => exact hrest
  | digits => simp [NoDigit]

theorem ne_minus_of_isWhole {whole : List Char} (hwhole : Literal.IsWhole whole) (later : List Char) :
    whole ++ rest ≠ '-' :: later := by
  cases hwhole with
  | zero => simp
  | digits hfirst =>
      intro heq
      cases heq
      contradiction

/-- A number starts with a digit or a minus sign. -/
theorem Spelled.exists_first {numeral : Numeral} {text : List Char} (h : numeral.Spelled text) :
    ∃ c later, text = c :: later ∧ (c = '-' ∨ c.isDigit = true) := by
  obtain ⟨negative, hwhole, hfractional, hexponent⟩ := h
  cases negative with
  | true => exact ⟨'-', _, rfl, Or.inl rfl⟩
  | false =>
      cases hwhole with
      | zero => exact ⟨'0', _, rfl, Or.inr rfl⟩
      | digits hfirst => exact ⟨_, _, rfl, Or.inr hfirst⟩

/-- A number is scanned as it is written, whatever comes after it. -/
theorem scan?_append {numeral : Numeral} {text : List Char} (h : numeral.Spelled text)
    (hrest : Ends rest) : scan? (text ++ rest) = some (numeral, rest) := by
  obtain @⟨negative, whole, fractional, exponentText, exponent, hwhole, hfractional, hexponent⟩ := h
  obtain ⟨hdigit, hpoint⟩ := hexponent.noDigit_append hrest
  have hwholeScan := whole?_append hwhole (noDigit_fractional_append hfractional hdigit)
  have hfractionScan := fraction?_append hfractional hdigit hpoint
  have hexponentScan := exponent?_append hexponent hrest
  have hunsigned : scanUnsigned? negative (whole ++ (fractional ++ (exponentText ++ rest))) =
      some (⟨whole, fractional.tail, exponent, !negative && (fractional ++ exponentText).isEmpty⟩,
        rest) := by
    simp only [scanUnsigned?, hwholeScan, hfractionScan, hexponentScan, length_beq_append,
      Option.bind_eq_bind, Option.bind_some, Option.pure_def]
  rw [← hunsigned]
  cases negative with
  | true => simp [scan?]
  | false =>
      simp only [Bool.false_eq_true, if_false, List.nil_append, List.append_assoc]
      rw [scan?]
      exact ne_minus_of_isWhole hwhole

end Append

section Sound

variable {cs rest : List Char}

theorem eq_append_of_digits {ds : List Char} (h : digits cs = (ds, rest)) :
    cs = ds ++ rest ∧ ∀ c ∈ ds, c.isDigit = true := by
  cases h
  exact ⟨List.takeWhile_append_dropWhile.symm, fun c hc => List.mem_takeWhile_imp hc⟩

theorem eq_append_of_whole? {whole : List Char} (h : whole? cs = some (whole, rest)) :
    cs = whole ++ rest ∧ Literal.IsWhole whole := by
  unfold whole? at h
  split at h
  · cases h
    exact ⟨rfl, .zero⟩
  · rename_i first later hzero
    split at h
    · rename_i hfirst
      rw [digits, List.takeWhile_cons_of_pos hfirst, List.dropWhile_cons_of_pos hfirst] at h
      cases h
      refine ⟨by simp, .digits hfirst ?_ fun c hc => List.mem_takeWhile_imp hc⟩
      rintro rfl
      exact hzero rfl
    · cases h
  · cases h

theorem eq_append_of_fraction? {fraction : List Char} (h : fraction? cs = some (fraction, rest)) :
    ∃ fractional, cs = fractional ++ rest ∧ Literal.IsFractional fractional ∧
      fraction = fractional.tail := by
  unfold fraction? at h
  split at h
  · split at h
    · cases h
    · rename_i later found hne
      obtain ⟨hcs, hds⟩ := eq_append_of_digits (Option.some.inj h)
      refine ⟨'.' :: fraction, by rw [hcs, List.cons_append], .digits ?_ hds, rfl⟩
      rintro rfl
      exact hne rest (Option.some.inj h)
  · cases h
    exact ⟨[], rfl, .none, rfl⟩

theorem eq_append_of_signedExponent? {negative : Bool} {exponent : Int}
    (h : signedExponent? negative cs = some (exponent, rest)) :
    ∃ ds, cs = ds ++ rest ∧ ds ≠ [] ∧ (∀ c ∈ ds, c.isDigit = true) ∧
      exponent = if negative then -(ofDigits ds : Int) else ofDigits ds := by
  unfold signedExponent? at h
  split at h
  · cases h
  · rename_i ds later hne hdigits
    cases h
    obtain ⟨hcs, hds⟩ := eq_append_of_digits hdigits
    refine ⟨ds, hcs, ?_, hds, rfl⟩
    rintro rfl
    exact hne rfl

theorem eq_append_of_exponent? {exponent : Int} (h : exponent? cs = some (exponent, rest)) :
    ∃ text, cs = text ++ rest ∧ IsExponent exponent text := by
  fun_cases exponent? cs with
  | case1 later | case4 later =>
      rw [exponent?] at h
      obtain ⟨ds, rfl, hne, hds, rfl⟩ := eq_append_of_signedExponent? h
      exact ⟨_ :: '-' :: ds, rfl, .minus (by simp) hne hds⟩
  | case2 later | case5 later =>
      rw [exponent?] at h
      obtain ⟨ds, rfl, hne, hds, rfl⟩ := eq_append_of_signedExponent? h
      exact ⟨_ :: '+' :: ds, rfl, .plus (by simp) hne hds⟩
  | case3 later hminus hplus | case6 later hminus hplus =>
      rw [exponent?] at h
      · obtain ⟨ds, rfl, hne, hds, rfl⟩ := eq_append_of_signedExponent? h
        exact ⟨_ :: ds, rfl, .unsigned (by simp) hne hds⟩
      · exact hminus
      · exact hplus
  | case7 _ hsmall hcapital =>
      rw [exponent?] at h
      · cases h
        exact ⟨[], rfl, .none⟩
      · exact hsmall
      · exact hcapital

theorem eq_append_of_scanUnsigned? {negative : Bool} {numeral : Numeral}
    (h : scanUnsigned? negative cs = some (numeral, rest)) :
    ∃ text, cs = text ++ rest ∧ numeral.Spelled ((if negative then ['-'] else []) ++ text) := by
  simp only [scanUnsigned?, Option.bind_eq_bind, Option.bind_eq_some_iff, Prod.exists,
    Option.pure_def] at h
  obtain ⟨whole, afterWhole, hwhole, fraction, afterFraction, hfraction, exponent, afterExponent,
    hexponent, hdone⟩ := h
  obtain ⟨rfl, hisWhole⟩ := eq_append_of_whole? hwhole
  obtain ⟨fractional, rfl, hisFractional, rfl⟩ := eq_append_of_fraction? hfraction
  obtain ⟨exponentText, rfl, hisExponent⟩ := eq_append_of_exponent? hexponent
  rw [length_beq_append] at hdone
  cases hdone
  exact ⟨whole ++ (fractional ++ exponentText), by simp, .mk negative hisWhole hisFractional hisExponent⟩

/-- What is scanned is written as a number at the start of the text. -/
theorem eq_append_of_scan? {numeral : Numeral} (h : scan? cs = some (numeral, rest)) :
    ∃ text, cs = text ++ rest ∧ numeral.Spelled text := by
  unfold scan? at h
  split at h
  · obtain ⟨text, rfl, hspelled⟩ := eq_append_of_scanUnsigned? h
    exact ⟨'-' :: text, rfl, hspelled⟩
  · exact eq_append_of_scanUnsigned? h

end Sound

/-! ## Natural numbers -/

/-- The digits of a natural number, as a numeral. -/
def ofNat (n : Nat) : Numeral :=
  ⟨Nat.toDigits 10 n, [], 0, true⟩

theorem exists_first_toDigits {n : Nat} (hpos : 0 < n) :
    ∃ first rest, Nat.toDigits 10 n = first :: rest ∧ first ≠ '0' := by
  induction n using Nat.base_induction 10 (by decide) with
  | single n hn =>
      have hzero : n.digitChar ≠ '0' := by
        rw [ne_eq, Nat.digitChar_eq_zero]
        omega
      exact ⟨n.digitChar, [], Nat.toDigits_of_lt_base hn, hzero⟩
  | digit high low hlow hhigh ih =>
      obtain ⟨first, rest, hfirst, hzero⟩ := ih hhigh
      refine ⟨first, rest ++ Nat.toDigits 10 low, ?_, hzero⟩
      rw [← Nat.toDigits_append_toDigits (by decide) hhigh hlow, hfirst, List.cons_append]

theorem isWhole_toDigits (n : Nat) : Literal.IsWhole (Nat.toDigits 10 n) := by
  rcases Nat.eq_zero_or_pos n with rfl | hpos
  · exact .zero
  · obtain ⟨first, rest, hdigits, hzero⟩ := exists_first_toDigits hpos
    have hall (c : Char) (hc : c ∈ first :: rest) : c.isDigit = true :=
      Nat.isDigit_of_mem_toDigits (by decide) (by decide) (hdigits ▸ hc)
    rw [hdigits]
    exact .digits (hall first List.mem_cons_self) hzero fun c hc =>
      hall c (List.mem_cons_of_mem first hc)

/-- A natural number is written by its digits. -/
theorem spelled_ofNat (n : Nat) : (ofNat n).Spelled (Nat.toDigits 10 n) := by
  simpa [ofNat] using Spelled.mk false (isWhole_toDigits n) .none .none

theorem ofDigits_toDigits (n : Nat) : ofDigits (Nat.toDigits 10 n) = n :=
  Nat.ofDigitChars_ten_toDigits

/-- Every number of 32 bits is in the range of a double. -/
theorem inRange_ofNat {n : Nat} (hn : n < UInt32.size) : (ofNat n).inRange = true := by
  have hlength : (Nat.toDigits 10 n).length ≤ 10 :=
    (Nat.length_toDigits_le_iff (by decide) (by decide)).mpr (Nat.lt_trans hn (by decide))
  have hdropped := List.length_dropWhile_le (· == '0') (Nat.toDigits 10 n)
  simp only [inRange, ofNat, List.append_nil, List.length_nil, Nat.cast_zero, sub_zero, add_zero]
  rw [if_pos]
  simp only [Bool.or_eq_true, decide_eq_true_eq]
  right
  omega

end RuleExpr.Json.Numeral
