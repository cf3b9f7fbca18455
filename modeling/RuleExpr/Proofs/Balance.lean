import RuleExpr.Catalog
import RuleExpr.Proofs.Comparison
import RuleExpr.Proofs.Writing
/-!
Parentheses that match in every dialect. A scanner goes through a text once, counts the parentheses that
are open outside of quotes, and gets stuck at one that closes nothing. A text is balanced if the scanner
comes out of it with nothing open. When a dialect is spelled with balanced texts, and takes no operand
inside of quotes, every expression in it is balanced.
-/
namespace RuleExpr

/-- Where the scanner stands, with the number of parentheses that are open: outside of quotes, inside of
them, or inside of them right after a backslash. -/
inductive Scan where
  | outside (depth : Nat)
  | inside (depth : Nat)
  | escaped (depth : Nat)
  deriving DecidableEq, Repr

namespace Scan

/-- Past one character, unless it is a parenthesis that closes nothing. -/
def next? : Scan → Char → Option Scan
  | outside depth, '"' => some (inside depth)
  | outside depth, '(' => some (outside (depth + 1))
  | outside depth, ')' => if depth = 0 then none else some (outside (depth - 1))
  | outside depth, _ => some (outside depth)
  | inside depth, '"' => some (outside depth)
  | inside depth, '\\' => some (escaped depth)
  | inside depth, _ => some (inside depth)
  | escaped depth, _ => some (inside depth)

def run? (scan : Scan) (text : List Char) : Option Scan :=
  text.foldlM next? scan

/-- The same place within more parentheses. -/
def within (more : Nat) : Scan → Scan
  | outside depth => outside (depth + more)
  | inside depth => inside (depth + more)
  | escaped depth => escaped (depth + more)

variable {scan middle later : Scan} {c : Char}

theorem next?_outside (depth : Nat) (hquote : c ≠ '"') (hopen : c ≠ '(') (hclose : c ≠ ')') :
    (outside depth).next? c = some (outside depth) := by
  rw [next?]
  · exact hquote
  · exact hopen
  · exact hclose

theorem next?_inside (depth : Nat) (hquote : c ≠ '"') (hslash : c ≠ '\\') :
    (inside depth).next? c = some (inside depth) := by
  rw [next?]
  · exact hquote
  · exact hslash

/-- More parentheses around the scanner never stop it. -/
theorem next?_within (h : scan.next? c = some later) (more : Nat) :
    (scan.within more).next? c = some (later.within more) := by
  fun_cases next? scan c with
  | case1 | case6 | case7 | case9 =>
      cases h
      rfl
  | case2 =>
      cases h
      rw [within, within, Nat.add_right_comm]
      rfl
  | case3 => cases h
  | case4 depth hdepth =>
      obtain ⟨fewer, rfl⟩ := Nat.exists_eq_succ_of_ne_zero hdepth
      cases h
      rw [within, within, Nat.succ_add]
      rfl
  | case5 _ _ hquote hopen hclose =>
      rw [next?_outside _ hquote hopen hclose] at h
      cases h
      exact next?_outside _ hquote hopen hclose
  | case8 _ _ hquote hslash =>
      rw [next?_inside _ hquote hslash] at h
      cases h
      exact next?_inside _ hquote hslash

theorem run?_cons (scan : Scan) (c : Char) (text : List Char) :
    scan.run? (c :: text) = (scan.next? c).bind fun later => later.run? text :=
  List.foldlM_cons

theorem run?_append {text : List Char} (h : scan.run? text = some middle) (rest : List Char) :
    scan.run? (text ++ rest) = middle.run? rest := by
  have hboth : scan.run? (text ++ rest) = (scan.run? text).bind fun later => later.run? rest :=
    List.foldlM_append
  rw [hboth, h, Option.bind_some]

/-- A way through a text is a way through it within more parentheses. -/
theorem run?_within {text : List Char} (h : scan.run? text = some later) (more : Nat) :
    (scan.within more).run? text = some (later.within more) := by
  induction text generalizing scan with
  | nil =>
      cases h
      rfl
  | cons c text ih =>
      rw [run?_cons] at h
      obtain ⟨middle, hnext, hrest⟩ := Option.bind_eq_some_iff.mp h
      rw [run?_cons, next?_within hnext]
      exact ih hrest

/-- What is written for a text between quotes does not end them. -/
theorem run?_writtenAs (depth : Nat) {text written : List Char} (h : Token.WrittenAs text written) :
    (inside depth).run? written = some (inside depth) := by
  induction h with
  | nil => rfl
  | plain hquote hslash _ ih =>
      rw [run?_cons, next?_inside depth hquote hslash]
      exact ih
  | escaped _ _ ih => exact ih

end Scan

/-- The parentheses of the text match outside of quotes, and its quotes are closed. -/
def Balanced (text : String) : Prop :=
  (Scan.outside 0).run? text.toList = some (.outside 0)

instance (text : String) : Decidable (Balanced text) :=
  inferInstanceAs (Decidable (_ = _))

/-- The scanner is outside of quotes at the first placeholder of the template, if there is one. -/
def Template.TakesOutside (template : String) : Prop :=
  ∀ before after, template.toList = before ++ '{' :: '}' :: after → ¬ ['{', '}'] <:+: before →
    ∃ depth, (Scan.outside 0).run? before = some (.outside depth)

theorem Template.takesOutside_of_run? {template : String} (depth : Nat)
    (h : ((split? template.toList).bind fun parts => (Scan.outside 0).run? parts.1) =
      some (.outside depth)) : TakesOutside template := by
  intro before after htext hfirst
  rw [split?_eq_some_iff.mpr ⟨htext, hfirst⟩, Option.bind_some] at h
  exact ⟨depth, h⟩

namespace Balanced

variable {text later : String}

/-- At any depth, the scanner comes out of the text as it went in. -/
theorem run? (h : Balanced text) (depth : Nat) :
    (Scan.outside depth).run? text.toList = some (.outside depth) := by
  have hwithin := Scan.run?_within h depth
  rwa [Scan.within, Nat.zero_add] at hwithin

theorem append (h : Balanced text) (hlater : Balanced later) : Balanced (text ++ later) := by
  rw [Balanced, String.toList_append, Scan.run?_append h]
  exact hlater

theorem parens (h : Balanced text) : Balanced ("(" ++ text ++ ")") := by
  have hopen : (Scan.outside 0).run? "(".toList = some (.outside 1) := rfl
  rw [Balanced, String.toList_append, String.toList_append, List.append_assoc,
    Scan.run?_append hopen, Scan.run?_append (h.run? 1)]
  rfl

theorem deny (h : Balanced text) : Balanced ("!" ++ text) := by
  have hmark : Balanced "!" := by decide
  exact hmark.append h

theorem quoted (text : String) : Balanced (Text.quoted text) := by
  have hquoted := Scan.run?_writtenAs 0 (Token.writtenAs_quoted text.toList)
  rw [Balanced, Text.quoted, String.toList_ofList, Text.quotedChars, Scan.run?_cons]
  change (Scan.inside 0).run? _ = _
  rw [Scan.run?_append hquoted]
  rfl

theorem word (hword : text.toList.all isWordChar = true) : Balanced text := by
  rw [Balanced]
  generalize text.toList = cs at hword
  induction cs with
  | nil => rfl
  | cons c cs ih =>
      rw [List.all_cons, Bool.and_eq_true] at hword
      obtain ⟨hfirst, hlater⟩ := hword
      obtain ⟨hquote, hopen, hclose, -⟩ := Piece.isWordChar_ne hfirst
      rw [Scan.run?_cons, Scan.next?_outside 0 hquote hopen hclose]
      exact ih hlater

theorem of_piece {quotes : List String} (h : Piece text quotes) : Balanced text := by
  induction h with
  | word hword => exact word hword
  | quoted text => exact quoted text
  | append _ _ ihFirst ihSecond => exact ihFirst.append ihSecond
  | parens _ ih => exact ih.parens

/-- An operand is taken at some depth, and what comes after it starts from there. -/
theorem fill {template operand : String} (htemplate : Balanced template)
    (houtside : Template.TakesOutside template) (hoperand : Balanced operand) :
    Balanced (Template.fill template operand) := by
  rw [Template.fill]
  split
  · rename_i before after hsplit
    obtain ⟨htext, hfirst⟩ := Template.split?_eq_some_iff.mp hsplit
    obtain ⟨depth, hbefore⟩ := houtside before after htext hfirst
    have hafter : (Scan.outside depth).run? after = some (.outside 0) := by
      have hplaceholder : (Scan.outside depth).run? ['{', '}'] = some (.outside depth) := rfl
      rw [Balanced, htext, Scan.run?_append hbefore] at htemplate
      exact (Scan.run?_append hplaceholder after).symm.trans htemplate
    rw [Balanced, String.toList_append, String.toList_append, String.toList_ofList,
      String.toList_ofList, List.append_assoc, Scan.run?_append hbefore,
      Scan.run?_append (hoperand.run? depth)]
    exact hafter
  · exact htemplate

theorem joined {position : Position} {combinator : Combinator} {members : List Rule}
    (hne : members ≠ []) {texts : List String}
    (h : List.Forall₂ (fun _ text => Balanced text) members texts) :
    Balanced (combinator.joined position texts) := by
  have hintercalate {separator : String} (hseparator : Balanced separator) :
      Balanced (separator.intercalate texts) := by
    refine Text.intercalate_induction (motive := fun _ text => Balanced text) ?_ ?_ hne h
    · intro _ text htext
      exact htext
    · intro _ text _ later htext hlater
      exact (htext.append hseparator).append hlater
  apply Combinator.joined_of
  · exact hintercalate (by decide)
  · exact hintercalate (by decide)
  · intro text h
    exact h.parens
  · intro text h
    exact h.deny

end Balanced

/-- The dialect is spelled with balanced texts, and its templates take no operand inside of quotes. -/
structure Dialect.IsSane (dialect : Dialect) : Prop where
  caseFold : Balanced dialect.caseFold
  amountAccessor : Balanced dialect.amountAccessor
  dateConversion : Balanced dialect.dateConversion
  nullLiteral : Balanced dialect.nullLiteral
  foldsOutside : Template.TakesOutside dialect.caseFold
  datesOutside : Template.TakesOutside dialect.dateConversion

namespace Dialect.IsSane

variable {dialect : Dialect} (hsane : dialect.IsSane) {operand : String}
include hsane

theorem fold (hoperand : Balanced operand) : Balanced (dialect.fold operand) :=
  hsane.caseFold.fill hsane.foldsOutside hoperand

theorem date (hliteral : Balanced operand) : Balanced (dialect.date operand) :=
  hsane.dateConversion.fill hsane.datesOutside hliteral

end Dialect.IsSane

namespace Target

variable {dialect : Dialect} {entity : String} (hsane : dialect.IsSane)
  (hentity : Path.isPath entity = true) {c : Condition} {type : FieldType} {resolve : Resolver}
  {text : String}

include hentity in
theorem balanced_path {field : String} (hfield : Path.isPath field = true) :
    Balanced ((Target.mk dialect entity).path field) := by
  have hdot : Balanced "." := by decide
  exact ((Balanced.of_piece (.word_of_path hentity)).append hdot).append
    (.of_piece (.word_of_path hfield))

include hsane in
theorem balanced_literal {operand : String}
    (h : (Target.mk dialect entity).literal c type operand = .ok text) : Balanced text := by
  rw [literal_eq_ok_iff] at h
  cases type with
  | string =>
      obtain rfl := h
      exact .quoted operand
  | boolean =>
      obtain ⟨value, -, rfl⟩ := h
      cases value <;> decide
  | numeric | monetary =>
      obtain ⟨hnumber, rfl⟩ := h
      exact .of_piece (.word_of_number hnumber)
  | date =>
      obtain ⟨-, rfl⟩ := h
      exact hsane.date (.quoted _)
  | reference => exact absurd h not_false

include hsane hentity

theorem balanced_access {field : String} (hfield : Path.isPath field = true) (type : FieldType) :
    Balanced ((Target.mk dialect entity).access field type) := by
  have hpath : Balanced ((Target.mk dialect entity).path field) := balanced_path hentity hfield
  rw [access]
  split
  · exact hpath.append hsane.amountAccessor
  · exact hpath

theorem balanced_call (hfield : Path.isPath c.field = true) (method : Method)
    (negated folded : Bool) :
    Balanced ((Target.mk dialect entity).call c type method negated folded) := by
  have haccess := balanced_access hsane hentity hfield type
  have hfolded (operand : String) (hoperand : Balanced operand) :
      Balanced (if folded then dialect.fold operand else operand) := by
    split
    · exact hsane.fold hoperand
    · exact hoperand
  have hmark : Balanced (if negated then "!" else "") := by cases negated <;> decide
  have hdot : Balanced "." := by decide
  have hmethod : Balanced method.text := by cases method <;> decide
  have hargument := (hfolded _ (.quoted c.value)).parens
  have hcall := (((hmark.append (hfolded _ haccess)).append hdot).append hmethod).append hargument
  simpa only [call, String.append_assoc] using hcall

theorem balanced_condition (h : ((Target.mk dialect entity).condition c).outcome resolve = .ok text) :
    Balanced text := by
  obtain ⟨type, htype, -, htext⟩ := outcome_condition_eq_ok_iff.mp h
  obtain ⟨hfield, -⟩ := outcome_typeOf_eq_ok_iff.mp htype
  have haccess := balanced_access hsane hentity hfield type
  have hsign (sign : Sign) : Balanced sign.text := .of_piece (.sign sign)
  rw [comparison] at htext
  cases hoperator : c.operator with
  | compare sign =>
      simp only [hoperator, Inquiry.outcome_ofExcept] at htext
      obtain ⟨right, hright, rfl⟩ := compare_eq_ok_iff.mp htext
      exact (haccess.append (hsign sign)).append (balanced_literal hsane hright)
  | compareFolded negated =>
      rw [hoperator] at htext
      cases htext
      exact ((hsane.fold haccess).append (hsign _)).append (hsane.fold (.quoted c.value))
  | method method negated folded =>
      rw [hoperator] at htext
      cases htext
      exact balanced_call hsane hentity hfield method negated folded
  | null negated =>
      rw [hoperator] at htext
      cases htext
      exact ((balanced_path hentity hfield).append (hsign _)).append hsane.nullLiteral
  | compareField sign =>
      rw [hoperator] at htext
      obtain ⟨otherType, hother, -, -, rfl⟩ := outcome_compareField_eq_ok_iff.mp htext
      obtain ⟨hotherField, -⟩ := outcome_typeOf_eq_ok_iff.mp hother
      exact (haccess.append (hsign sign)).append (balanced_access hsane hentity hotherField otherType)
  | range inclusive =>
      simp only [hoperator, Inquiry.outcome_ofExcept] at htext
      obtain ⟨low, high, lowText, highText, -, hlow, hhigh, rfl⟩ := compareRange_eq_ok_iff.mp htext
      have hand : Balanced "&&" := by decide
      have hlower := (haccess.append (hsign (.lower inclusive))).append (balanced_literal hsane hlow)
      have hupper := (haccess.append (hsign (.upper inclusive))).append (balanced_literal hsane hhigh)
      have hboth := (hlower.append hand).append hupper
      simpa only [String.append_assoc] using hboth

theorem balanced_rule {position : Position} {rule : Rule}
    (h : ((Target.mk dialect entity).rule position rule).outcome resolve = .ok text) :
    Balanced text := by
  refine Target.written_induction _ (motive := fun _ _ text => Balanced text)
    ?condition ?passed ?denied ?joined h
  case condition =>
      intro position c text hwritten
      exact balanced_condition hsane hentity hwritten
  case passed =>
      intro position quantity only text honly
      exact honly
  case denied =>
      intro position quantity only text honly
      exact honly.parens.deny
  case joined =>
      intro position combinator quantity members texts hjoins hmembers
      exact Balanced.joined hjoins.1 hmembers

end Target

namespace Dialect

open Template (placeholder)

variable {dialect : Dialect}

theorem balanced_write (hsane : dialect.IsSane) {entity : String} {resolve : Resolver}
    {rule : Rule} {text : String} (h : (dialect.write entity rule).outcome resolve = .ok text) :
    Balanced text := by
  obtain ⟨hentity, hwritten⟩ := outcome_write_eq_ok_iff.mp h
  exact Target.balanced_rule hsane hentity hwritten

theorem isSane_mvel : mvel.IsSane where
  caseFold := by decide +kernel
  amountAccessor := by decide +kernel
  dateConversion := by decide +kernel
  nullLiteral := by decide +kernel
  foldsOutside := Template.takesOutside_of_run? 1 (by decide +kernel)
  datesOutside := Template.takesOutside_of_run? 1 (by decide +kernel)

/-- Every text that is written in a sane dialect is balanced, for a rule and for rules that must all
hold. -/
theorem written_balanced (hsane : dialect.IsSane) (entity : String) (resolve : Resolver) :
    (∀ rule text, (dialect.write entity rule).outcome resolve = .ok text → Balanced text) ∧
      ∀ rules text, (dialect.writeAll entity rules).outcome resolve = .ok text → Balanced text := by
  constructor
  · intro rule text hwritten
    exact balanced_write hsane hwritten
  · intro rules text hwritten
    exact balanced_write hsane hwritten

/-- Templates with an operand two parentheses deep and with quotes that hold parentheses, an escaped
quote and one more placeholder, filled with a value that tries to get out of its quotes. The templates of
MVEL are plainer. -/
theorem deep_templates_balanced :
    let dialect : Dialect := {
      caseFold := s!"up(({placeholder}),\"\\\"){placeholder}(\")",
      amountAccessor := ".in(\"(\")",
      dateConversion := s!"day(at({placeholder}),\"\\\\\")",
      nullLiteral := "(none)" }
    let catalog := (Catalog.empty.insert "order" "name" .string).insert "order" "total" .monetary
    let rule := Rule.group .and none [
      .condition ⟨"name", .compareFolded false, s!")\"{placeholder}(\\"⟩,
      .group .or none [.condition ⟨"total", .range true, "[1,2]"⟩,
        .group .not none [.condition ⟨"total", .null false, ""⟩]]]
    let text := s!"up((order.name),\"\\\"){placeholder}(\")" ++
      s!"==up((\")\\\"{placeholder}(\\\\\"),\"\\\"){placeholder}(\")" ++
      "&&(order.total.in(\"(\")>=1&&order.total.in(\"(\")<=2||!(order.total==(none)))"
    (dialect.IsSane ∧ (dialect.write "order" rule).outcome catalog.resolver = .ok text ∧
      Balanced text) ∧
    ∀ rules text, (mvel.writeAll "order" rules).outcome catalog.resolver = .ok text →
      Balanced text := by
  intro dialect catalog rule text
  have hsane : dialect.IsSane := {
    caseFold := by decide +kernel
    amountAccessor := by decide +kernel
    dateConversion := by decide +kernel
    nullLiteral := by decide +kernel
    foldsOutside := Template.takesOutside_of_run? 2 (by decide +kernel)
    datesOutside := Template.takesOutside_of_run? 2 (by decide +kernel) }
  have hwritten : (dialect.write "order" rule).outcome catalog.resolver = .ok text := by
    decide +kernel
  exact ⟨⟨hsane, hwritten, (written_balanced hsane "order" catalog.resolver).1 rule text hwritten⟩,
    (written_balanced isSane_mvel "order" catalog.resolver).2⟩

end Dialect

end RuleExpr
