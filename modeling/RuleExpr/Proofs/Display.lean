import RuleExpr.Proofs.Characters
import RuleExpr.Proofs.FirstRefusal
import RuleExpr.Proofs.Shown
import RuleExpr.Rule.Build
import RuleExpr.Rule.Display
/-!
Displayed rules are told apart. A line tells its rule except for what a line cannot show: quantities,
that a group is without a connective, and that a group with no two members to stand between is a
disjunction. The proof reads two lines side by side from the left, with anything after them, so it goes
through for the members of a group one after another.
-/
namespace RuleExpr

/-- What a line shows of the combinator of a group with so many members. -/
def Combinator.visible (combinator : Combinator) (count : Nat) : Combinator :=
  match combinator with
  | .and | .none => .and
  | .or => if count < 2 then .and else .or
  | .not => .not

/-- What is written in front of the members of a group. -/
def Combinator.opening (combinator : Combinator) : List Char :=
  if combinator = .not then ['(', 'N', 'O', 'T', ' ', '('] else ['(']

/-- What is written behind the members of a group. -/
def Combinator.closing (combinator : Combinator) : List Char :=
  if combinator = .not then [')', ')'] else [')']

/-- The characters of a displayed condition, given which characters are hidden in its operand. -/
def Condition.line (hidden : Char → Bool) (c : Condition) : List Char :=
  c.field.toList ++ ' ' :: (c.operator.name.toList ++ ' ' :: Text.shownChars hidden c.value.toList)

namespace Rule

mutual

/-- The rule with every quantity cleared, every group without a connective turned into a conjunction,
and every disjunction of fewer than two members as well. -/
def visible : Rule → Rule
  | .condition c => .condition c
  | .group combinator _ members =>
      .group (combinator.visible members.length) none (visibleAll members)

def visibleAll : List Rule → List Rule
  | [] => []
  | rule :: rules => rule.visible :: visibleAll rules

end

mutual

/-- The characters of a displayed rule, given which characters are hidden in operands. -/
def line (hidden : Char → Bool) : Rule → List Char
  | .condition c => c.line hidden
  | .group combinator _ [] => combinator.opening ++ combinator.closing
  | .group combinator _ (first :: rest) =>
      combinator.opening ++ (first.line hidden ++ followers hidden combinator rest ++
        combinator.closing)

/-- Members of a group, each behind the joiner. -/
def followers (hidden : Char → Bool) (combinator : Combinator) : List Rule → List Char
  | [] => []
  | rule :: rules =>
      combinator.joiner.toList ++ (rule.line hidden ++ followers hidden combinator rules)

end

/-- All members of a group, with the joiner between them. -/
def membersLine (hidden : Char → Bool) (combinator : Combinator) : List Rule → List Char
  | [] => []
  | first :: rest => first.line hidden ++ followers hidden combinator rest

theorem visibleAll_eq_map (rules : List Rule) : visibleAll rules = rules.map visible := by
  induction rules with
  | nil => rfl
  | cons rule rules ih => rw [visibleAll, ih, List.map_cons]

theorem displayAll_eq_map (rules : List Rule) : displayAll rules = rules.map display := by
  induction rules with
  | nil => rfl
  | cons rule rules ih => rw [displayAll, ih, List.map_cons]

theorem line_group (hidden : Char → Bool) (combinator : Combinator) (quantity : Option UInt32)
    (members : List Rule) :
    (group combinator quantity members).line hidden =
      combinator.opening ++ (membersLine hidden combinator members ++ combinator.closing) := by
  cases members with
  | nil => rfl
  | cons first rest => rfl

theorem membersLine_eq_intercalate (hidden : Char → Bool) (combinator : Combinator) :
    (members : List Rule) → membersLine hidden combinator members =
      combinator.joiner.toList.intercalate (members.map (line hidden))
  | [] => rfl
  | [only] => by simp [membersLine, followers]
  | first :: second :: rest => by
      have hlater := membersLine_eq_intercalate hidden combinator (second :: rest)
      rw [List.map_cons, List.map_cons, List.intercalate_cons_cons, ← List.map_cons, ← hlater]
      simp [membersLine, followers]

/-- A rule is displayed by its line, with those characters hidden that have no picture of their own. -/
theorem toList_display (rule : Rule) : rule.display.toList = rule.line Text.isHidden := by
  induction rule using Rule.induction with
  | condition c => simp [display, Condition.display, line, Condition.line, Text.shown]
  | group combinator quantity members ih =>
      have hmembers : (combinator.joiner.intercalate (displayAll members)).toList =
          membersLine Text.isHidden combinator members := by
        rw [displayAll_eq_map, String.toList_intercalate, List.map_map,
          membersLine_eq_intercalate]
        exact congrArg _ (List.map_congr_left ih)
      rw [display, line_group, ← hmembers, Combinator.opening, Combinator.closing]
      split <;> simp

end Rule

/-- The name of an operator is a word: it ends at the first blank and does not look like a group. -/
theorem Operator.name_isWord (operator : Operator) :
    ' ' ∉ operator.name.toList ∧
      ∃ first later, operator.name.toList = first :: later ∧ first ≠ '(' := by
  have hwords : ∀ listed ∈ all,
      ' ' ∉ listed.name.toList ∧ listed.name.toList.head?.any (· != '(') = true := by
    decide +kernel
  have hlisted : operator ∈ all := List.mem_of_find?_eq_some (ofName?_name operator)
  obtain ⟨hblank, hfirst⟩ := hwords operator hlisted
  refine ⟨hblank, ?_⟩
  cases hname : operator.name.toList with
  | nil => simp [hname] at hfirst
  | cons first later => exact ⟨first, later, rfl, by simpa [hname] using hfirst⟩

theorem Operator.name_inj {operator other : Operator} (h : operator.name = other.name) :
    operator = other := by
  have hfound := operator.ofName?_name
  rw [h, other.ofName?_name] at hfound
  exact (Option.some.inj hfound).symm

/-- Whether there are two members to join or not, a group is shown with the same combinator if it denies
as the other one does, and joins as the other one does. -/
theorem Combinator.visible_congr {combinator other : Combinator} {count : Nat}
    (hdenies : combinator = .not ↔ other = .not)
    (hjoins : 2 ≤ count → combinator.joiner = other.joiner) :
    combinator.visible count = other.visible count := by
  by_cases hcount : count < 2
  · cases combinator <;> cases other <;> simp_all [visible]
  · have hjoiner := hjoins (by omega)
    cases combinator <;> cases other <;> simp_all [visible, joiner]

theorem Combinator.joiner_append_inj {combinator other : Combinator} {rest otherRest : List Char}
    (h : combinator.joiner.toList ++ rest = other.joiner.toList ++ otherRest) :
    combinator.joiner = other.joiner ∧ rest = otherRest := by
  cases combinator <;> cases other <;> simp_all [joiner]

theorem Path.blank_not_mem {field : String} (hpath : isPath field = true) : ' ' ∉ field.toList := by
  intro hmem
  rcases mem_of_isPath hpath hmem with h | h | h <;> cases h

namespace Rule

variable {hidden : Char → Bool}

/-- The fields of all conditions of the rule are paths. -/
def ComparesPaths (rule : Rule) : Prop :=
  ∀ c ∈ rule.conditions, Path.isPath c.field = true

instance : DecidablePred ComparesPaths := fun rule =>
  inferInstanceAs (Decidable (∀ c ∈ rule.conditions, Path.isPath c.field = true))

theorem ComparesPaths.member {combinator : Combinator} {quantity : Option UInt32}
    {members : List Rule} (h : (group combinator quantity members).ComparesPaths) {member : Rule}
    (hmember : member ∈ members) : member.ComparesPaths := by
  intro c hc
  apply h
  rw [conditions_group (List.ne_nil_of_mem hmember)]
  exact List.mem_flatMap.mpr ⟨member, hmember, hc⟩

theorem line_condition_append_ne {c : Condition} (hpath : Path.isPath c.field = true) {mark : Char}
    (hmark : Path.isIdentifierStart mark = false) (rest later : List Char) :
    (condition c).line hidden ++ rest ≠ mark :: later := by
  obtain ⟨first, field, hfield, hstart⟩ := Path.exists_start_of_isPath hpath
  rw [line, Condition.line, hfield]
  intro h
  obtain rfl : first = mark := List.head_eq_of_cons_eq h
  rw [hmark] at hstart
  contradiction

theorem exists_line_group (hidden : Char → Bool) (combinator : Combinator)
    (quantity : Option UInt32) (members : List Rule) :
    ∃ later, (group combinator quantity members).line hidden = '(' :: later := by
  rw [line_group, Combinator.opening]
  split
  · exact ⟨_, rfl⟩
  · exact ⟨_, rfl⟩

/-- A condition starts with a name, and a group does not. -/
theorem line_condition_ne_group {c : Condition} (hpath : Path.isPath c.field = true)
    (combinator : Combinator) (quantity : Option UInt32) (members : List Rule)
    (rest otherRest : List Char) :
    (condition c).line hidden ++ rest ≠
      (group combinator quantity members).line hidden ++ otherRest := by
  obtain ⟨later, hgroup⟩ := exists_line_group hidden combinator quantity members
  rw [hgroup]
  exact line_condition_append_ne hpath (by decide) _ _

theorem line_ne_close {rule : Rule} (hpaths : rule.ComparesPaths) (rest later : List Char) :
    rule.line hidden ++ rest ≠ ')' :: later := by
  cases rule with
  | condition c =>
      exact line_condition_append_ne (hpaths c List.mem_cons_self) (by decide) _ _
  | group combinator quantity members =>
      obtain ⟨line, hline⟩ := exists_line_group hidden combinator quantity members
      rw [hline]
      simp

/-- A condition is told by its line: the field and the operator end at blanks, and the value at its
closing quote. -/
theorem line_condition_inj {c d : Condition} (hc : Path.isPath c.field = true)
    (hd : Path.isPath d.field = true) {rest otherRest : List Char}
    (h : (condition c).line hidden ++ rest = (condition d).line hidden ++ otherRest) :
    c = d ∧ rest = otherRest := by
  simp only [line, Condition.line, List.append_assoc, List.cons_append] at h
  obtain ⟨hfield, h⟩ := Text.append_mark_inj (Path.blank_not_mem hc) (Path.blank_not_mem hd) h
  obtain ⟨hname, h⟩ := Text.append_mark_inj c.operator.name_isWord.1 d.operator.name_isWord.1 h
  obtain ⟨hvalue, hrest⟩ := Text.prefixFree_shownChars hidden h
  refine ⟨?_, hrest⟩
  rw [String.toList_inj] at hfield hname hvalue
  have hoperator := Operator.name_inj hname
  cases c
  cases d
  simp_all

/-- Members of a group never look like a denial: behind a field of that name there is an operator. -/
theorem membersLine_ne_denial {combinator : Combinator} {members : List Rule}
    (hmembers : ∀ member ∈ members, member.ComparesPaths) (rest later : List Char) :
    membersLine hidden combinator members ++ ')' :: rest ≠
      ['N', 'O', 'T'] ++ ' ' :: '(' :: later := by
  intro h
  match members with
  | [] => simp [membersLine] at h
  | .group first quantity inner :: others =>
      obtain ⟨line, hline⟩ := exists_line_group hidden first quantity inner
      simp [membersLine, hline] at h
  | .condition c :: others =>
      have hpath := hmembers _ List.mem_cons_self c List.mem_cons_self
      obtain ⟨-, first, name, hname, hfirst⟩ := c.operator.name_isWord
      rw [membersLine, line, Condition.line, hname, List.append_assoc, List.append_assoc,
        List.cons_append, List.cons_append, List.cons_append] at h
      obtain ⟨-, hlater⟩ := Text.append_mark_inj (Path.blank_not_mem hpath) (by decide) h
      exact hfirst (List.head_eq_of_cons_eq hlater)

/-- A line that starts with the rule tells what is visible of the rule, and where it ends. -/
def Told (hidden : Char → Bool) (rule : Rule) : Prop :=
  ∀ other : Rule, other.ComparesPaths → ∀ rest otherRest : List Char,
    rule.line hidden ++ rest = other.line hidden ++ otherRest →
      rule.visible = other.visible ∧ rest = otherRest

theorem followers_inj {combinator other : Combinator} {members others : List Rule}
    (hmembers : ∀ member ∈ members, member.Told hidden)
    (hothers : ∀ member ∈ others, member.ComparesPaths) {rest otherRest : List Char}
    (h : followers hidden combinator members ++ ')' :: rest =
      followers hidden other others ++ ')' :: otherRest) :
    members.map visible = others.map visible ∧
      (members ≠ [] → combinator.joiner = other.joiner) ∧ rest = otherRest := by
  -- Where the one list of members ends, there is no joiner in the other line.
  have hopen (combinator : Combinator) (rest later : List Char) :
      combinator.joiner.toList ++ later ≠ ')' :: rest := by
    cases combinator <;> simp [Combinator.joiner]
  induction members generalizing others with
  | nil =>
      cases others with
      | nil => exact ⟨rfl, fun hne => absurd rfl hne, List.tail_eq_of_cons_eq h⟩
      | cons second others =>
          rw [followers, followers, List.append_assoc] at h
          exact absurd h.symm (hopen other _ _)
  | cons first members ih =>
      rw [List.forall_mem_cons] at hmembers
      cases others with
      | nil =>
          rw [followers, followers, List.append_assoc] at h
          exact absurd h (hopen combinator _ _)
      | cons second others =>
          rw [List.forall_mem_cons] at hothers
          simp only [followers, List.append_assoc] at h
          obtain ⟨hjoiner, h⟩ := Combinator.joiner_append_inj h
          obtain ⟨hvisible, h⟩ := hmembers.1 second hothers.1 _ _ h
          obtain ⟨hlater, -, hrest⟩ := ih hmembers.2 hothers.2 h
          exact ⟨by rw [List.map_cons, List.map_cons, hvisible, hlater], fun _ => hjoiner, hrest⟩

theorem membersLine_inj {combinator other : Combinator} {members others : List Rule}
    (hmembers : ∀ member ∈ members, member.ComparesPaths ∧ member.Told hidden)
    (hothers : ∀ member ∈ others, member.ComparesPaths) {rest otherRest : List Char}
    (h : membersLine hidden combinator members ++ ')' :: rest =
      membersLine hidden other others ++ ')' :: otherRest) :
    members.map visible = others.map visible ∧
      (2 ≤ members.length → combinator.joiner = other.joiner) ∧ rest = otherRest := by
  match members, others with
  | [], [] => exact ⟨rfl, by simp, List.tail_eq_of_cons_eq h⟩
  | [], second :: others =>
      rw [membersLine, membersLine, List.append_assoc] at h
      exact absurd h.symm (line_ne_close (hothers second List.mem_cons_self) _ _)
  | first :: members, [] =>
      rw [membersLine, membersLine, List.append_assoc] at h
      exact absurd h (line_ne_close (hmembers first List.mem_cons_self).1 _ _)
  | first :: members, second :: others =>
      rw [List.forall_mem_cons] at hmembers hothers
      rw [membersLine, membersLine, List.append_assoc, List.append_assoc] at h
      obtain ⟨hvisible, h⟩ := hmembers.1.2 second hothers.1 _ _ h
      obtain ⟨hlater, hjoiner, hrest⟩ :=
        followers_inj (fun member hmember => (hmembers.2 member hmember).2) hothers.2 h
      refine ⟨by rw [List.map_cons, List.map_cons, hvisible, hlater], ?_, hrest⟩
      intro hlength
      apply hjoiner
      rintro rfl
      simp at hlength

/-- Only a denial has the line of a denial. -/
theorem eq_not_of_line {combinator : Combinator} {quantity otherQuantity : Option UInt32}
    {members others : List Rule} (hmembers : ∀ member ∈ members, member.ComparesPaths)
    {rest otherRest : List Char}
    (h : (group .not otherQuantity others).line hidden ++ otherRest =
      (group combinator quantity members).line hidden ++ rest) : combinator = .not := by
  by_contra hcombinator
  simp only [line_group, Combinator.opening, Combinator.closing, if_neg hcombinator, if_true,
    List.append_assoc, List.cons_append, List.nil_append, List.cons.injEq, true_and] at h
  exact membersLine_ne_denial hmembers _ _ h.symm

theorem group_inj {combinator other : Combinator} {quantity otherQuantity : Option UInt32}
    {members others : List Rule}
    (hmembers : ∀ member ∈ members, member.ComparesPaths ∧ member.Told hidden)
    (hothers : ∀ member ∈ others, member.ComparesPaths) {rest otherRest : List Char}
    (h : (group combinator quantity members).line hidden ++ rest =
      (group other otherQuantity others).line hidden ++ otherRest) :
    (group combinator quantity members).visible = (group other otherQuantity others).visible ∧
      rest = otherRest := by
  have hdenies : combinator = .not ↔ other = .not := by
    constructor
    · rintro rfl
      exact eq_not_of_line hothers h
    · rintro rfl
      exact eq_not_of_line (fun member hmember => (hmembers member hmember).1) h.symm
  have hinside : members.map visible = others.map visible ∧
      (2 ≤ members.length → combinator.joiner = other.joiner) ∧ rest = otherRest := by
    simp only [line_group, Combinator.opening, Combinator.closing, ← hdenies] at h
    split at h <;>
      simp only [List.append_assoc, List.cons_append, List.nil_append, List.cons.injEq,
        true_and] at h
    case isTrue =>
        obtain ⟨hvisible, hjoins, h⟩ := membersLine_inj hmembers hothers h
        exact ⟨hvisible, hjoins, List.tail_eq_of_cons_eq h⟩
    case isFalse => exact membersLine_inj hmembers hothers h
  obtain ⟨hvisible, hjoins, hrest⟩ := hinside
  have hlength : members.length = others.length := by
    simpa using congrArg List.length hvisible
  refine ⟨?_, hrest⟩
  rw [visible, visible, visibleAll_eq_map, visibleAll_eq_map, hvisible, ← hlength,
    Combinator.visible_congr hdenies hjoins]

/-- A rule over paths is told by its line, whatever comes after it. -/
theorem told_of_comparesPaths {rule : Rule} (hpaths : rule.ComparesPaths) : rule.Told hidden := by
  -- Induction on one of the two rules: what is known of its members is about any other rule.
  induction rule using Rule.induction with
  | condition c =>
      have hc := hpaths c List.mem_cons_self
      intro other hother rest otherRest h
      cases other with
      | condition d =>
          obtain ⟨rfl, hrest⟩ := line_condition_inj hc (hother d List.mem_cons_self) h
          exact ⟨rfl, hrest⟩
      | group combinator quantity members =>
          exact absurd h (line_condition_ne_group hc combinator quantity members _ _)
  | group combinator quantity members ih =>
      intro other hother rest otherRest h
      cases other with
      | condition d =>
          have hd := hother d List.mem_cons_self
          exact absurd h.symm (line_condition_ne_group hd combinator quantity members _ _)
      | group other otherQuantity others =>
          refine group_inj ?_ (fun member hmember => hother.member hmember) h
          intro member hmember
          exact ⟨hpaths.member hmember, ih member hmember (hpaths.member hmember)⟩

theorem membersLine_visible {combinator : Combinator} {members : List Rule}
    (hmembers : ∀ member ∈ members, member.visible.line hidden = member.line hidden) :
    membersLine hidden (combinator.visible members.length) (members.map visible) =
      membersLine hidden combinator members := by
  have hlines : (members.map visible).map (line hidden) = members.map (line hidden) := by
    rw [List.map_map]
    exact List.map_congr_left hmembers
  rw [membersLine_eq_intercalate, membersLine_eq_intercalate, hlines]
  -- A joiner is written only where there are two members to join.
  match members with
  | [] => rfl
  | [only] => rfl
  | first :: second :: rest => cases combinator <;> rfl

/-- A line shows no more of a rule than what is visible. -/
theorem line_visible (rule : Rule) : rule.visible.line hidden = rule.line hidden := by
  induction rule using Rule.induction with
  | condition c => rfl
  | group combinator quantity members ih =>
      have hdenies : combinator.visible members.length = .not ↔ combinator = .not := by
        unfold Combinator.visible
        grind
      rw [visible, visibleAll_eq_map, line_group, line_group, membersLine_visible ih]
      simp only [Combinator.opening, Combinator.closing, hdenies]

theorem line_eq_iff {left right : Rule} (hleft : left.ComparesPaths) (hright : right.ComparesPaths) :
    left.line hidden = right.line hidden ↔ left.visible = right.visible := by
  constructor
  · intro h
    have hends : left.line hidden ++ [] = right.line hidden ++ [] := by rw [h]
    exact (told_of_comparesPaths hleft right hright [] [] hends).1
  · intro h
    rw [← line_visible left, h, line_visible]

/-- Two rules over paths are displayed alike exactly if they are the same once quantities are cleared,
groups without a connective are conjunctions, and so are disjunctions of fewer than two members. This is
so whatever characters are hidden in the operands, each of which is recovered from where it is shown. -/
theorem told_apart_by_display {left right : Rule} (hleft : left.ComparesPaths)
    (hright : right.ComparesPaths) :
    (left.display = right.display ↔ left.visible = right.visible) ∧
    ∀ hidden : Char → Bool,
      (left.line hidden = right.line hidden ↔ left.visible = right.visible) ∧
        Text.PrefixFree (Text.shownChars hidden) := by
  refine ⟨?_, fun hidden => ⟨line_eq_iff hleft hright, Text.prefixFree_shownChars hidden⟩⟩
  rw [← String.toList_inj, toList_display, toList_display]
  exact line_eq_iff hleft hright

/-- A value that imitates the end of a condition and the start of the next one, under a field that has
the name of a combinator. -/
theorem imitation_told_apart :
    let imitation := Rule.and [.condition ⟨"NOT", .compare .equal, "1\" OR b EQUALS \"2"⟩]
    let genuine := Rule.or [.condition ⟨"NOT", .compare .equal, "1"⟩,
      .condition ⟨"b", .compare .equal, "2"⟩]
    (imitation.ComparesPaths ∧ genuine.ComparesPaths) ∧ imitation.display ≠ genuine.display ∧
      ∀ hidden, imitation.line hidden ≠ genuine.line hidden := by
  intro imitation genuine
  have himitation : imitation.ComparesPaths := by decide
  have hgenuine : genuine.ComparesPaths := by decide
  have hvisible : imitation.visible ≠ genuine.visible := by decide
  obtain ⟨hdisplay, hline⟩ := told_apart_by_display himitation hgenuine
  exact ⟨⟨himitation, hgenuine⟩, mt hdisplay.mp hvisible,
    fun hidden => mt (hline hidden).1.mp hvisible⟩

example :
    (Rule.group .none (some 1) [Rule.or [.condition ⟨"a", .null false, ""⟩], Rule.or []]).visible =
      Rule.and [Rule.and [.condition ⟨"a", .null false, ""⟩], Rule.and []] := by
  rfl

end Rule

end RuleExpr
