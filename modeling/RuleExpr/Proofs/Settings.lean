import Mathlib.Data.List.DropRight
import RuleExpr.Dialect
import RuleExpr.Text.Braced
/-!
What the settings of a dialect come to. Each part of the dialect is the last text given for it since
another dialect was taken over, and only then are the templates checked. Those of a dialect that passes
take every operand in as it is, at their first placeholder.
-/
namespace RuleExpr

namespace Template

/-- There is a place for an operand. -/
def Receives (template : String) : Prop :=
  placeholder.toList <:+: template.toList

/-- The first placeholder of the template, with what stands around it. -/
def SplitsAt (template before after : String) : Prop :=
  template = before ++ placeholder ++ after ∧ ¬ Receives before

variable {template before after : String}

/-- A placeholder anywhere comes with a first one. -/
theorem isSome_split?_iff {text : List Char} :
    (split? text).isSome = true ↔ placeholder.toList <:+: text := by
  constructor
  · intro hsplit
    obtain ⟨⟨before, after⟩, hsplit⟩ := Option.isSome_iff_exists.mp hsplit
    obtain ⟨rfl, -⟩ := split?_eq_some_iff.mp hsplit
    exact ⟨before, after, by simp [placeholder]⟩
  · intro hinfix
    fun_induction split? text with
    | case1 => simp [placeholder] at hinfix
    | case2 rest => rfl
    | case3 c rest hplaceholder ih =>
        rw [List.infix_cons_iff] at hinfix
        obtain ⟨later, htext⟩ | hinfix := hinfix
        · -- The placeholder stands at the start, which was the case before.
          cases htext
          exact absurd rfl (hplaceholder later rfl)
        · rw [Option.isSome_map]
          exact ih hinfix

theorem hasPlaceholder_iff : hasPlaceholder template = true ↔ Receives template :=
  isSome_split?_iff

theorem splitsAt_iff :
    SplitsAt template before after ↔
      split? template.toList = some (before.toList, after.toList) := by
  rw [split?_eq_some_iff, SplitsAt, Receives, ← String.toList_inj]
  simp [placeholder]

theorem exists_splitsAt (hreceives : Receives template) :
    ∃ before after, SplitsAt template before after := by
  obtain ⟨⟨before, after⟩, hsplit⟩ := Option.isSome_iff_exists.mp (isSome_split?_iff.mpr hreceives)
  refine ⟨String.ofList before, String.ofList after, splitsAt_iff.mpr ?_⟩
  rw [hsplit, String.toList_ofList, String.toList_ofList]

theorem SplitsAt.fill (hsplits : SplitsAt template before after) (operand : String) :
    fill template operand = before ++ operand ++ after := by
  rw [Template.fill, splitsAt_iff.mp hsplits]
  simp

/-- The texts are the template with the operand where its first placeholder was. -/
def TakesIn (template : String) (texts : String → String) : Prop :=
  ∃ before after, SplitsAt template before after ∧
    ∀ operand, texts operand = before ++ operand ++ after

theorem takesIn_fill (hreceives : Receives template) : TakesIn template (fill template) := by
  obtain ⟨before, after, hsplits⟩ := exists_splitsAt hreceives
  exact ⟨before, after, hsplits, hsplits.fill⟩

end Template

open Template

namespace Dialect

/-- The four parts of a dialect. -/
inductive Slot where
  | caseFold
  | amountAccessor
  | dateConversion
  | nullLiteral
  deriving DecidableEq, Repr

def text (dialect : Dialect) : Slot → String
  | .caseFold => dialect.caseFold
  | .amountAccessor => dialect.amountAccessor
  | .dateConversion => dialect.dateConversion
  | .nullLiteral => dialect.nullLiteral

namespace Setting

/-- What the setting gives for this part and for no other. -/
def text? : Slot → Setting → Option String
  | .caseFold, .caseFold template => some template
  | .amountAccessor, .amountAccessor accessor => some accessor
  | .dateConversion, .dateConversion template => some template
  | .nullLiteral, .nullLiteral literal => some literal
  | _, _ => none

/-- The dialect that the setting takes over. -/
def dialect? : Setting → Option Dialect
  | .dialect other => some other
  | _ => none

end Setting

variable {dialect : Dialect} {setting : Setting} {settings : List Setting} {slot : Slot}

theorem set_of_dialect?_eq_some {other : Dialect} (htaken : setting.dialect? = some other) :
    dialect.set setting = other := by
  cases setting with
  | dialect taken => exact Option.some.inj htaken
  | _ => cases htaken

theorem text_set_of_dialect?_eq_none (hkept : setting.dialect? = none) :
    (dialect.set setting).text slot = (setting.text? slot).getD (dialect.text slot) := by
  cases setting with
  | dialect taken => cases hkept
  | _ => cases slot <;> rfl

/-- The settings since another dialect was taken over, all of them if none was. -/
def recent (settings : List Setting) : List Setting :=
  settings.rtakeWhile fun setting => setting.dialect?.isNone

/-- The dialect that was taken over last, MVEL if none was. -/
def base (settings : List Setting) : Dialect :=
  (settings.filterMap Setting.dialect?).getLastD mvel

/-- The last text given for this part since another dialect was taken over, else that dialect's. -/
def chosen (settings : List Setting) (slot : Slot) : String :=
  ((recent settings).filterMap (Setting.text? slot)).getLastD ((base settings).text slot)

theorem getLastD_filterMap_concat {α β : Type} (f : α → Option β) (xs : List α) (x : α) (start : β) :
    ((xs ++ [x]).filterMap f).getLastD start = (f x).getD ((xs.filterMap f).getLastD start) := by
  rw [List.filterMap_append]
  cases hx : f x <;> simp [hx]

theorem chosen_concat_of_dialect?_eq_some {other : Dialect} (htaken : setting.dialect? = some other) :
    chosen (settings ++ [setting]) slot = other.text slot := by
  have hrecent : recent (settings ++ [setting]) = [] :=
    List.rtakeWhile_concat_neg _ _ _ (by simp [htaken])
  rw [chosen, hrecent, base, getLastD_filterMap_concat, htaken]
  rfl

theorem chosen_concat_of_dialect?_eq_none (hkept : setting.dialect? = none) :
    chosen (settings ++ [setting]) slot = (setting.text? slot).getD (chosen settings slot) := by
  have hrecent : recent (settings ++ [setting]) = recent settings ++ [setting] :=
    List.rtakeWhile_concat_pos _ _ _ (by simp [hkept])
  have hbase : base (settings ++ [setting]) = base settings := by
    rw [base, getLastD_filterMap_concat, hkept]
    rfl
  rw [chosen, hrecent, hbase, getLastD_filterMap_concat]
  rfl

/-- A run of settings from MVEL. -/
theorem text_foldl_set (settings : List Setting) (slot : Slot) :
    (settings.foldl set mvel).text slot = chosen settings slot := by
  -- From the end, since what a setting does is undone by those after it only.
  induction settings using List.reverseRecOn with
  | nil => rfl
  | append_singleton settings setting ih =>
      rw [List.foldl_append, List.foldl_cons, List.foldl_nil]
      cases htaken : setting.dialect? with
      | some other => rw [set_of_dialect?_eq_some htaken, chosen_concat_of_dialect?_eq_some htaken]
      | none =>
          rw [text_set_of_dialect?_eq_none htaken, chosen_concat_of_dialect?_eq_none htaken, ih]

theorem check_eq_ok_iff {checked : Dialect} :
    dialect.check = .ok checked ↔
      Receives dialect.caseFold ∧ Receives dialect.dateConversion ∧ dialect = checked := by
  rw [← hasPlaceholder_iff, ← hasPlaceholder_iff, check]
  grind

theorem check_eq_error_iff {missing : MissingPlaceholder} :
    dialect.check = .error missing ↔
      ¬ Receives dialect.caseFold ∧ missing = ⟨.caseFold, dialect.caseFold⟩ ∨
        Receives dialect.caseFold ∧ ¬ Receives dialect.dateConversion ∧
          missing = ⟨.dateConversion, dialect.dateConversion⟩ := by
  rw [← hasPlaceholder_iff, ← hasPlaceholder_iff, check]
  grind

/-- Every part is the last text given for it since another dialect was taken over, else that
dialect's, else MVEL's. The settings make a dialect exactly if an operand has a place in both of its
templates, whatever they were on the way, and of two that have none the one for case folding is named.
Both templates of a dialect so made keep every operand, one with a placeholder in it too. -/
theorem settings_lose_no_operand (settings : List Setting) :
    ((∃ dialect, ofSettings settings = .ok dialect) ↔
      Receives (chosen settings .caseFold) ∧ Receives (chosen settings .dateConversion)) ∧
    (∀ missing, ofSettings settings = .error missing ↔
      ¬ Receives (chosen settings .caseFold) ∧ missing = ⟨.caseFold, chosen settings .caseFold⟩ ∨
        Receives (chosen settings .caseFold) ∧ ¬ Receives (chosen settings .dateConversion) ∧
          missing = ⟨.dateConversion, chosen settings .dateConversion⟩) ∧
    ∀ dialect, ofSettings settings = .ok dialect →
      (∀ slot, dialect.text slot = chosen settings slot) ∧
        TakesIn dialect.caseFold dialect.fold ∧ TakesIn dialect.dateConversion dialect.date := by
  have hfold : (settings.foldl set mvel).caseFold = chosen settings .caseFold :=
    text_foldl_set settings .caseFold
  have hdate : (settings.foldl set mvel).dateConversion = chosen settings .dateConversion :=
    text_foldl_set settings .dateConversion
  refine ⟨?_, ?_, ?_⟩
  · simp [ofSettings, check_eq_ok_iff, hfold, hdate]
  · intro missing
    rw [ofSettings, check_eq_error_iff, hfold, hdate]
  · intro dialect hbuilt
    obtain ⟨hreceives, hreceivesDate, rfl⟩ := check_eq_ok_iff.mp hbuilt
    exact ⟨text_foldl_set settings, takesIn_fill hreceives, takesIn_fill hreceivesDate⟩

/-- Two templates are without a placeholder until another dialect and another template replace them. -/
theorem replaced_templates_keep_operands :
    let upper := s!"up({placeholder})"
    let nested := Text.braced placeholder
    ofSettings [.caseFold "upper", .dialect ⟨upper, ".cents", "day", "nil"⟩,
        .dateConversion nested] = .ok ⟨upper, ".cents", nested, "nil"⟩ ∧
      TakesIn upper (fold ⟨upper, ".cents", nested, "nil"⟩) ∧
        TakesIn nested (date ⟨upper, ".cents", nested, "nil"⟩) := by
  intro upper nested
  have hbuilt : ofSettings [.caseFold "upper", .dialect ⟨upper, ".cents", "day", "nil"⟩,
      .dateConversion nested] = .ok ⟨upper, ".cents", nested, "nil"⟩ := by
    decide
  exact ⟨hbuilt, ((settings_lose_no_operand _).2.2 _ hbuilt).2⟩

end Dialect

end RuleExpr
