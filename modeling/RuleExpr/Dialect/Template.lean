/-!
Templates: a text with a placeholder, two braces, where an operand goes. Only the first placeholder
counts, so an operand that contains one is left alone.
-/
namespace RuleExpr.Template

def placeholder : String := String.ofList ['{', '}']

/-- What stands before and after the first placeholder. -/
def split? : List Char → Option (List Char × List Char)
  | [] => none
  | '{' :: '}' :: rest => some ([], rest)
  | c :: rest => (split? rest).map fun (before, after) => (c :: before, after)

/-- The text is split at a placeholder before which there is no other. -/
theorem split?_eq_some_iff {text before after : List Char} :
    split? text = some (before, after) ↔
      text = before ++ '{' :: '}' :: after ∧ ¬ ['{', '}'] <:+: before := by
  fun_induction split? text generalizing before with
  | case1 => simp
  | case2 rest =>
      constructor
      · intro hsplit
        cases hsplit
        exact ⟨rfl, by simp⟩
      · rintro ⟨htext, hfirst⟩
        match before with
        | [] => simpa [eq_comm] using htext
        | [c] => simp at htext
        | c :: d :: later =>
            simp only [List.cons_append, List.cons.injEq] at htext
            obtain ⟨rfl, rfl, -⟩ := htext
            exact absurd (List.prefix_append _ later).isInfix hfirst
  | case3 c rest hplaceholder ih =>
      -- A placeholder that starts with the first character was the case before.
      have hlater (later : List Char) (hrest : rest = later ++ '{' :: '}' :: after) :
          ¬ ['{', '}'] <+: c :: later := by
        intro hprefix
        obtain ⟨rest', htext⟩ := hprefix
        simp only [List.cons_append, List.nil_append, List.cons.injEq] at htext
        obtain ⟨rfl, rfl⟩ := htext
        exact hplaceholder _ rfl hrest
      constructor
      · intro hsplit
        obtain ⟨⟨later, _⟩, hsplit, heq⟩ := Option.map_eq_some_iff.mp hsplit
        cases heq
        obtain ⟨rfl, hfirst⟩ := ih.mp hsplit
        refine ⟨rfl, ?_⟩
        rw [List.infix_cons_iff]
        exact not_or.mpr ⟨hlater later rfl, hfirst⟩
      · rintro ⟨htext, hfirst⟩
        match before with
        | [] =>
            cases htext
            exact absurd rfl (hplaceholder _ rfl)
        | d :: later =>
            cases htext
            rw [List.infix_cons_iff, not_or] at hfirst
            rw [ih.mpr ⟨rfl, hfirst.2⟩]
            rfl

def hasPlaceholder (template : String) : Bool :=
  (split? template.toList).isSome

/-- The template with the operand in place of the first placeholder; without one, as it is. -/
def fill (template operand : String) : String :=
  match split? template.toList with
  | some (before, after) => String.ofList before ++ operand ++ String.ofList after
  | none => template

end RuleExpr.Template
