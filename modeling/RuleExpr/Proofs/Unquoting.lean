import RuleExpr.Proofs.Token
/-!
Reading a quoted text back. A literal is read from the start of a line exactly as the grammar of literals
has it, and so as the lexer finds it. A quoted text is one such literal, so it is read back as it was and
up to its closing quote, whatever the line goes on with.
-/
namespace RuleExpr.Text

open Token

/-- The text of a literal from within it on, and what follows its closing quote. -/
def unquoteInside? : List Char → Option (List Char × List Char)
  | [] => none
  | '"' :: following => some ([], following)
  | '\\' :: letter :: rest => do
      let c ← Token.escaped? letter
      let (text, following) ← unquoteInside? rest
      return (c :: text, following)
  | c :: rest =>
      if c = '\\' then none
      else do
        let (text, following) ← unquoteInside? rest
        return (c :: text, following)

/-- The text of the literal that a line starts with, and what follows the literal. -/
def unquote? (line : String) : Option (String × String) :=
  match line.toList with
  | '"' :: rest => (unquoteInside? rest).map (Prod.map String.ofList String.ofList)
  | _ => none

/-- A literal that is written by the grammar is read up to the quote behind it. -/
theorem unquoteInside?_append {text written : List Char} (h : WrittenAs text written)
    (following : List Char) :
    unquoteInside? (written ++ '"' :: following) = some (text, following) := by
  induction h with
  | nil => rfl
  | @plain c text written hquote hslash h ih =>
      rw [List.cons_append, unquoteInside?, if_neg hslash, ih]
      · rfl
      · exact hquote
      · rintro letter rest rfl
        exact absurd rfl hslash
  | @escaped c letter text written hletter h ih =>
      rw [List.cons_append, List.cons_append, unquoteInside?, hletter, ih]
      rfl

/-- What is read of a literal is written by the grammar, with a quote behind it. -/
theorem eq_append_of_unquoteInside? {line text following : List Char}
    (h : unquoteInside? line = some (text, following)) :
    ∃ written, WrittenAs text written ∧ line = written ++ '"' :: following := by
  fun_induction unquoteInside? line generalizing text with
  | case1 => cases h
  | case2 later =>
      cases h
      exact ⟨[], .nil, rfl⟩
  | case3 letter rest ih =>
      simp only [Option.bind_eq_bind, Option.bind_eq_some_iff, Prod.exists, Option.pure_def] at h
      obtain ⟨c, hletter, found, later, hfound, hdone⟩ := h
      cases hdone
      obtain ⟨written, hwritten, rfl⟩ := ih hfound
      exact ⟨'\\' :: letter :: written, .escaped hletter hwritten, rfl⟩
  | case4 => cases h
  | case5 c rest hquote _ hslash ih =>
      simp only [Option.bind_eq_bind, Option.bind_eq_some_iff, Prod.exists, Option.pure_def] at h
      obtain ⟨found, later, hfound, hdone⟩ := h
      cases hdone
      obtain ⟨written, hwritten, rfl⟩ := ih hfound
      exact ⟨c :: written, .plain hquote hslash hwritten, rfl⟩

/-- A literal is read exactly where a line starts with one. -/
theorem unquote?_eq_some_iff {line text following : String} :
    unquote? line = some (text, following) ↔
      ∃ written, WrittenAs text.toList written ∧
        line.toList = '"' :: (written ++ '"' :: following.toList) := by
  constructor
  · intro h
    unfold unquote? at h
    split at h
    case h_1 rest hline =>
        simp only [Option.map_eq_some_iff, Prod.exists, Prod.map_apply, Prod.mk.injEq] at h
        obtain ⟨found, later, hfound, rfl, rfl⟩ := h
        obtain ⟨written, hwritten, rfl⟩ := eq_append_of_unquoteInside? hfound
        rw [String.toList_ofList, String.toList_ofList]
        exact ⟨written, hwritten, hline⟩
    case h_2 => cases h
  · rintro ⟨written, hwritten, hline⟩
    simp [unquote?, hline, unquoteInside?_append hwritten]

/-- Reading a literal from the start of a line is lexing it and decoding what stands in it. -/
theorem unquote?_eq_some_iff_decode? {line text following : String} :
    unquote? line = some (text, following) ↔
      ∃ written, line.toList = chars (literal written) ++ following.toList ∧
        outside (chars (literal written)) = some [literal written] ∧
          decode? written = some text.toList := by
  simp only [unquote?_eq_some_iff, writtenAs_iff]
  constructor
  · rintro ⟨written, hwritten, hline⟩
    exact ⟨written, by simpa [chars] using hline, hwritten⟩
  · rintro ⟨written, hline, hwritten⟩
    exact ⟨written, hwritten, by simpa [chars] using hline⟩

theorem unquote?_quoted_append (text following : String) :
    unquote? (quoted text ++ following) = some (text, following) := by
  rw [unquote?_eq_some_iff]
  refine ⟨text.toList.flatMap quotedChar, writtenAs_quoted text.toList, ?_⟩
  simp [quoted, quotedChars]

/-- No quoted text goes on where another one ends. -/
theorem quoted_prefix_iff {text other : String} :
    (quoted text).toList <+: (quoted other).toList ↔ text = other := by
  constructor
  · rintro ⟨rest, hrest⟩
    have hwhole : quoted text ++ String.ofList rest = quoted other ++ "" := by
      rw [← String.toList_inj, String.toList_append, String.toList_ofList, hrest]
      simp
    have hread := unquote?_quoted_append text (String.ofList rest)
    rw [hwhole, unquote?_quoted_append, Option.some.injEq, Prod.mk.injEq] at hread
    exact hread.1.symm
  · rintro rfl
    exact List.prefix_rfl

/-- The line breaks and the tab have letters of their own between quotes. -/
theorem not_mem_quoted {c : Char} (hc : c = '\n' ∨ c = '\r' ∨ c = '\t') (text : String) :
    c ∉ (quoted text).toList := by
  have hchar (d : Char) : c ∉ quotedChar d := by
    unfold quotedChar
    split <;> grind
  have hquote : c ≠ '"' := by
    rcases hc with rfl | rfl | rfl <;> decide
  simp [quoted, quotedChars, hquote, hchar]

/-- A literal is read from a line exactly if the line starts with one. From a line that starts with a
quoted text that text is read, and what follows it is left. There are no line breaks and no tabs in a
quoted text, and it is neither another quoted text nor the start of one. -/
theorem quoted_reads_back (text following : String) :
    (∀ line, unquote? line = some (text, following) ↔
      ∃ written, WrittenAs text.toList written ∧
        line.toList = '"' :: (written ++ '"' :: following.toList)) ∧
    unquote? (quoted text ++ following) = some (text, following) ∧
    ('\n' ∉ (quoted text).toList ∧ '\r' ∉ (quoted text).toList ∧ '\t' ∉ (quoted text).toList) ∧
    ∀ other, (quoted text = quoted other ↔ text = other) ∧
      ((quoted text).toList <+: (quoted other).toList ↔ text = other) := by
  have hbreaks (c : Char) (hc : c = '\n' ∨ c = '\r' ∨ c = '\t') : c ∉ (quoted text).toList :=
    not_mem_quoted hc text
  refine ⟨fun line => unquote?_eq_some_iff, unquote?_quoted_append text following,
    ⟨hbreaks _ (by simp), hbreaks _ (by simp), hbreaks _ (by simp)⟩, ?_⟩
  intro other
  refine ⟨⟨?_, congrArg quoted⟩, quoted_prefix_iff⟩
  intro heq
  have hstarts : (quoted text).toList <+: (quoted other).toList := ⟨[], by rw [heq, List.append_nil]⟩
  exact quoted_prefix_iff.mp hstarts

example : unquote? (quoted "\\\"\t\\" ++ "\" == \"x\"") = some ("\\\"\t\\", "\" == \"x\"") := by
  decide

end RuleExpr.Text
