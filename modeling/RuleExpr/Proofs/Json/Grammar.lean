import RuleExpr.Proofs.Json.Numeral
import RuleExpr.Proofs.Json.Pieces
/-!
The grammar of JSON. A value can be written in many ways, with blanks between its parts, with escapes in
its texts and with more than one spelling of a number. Reading accepts exactly the texts of the grammar,
and gives the value that they write.
-/
namespace RuleExpr.Json

/-- The number that a numeral stands for, which is kept as it is written unless it is natural. -/
def Numeral.value (numeral : Numeral) (text : List Char) : Json :=
  if !numeral.inRange then unusable
  else if numeral.plain then natural (ofDigits numeral.whole)
  else number (String.ofList text)

/-- The text of the pieces; there is none if half of a surrogate pair stands alone. -/
def Piece.text? (pieces : List Piece) : Option String :=
  (join? pieces).map String.ofList

def IsBlank (text : List Char) : Prop :=
  ∀ c ∈ text, isSpace c = true

/-- A name in quotes, with blanks around it. -/
inductive WritesName : Option String → List Char → Prop
  | quoted {left right text : List Char} {pieces : List Piece} : IsBlank left → IsBlank right →
      Piece.Spelled pieces text → WritesName (Piece.text? pieces) (left ++ '"' :: (text ++ '"' :: right))

/-- A member of an object, and how its two parts are written. -/
structure Entry where
  name : Option String
  nameText : List Char
  value : Json
  valueText : List Char

namespace Entry

def member (entry : Entry) : Option String × Json :=
  (entry.name, entry.value)

def text (entry : Entry) : List Char :=
  entry.nameText ++ ':' :: entry.valueText

end Entry

/-- The text writes the value. -/
inductive Writes : Json → List Char → Prop
  | padded {left text right : List Char} {value : Json} : IsBlank left → IsBlank right →
      Writes value text → Writes value (left ++ (text ++ right))
  | null : Writes .null ['n', 'u', 'l', 'l']
  | bool (value : Bool) : Writes (.bool value)
      (if value then ['t', 'r', 'u', 'e'] else ['f', 'a', 'l', 's', 'e'])
  | number {numeral : Numeral} {text : List Char} : numeral.Spelled text →
      Writes (numeral.value text) text
  | text {pieces : List Piece} {text : List Char} : Piece.Spelled pieces text →
      Writes (((Piece.text? pieces).map .text).getD unusable) ('"' :: (text ++ ['"']))
  | emptyList {blanks : List Char} : IsBlank blanks → Writes (.list []) ('[' :: (blanks ++ [']']))
  | list {items : List (Json × List Char)} : items ≠ [] →
      (∀ item ∈ items, Writes item.1 item.2) →
        Writes (.list (items.map Prod.fst)) ('[' :: ([','].intercalate (items.map Prod.snd) ++ [']']))
  | emptyObject {blanks : List Char} : IsBlank blanks →
      Writes (.object []) ('{' :: (blanks ++ ['}']))
  | object {entries : List Entry} : entries ≠ [] →
      (∀ entry ∈ entries, WritesName entry.name entry.nameText) →
        (∀ entry ∈ entries, Writes entry.value entry.valueText) →
          Writes (ofMembers (entries.map Entry.member))
            ('{' :: ([','].intercalate (entries.map Entry.text) ++ ['}']))

theorem intercalate_comma (part : List Char) {parts : List (List Char)} (hne : parts ≠ []) :
    [','].intercalate (part :: parts) = part ++ ',' :: [','].intercalate parts := by
  obtain ⟨next, parts, rfl⟩ := List.exists_cons_of_ne_nil hne
  rw [List.intercalate_cons_cons, List.append_assoc, List.singleton_append]

/-! ## Blanks -/

theorem skipSpace_append {blanks : List Char} (hblanks : IsBlank blanks) (cs : List Char) :
    skipSpace (blanks ++ cs) = skipSpace cs :=
  List.dropWhile_append_of_pos hblanks

theorem skipSpace_cons {c : Char} (hc : isSpace c = false) (cs : List Char) :
    skipSpace (c :: cs) = c :: cs :=
  List.dropWhile_cons_of_neg (by simp [hc])

/-- What is skipped is blank. -/
theorem exists_blank_append_skipSpace (cs : List Char) :
    ∃ blanks, IsBlank blanks ∧ cs = blanks ++ skipSpace cs :=
  ⟨cs.takeWhile isSpace, fun _ hc => List.mem_takeWhile_imp hc,
    List.takeWhile_append_dropWhile.symm⟩

theorem readValue?_congr {cs cs' : List Char} (h : skipSpace cs = skipSpace cs') (fuel : Nat) :
    readValue? fuel cs = readValue? fuel cs' := by
  cases fuel with
  | zero => rfl
  | succ fuel => rw [readValue?, readValue?, h]

theorem readItems?_congr {cs cs' : List Char} (h : skipSpace cs = skipSpace cs') (fuel : Nat) :
    readItems? fuel cs = readItems? fuel cs' := by
  cases fuel with
  | zero => rfl
  | succ fuel => rw [readItems?, readItems?, readValue?_congr h]

theorem readMembers?_congr {cs cs' : List Char} (h : skipSpace cs = skipSpace cs') (fuel : Nat) :
    readMembers? fuel cs = readMembers? fuel cs' := by
  cases fuel with
  | zero => rfl
  | succ fuel => rw [readMembers?, readMembers?, h]

theorem skipSpace_skipSpace (cs : List Char) : skipSpace (skipSpace cs) = skipSpace cs :=
  List.dropWhile_idempotent isSpace cs

/-! ## What is written is read -/

/-- The text is read as the value, whatever comes after it. Of what comes after it, only blanks may be
taken as well. -/
def IsRead (value : Json) (text : List Char) : Prop :=
  ∀ fuel rest, 2 * text.length ≤ fuel + 1 → Numeral.Ends rest →
    ∃ after, readValue? (fuel + 1) (text ++ rest) = some (value, after) ∧
      skipSpace after = skipSpace rest

theorem ends_append {blanks rest : List Char} (hblanks : IsBlank blanks) (hrest : Numeral.Ends rest) :
    Numeral.Ends (blanks ++ rest) := by
  cases blanks with
  | nil => exact hrest
  | cons c blanks =>
      intro d hd
      obtain rfl : c = d := Option.some.inj hd
      have hc := hblanks c List.mem_cons_self
      simp only [isSpace, Bool.or_eq_true, beq_iff_eq] at hc
      rcases hc with ((rfl | rfl) | rfl) | rfl <;> decide

theorem ends_cons {c : Char} (hc : c = ',' ∨ c = ']' ∨ c = '}') (rest : List Char) :
    Numeral.Ends (c :: rest) := by
  intro d hd
  obtain rfl : c = d := Option.some.inj hd
  rcases hc with rfl | rfl | rfl <;> decide

theorem isRead_padded {left text right : List Char} {value : Json} (hleft : IsBlank left)
    (hright : IsBlank right) (h : IsRead value text) : IsRead value (left ++ (text ++ right)) := by
  intro fuel rest hfuel hrest
  simp only [List.length_append] at hfuel
  obtain ⟨after, hread, hafter⟩ := h fuel (right ++ rest) (by omega) (ends_append hright hrest)
  refine ⟨after, ?_, hafter.trans (skipSpace_append hright rest)⟩
  rw [← hread, List.append_assoc, List.append_assoc]
  exact readValue?_congr (skipSpace_append hleft _) (fuel + 1)

theorem isRead_bool (value : Bool) : IsRead (.bool value)
    (if value then ['t', 'r', 'u', 'e'] else ['f', 'a', 'l', 's', 'e']) := by
  intro fuel rest hfuel hrest
  cases value with
  | true => exact ⟨rest, rfl, rfl⟩
  | false => exact ⟨rest, rfl, rfl⟩

theorem isRead_null : IsRead .null ['n', 'u', 'l', 'l'] := by
  intro fuel rest hfuel hrest
  exact ⟨rest, rfl, rfl⟩

theorem readText?_append {pieces : List Piece} {text : List Char} (h : Piece.Spelled pieces text)
    (rest : List Char) : readText? (text ++ '"' :: rest) = some (Piece.text? pieces, rest) := by
  rw [readText?, pieces?_append h]
  rfl

theorem isRead_text {pieces : List Piece} {text : List Char} (h : Piece.Spelled pieces text) :
    IsRead (((Piece.text? pieces).map .text).getD unusable) ('"' :: (text ++ ['"'])) := by
  intro fuel rest hfuel hrest
  refine ⟨rest, ?_, rfl⟩
  rw [List.cons_append, List.append_assoc, List.singleton_append, readValue?,
    skipSpace_cons (by decide)]
  simp only [readText?_append h, Option.bind_eq_bind, Option.bind_some, Option.pure_def]

/-- What starts like a number is read as one. -/
theorem readValue?_of_first {c : Char} (hc : c = '-' ∨ c.isDigit = true) (fuel : Nat)
    (cs : List Char) : readValue? (fuel + 1) (c :: cs) = readNumber? (c :: cs) := by
  have hother (d : Char) (hd : d ≠ '-' ∧ d.isDigit = false) : c ≠ d := by
    rintro rfl
    simp [hd] at hc
  have hspace : isSpace c = false := by
    simp only [isSpace, Bool.or_eq_false_iff, beq_eq_false_iff_ne]
    exact ⟨⟨⟨hother ' ' (by decide), hother '\n' (by decide)⟩, hother '\t' (by decide)⟩,
      hother '\r' (by decide)⟩
  rw [readValue?, skipSpace_cons hspace]
  split
  case h_1 heq => exact absurd (List.cons.inj heq).1 (hother 'n' (by decide))
  case h_2 heq => exact absurd (List.cons.inj heq).1 (hother 't' (by decide))
  case h_3 heq => exact absurd (List.cons.inj heq).1 (hother 'f' (by decide))
  case h_4 heq => exact absurd (List.cons.inj heq).1 (hother '"' (by decide))
  case h_5 heq => exact absurd (List.cons.inj heq).1 (hother '[' (by decide))
  case h_6 heq => exact absurd (List.cons.inj heq).1 (hother '{' (by decide))
  case h_7 => rfl

theorem isRead_number {numeral : Numeral} {text : List Char} (h : numeral.Spelled text) :
    IsRead (numeral.value text) text := by
  intro fuel rest hfuel hrest
  obtain ⟨c, later, htext, hc⟩ := h.exists_first
  refine ⟨rest, ?_, rfl⟩
  have hnumber : readValue? (fuel + 1) (text ++ rest) = readNumber? (text ++ rest) := by
    rw [htext, List.cons_append, readValue?_of_first hc]
  have htake : (text ++ rest).take ((text ++ rest).length - rest.length) = text := by
    rw [List.length_append, Nat.add_sub_cancel, List.take_left]
  rw [hnumber, readNumber?, Numeral.scan?_append h hrest]
  simp only [Option.bind_eq_bind, Option.bind_some, Option.pure_def, htake, Numeral.value]

theorem readItems?_item {value : Json} {text : List Char} (hvalue : IsRead value text) {fuel : Nat}
    (hfuel : 2 * text.length ≤ fuel + 1) {c : Char} (hc : c = ',' ∨ c = ']') (rest : List Char) :
    readItems? (fuel + 2) (text ++ c :: rest) =
      if c = ',' then (readItems? (fuel + 1) rest).map fun (values, rest) => (value :: values, rest)
      else some ([value], rest) := by
  have hends : Numeral.Ends (c :: rest) := ends_cons (by tauto) rest
  obtain ⟨after, hread, hafter⟩ := hvalue fuel (c :: rest) hfuel hends
  rw [readItems?, hread]
  rcases hc with rfl | rfl
  · rw [skipSpace_cons (by decide)] at hafter
    simp only [Option.bind_eq_bind, Option.bind_some, hafter, if_true]
    cases readItems? (fuel + 1) rest <;> rfl
  · rw [skipSpace_cons (by decide)] at hafter
    simp only [Option.bind_eq_bind, Option.bind_some, hafter]
    rfl

theorem readItems?_append {items : List (Json × List Char)} (hne : items ≠ [])
    (hitems : ∀ item ∈ items, IsRead item.1 item.2) {fuel : Nat}
    (hfuel : 2 * ([','].intercalate (items.map Prod.snd)).length + 1 < fuel) (rest : List Char) :
    readItems? fuel ([','].intercalate (items.map Prod.snd) ++ ']' :: rest) =
      some (items.map Prod.fst, rest) := by
  induction items generalizing fuel with
  | nil => contradiction
  | cons item items ih =>
      obtain ⟨fuel, rfl⟩ : ∃ n, fuel = n + 2 := ⟨fuel - 2, by omega⟩
      have hitem := hitems item List.mem_cons_self
      cases items with
      | nil =>
          simp only [List.map_cons, List.map_nil, List.intercalate_singleton] at hfuel ⊢
          rw [readItems?_item hitem (by omega) (Or.inr rfl)]
          rfl
      | cons next items =>
          rw [List.map_cons, intercalate_comma item.2 (by simp)] at hfuel ⊢
          simp only [List.length_append, List.length_cons] at hfuel
          rw [List.append_assoc, List.cons_append, readItems?_item hitem (by omega) (Or.inl rfl),
            if_pos rfl, ih (by simp) (fun item h => hitems item (List.mem_cons_of_mem _ h)) (by omega)]
          rfl

/-- A name is read up to the colon. -/
theorem WritesName.exists_readText {name : Option String} {text : List Char}
    (h : WritesName name text) (rest : List Char) :
    ∃ quoted after, skipSpace (text ++ ':' :: rest) = '"' :: quoted ∧
      readText? quoted = some (name, after) ∧ skipSpace after = ':' :: rest := by
  obtain @⟨left, right, text, pieces, hleft, hright, hspelled⟩ := h
  refine ⟨text ++ '"' :: (right ++ ':' :: rest), right ++ ':' :: rest, ?_,
    readText?_append hspelled _, ?_⟩
  · rw [List.append_assoc, skipSpace_append hleft, List.cons_append, List.append_assoc,
      skipSpace_cons (by decide), List.cons_append]
  · rw [skipSpace_append hright, skipSpace_cons (by decide)]

theorem readMembers?_entry {entry : Entry} (hname : WritesName entry.name entry.nameText)
    (hvalue : IsRead entry.value entry.valueText) {fuel : Nat}
    (hfuel : 2 * entry.valueText.length ≤ fuel + 1) {c : Char} (hc : c = ',' ∨ c = '}')
    (rest : List Char) :
    readMembers? (fuel + 2) (entry.text ++ c :: rest) =
      if c = ',' then
        (readMembers? (fuel + 1) rest).map fun (members, rest) => (entry.member :: members, rest)
      else some ([entry.member], rest) := by
  have hends : Numeral.Ends (c :: rest) := ends_cons (by tauto) rest
  obtain ⟨after, hread, hafter⟩ := hvalue fuel (c :: rest) hfuel hends
  obtain ⟨quoted, colon, hquoted, htext, hcolon⟩ := hname.exists_readText (entry.valueText ++ c :: rest)
  rw [Entry.text, List.append_assoc, List.cons_append, readMembers?, hquoted]
  simp only [htext, Option.bind_eq_bind, Option.bind_some, hcolon]
  simp only [hread, Option.bind_some]
  rcases hc with rfl | rfl
  · rw [skipSpace_cons (by decide)] at hafter
    simp only [hafter, if_true]
    cases readMembers? (fuel + 1) rest <;> rfl
  · rw [skipSpace_cons (by decide)] at hafter
    simp only [hafter]
    rfl

theorem readMembers?_append {entries : List Entry} (hne : entries ≠ [])
    (hnames : ∀ entry ∈ entries, WritesName entry.name entry.nameText)
    (hvalues : ∀ entry ∈ entries, IsRead entry.value entry.valueText) {fuel : Nat}
    (hfuel : 2 * ([','].intercalate (entries.map Entry.text)).length + 1 < fuel) (rest : List Char) :
    readMembers? fuel ([','].intercalate (entries.map Entry.text) ++ '}' :: rest) =
      some (entries.map Entry.member, rest) := by
  induction entries generalizing fuel with
  | nil => contradiction
  | cons entry entries ih =>
      obtain ⟨fuel, rfl⟩ : ∃ n, fuel = n + 2 := ⟨fuel - 2, by omega⟩
      have hname := hnames entry List.mem_cons_self
      have hvalue := hvalues entry List.mem_cons_self
      have hlength : entry.valueText.length ≤ entry.text.length := by
        simp [Entry.text]
        omega
      cases entries with
      | nil =>
          simp only [List.map_cons, List.map_nil, List.intercalate_singleton] at hfuel ⊢
          rw [readMembers?_entry hname hvalue (by omega) (Or.inr rfl)]
          rfl
      | cons next entries =>
          rw [List.map_cons, intercalate_comma entry.text (by simp)] at hfuel ⊢
          simp only [List.length_append, List.length_cons] at hfuel
          rw [List.append_assoc, List.cons_append,
            readMembers?_entry hname hvalue (by omega) (Or.inl rfl), if_pos rfl,
            ih (by simp) (fun entry h => hnames entry (List.mem_cons_of_mem _ h))
              (fun entry h => hvalues entry (List.mem_cons_of_mem _ h)) (by omega)]
          rfl

/-- No item starts with the bracket that closes a list. -/
theorem readItems?_bracket {cs rest : List Char} (h : skipSpace cs = ']' :: rest) (fuel : Nat) :
    readItems? fuel cs = none := by
  cases fuel with
  | zero => rfl
  | succ fuel =>
      cases fuel with
      | zero => rfl
      | succ fuel =>
          have hvalue : readValue? (fuel + 1) cs = none := by
            rw [readValue?, h]
            rfl
          rw [readItems?, hvalue]
          rfl

/-- No member starts with the brace that closes an object. -/
theorem readMembers?_brace {cs rest : List Char} (h : skipSpace cs = '}' :: rest) (fuel : Nat) :
    readMembers? fuel cs = none := by
  cases fuel with
  | zero => rfl
  | succ fuel =>
      rw [readMembers?, h]
      rfl

theorem readValue?_openList (fuel : Nat) (cs : List Char) :
    readValue? (fuel + 1) ('[' :: cs) = match skipSpace cs with
      | ']' :: rest => some (.list [], rest)
      | rest => do
          let (items, rest) ← readItems? fuel rest
          return (.list items, rest) := by
  rw [readValue?, skipSpace_cons (by decide)]
  rfl

theorem readValue?_openObject (fuel : Nat) (cs : List Char) :
    readValue? (fuel + 1) ('{' :: cs) = match skipSpace cs with
      | '}' :: rest => some (.object [], rest)
      | rest => do
          let (members, rest) ← readMembers? fuel rest
          return (ofMembers members, rest) := by
  rw [readValue?, skipSpace_cons (by decide)]
  rfl

theorem readValue?_list {fuel : Nat} {cs rest : List Char} {items : List Json}
    (h : readItems? fuel cs = some (items, rest)) :
    readValue? (fuel + 1) ('[' :: cs) = some (.list items, rest) := by
  rw [readValue?_openList]
  split
  · rename_i hclosed
    cases (readItems?_bracket hclosed fuel).symm.trans h
  · rw [readItems?_congr (skipSpace_skipSpace cs), h]
    rfl

theorem readValue?_object {fuel : Nat} {cs rest : List Char} {members : List (Option String × Json)}
    (h : readMembers? fuel cs = some (members, rest)) :
    readValue? (fuel + 1) ('{' :: cs) = some (ofMembers members, rest) := by
  rw [readValue?_openObject]
  split
  · rename_i hclosed
    cases (readMembers?_brace hclosed fuel).symm.trans h
  · rw [readMembers?_congr (skipSpace_skipSpace cs), h]
    rfl

theorem readValue?_emptyList {blanks : List Char} (hblanks : IsBlank blanks) (fuel : Nat)
    (rest : List Char) :
    readValue? (fuel + 1) ('[' :: (blanks ++ ']' :: rest)) = some (.list [], rest) := by
  rw [readValue?_openList, skipSpace_append hblanks, skipSpace_cons (by decide)]
  rfl

theorem readValue?_emptyObject {blanks : List Char} (hblanks : IsBlank blanks) (fuel : Nat)
    (rest : List Char) :
    readValue? (fuel + 1) ('{' :: (blanks ++ '}' :: rest)) = some (.object [], rest) := by
  rw [readValue?_openObject, skipSpace_append hblanks, skipSpace_cons (by decide)]
  rfl

theorem Writes.isRead {value : Json} {text : List Char} (h : Writes value text) :
    IsRead value text := by
  induction h with
  | padded hleft hright _ ih => exact isRead_padded hleft hright ih
  | null => exact isRead_null
  | bool value => exact isRead_bool value
  | number h => exact isRead_number h
  | text h => exact isRead_text h
  | emptyList hblanks =>
      intro fuel rest hfuel hrest
      refine ⟨rest, ?_, rfl⟩
      rw [List.cons_append, List.append_assoc]
      exact readValue?_emptyList hblanks fuel rest
  | list hne _ ih =>
      intro fuel rest hfuel hrest
      simp only [List.length_cons, List.length_append] at hfuel
      refine ⟨rest, ?_, rfl⟩
      rw [List.cons_append, List.append_assoc]
      exact readValue?_list (readItems?_append hne ih (by omega) rest)
  | emptyObject hblanks =>
      intro fuel rest hfuel hrest
      refine ⟨rest, ?_, rfl⟩
      rw [List.cons_append, List.append_assoc]
      exact readValue?_emptyObject hblanks fuel rest
  | object hne hnames _ ih =>
      intro fuel rest hfuel hrest
      simp only [List.length_cons, List.length_append] at hfuel
      refine ⟨rest, ?_, rfl⟩
      rw [List.cons_append, List.append_assoc]
      exact readValue?_object (readMembers?_append hne hnames ih (by omega) rest)

/-! ## What is read was written -/

/-- A reading takes a text from the start of what it is given, and that text writes what was read. -/
structure IsFaithful (fuel : Nat) : Prop where
  value {cs rest : List Char} {value : Json} : readValue? fuel cs = some (value, rest) →
    ∃ text, cs = text ++ rest ∧ Writes value text
  items {cs rest : List Char} {items : List Json} : readItems? fuel cs = some (items, rest) →
    ∃ found : List (Json × List Char), found ≠ [] ∧ (∀ item ∈ found, Writes item.1 item.2) ∧
      items = found.map Prod.fst ∧ cs = [','].intercalate (found.map Prod.snd) ++ ']' :: rest
  members {cs rest : List Char} {members : List (Option String × Json)} :
    readMembers? fuel cs = some (members, rest) →
      ∃ entries : List Entry, entries ≠ [] ∧
        (∀ entry ∈ entries, WritesName entry.name entry.nameText) ∧
          (∀ entry ∈ entries, Writes entry.value entry.valueText) ∧
            members = entries.map Entry.member ∧
              cs = [','].intercalate (entries.map Entry.text) ++ '}' :: rest

theorem isBlank_nil : IsBlank [] :=
  fun _ hc => nomatch hc

theorem Writes.append_blank {value : Json} {text blanks : List Char} (h : Writes value text)
    (hblanks : IsBlank blanks) : Writes value (text ++ blanks) :=
  .padded isBlank_nil hblanks h

theorem Writes.blank_append {value : Json} {text blanks : List Char} (h : Writes value text)
    (hblanks : IsBlank blanks) : Writes value (blanks ++ text) := by
  simpa using Writes.padded hblanks isBlank_nil h

/-- A character after blanks. -/
theorem exists_blank_append_cons {cs rest : List Char} {c : Char} (h : skipSpace cs = c :: rest) :
    ∃ blanks, IsBlank blanks ∧ cs = blanks ++ c :: rest :=
  h ▸ exists_blank_append_skipSpace cs

theorem eq_append_of_readText? {cs rest : List Char} {value : Option String}
    (h : readText? cs = some (value, rest)) :
    ∃ text pieces, cs = text ++ '"' :: rest ∧ Piece.Spelled pieces text ∧
      value = Piece.text? pieces := by
  simp only [readText?, Option.bind_eq_bind, Option.bind_eq_some_iff, Prod.exists,
    Option.pure_def] at h
  obtain ⟨pieces, rest', hpieces, hdone⟩ := h
  cases hdone
  obtain ⟨text, hcs, hspelled⟩ := eq_append_of_pieces? hpieces
  exact ⟨text, pieces, hcs, hspelled, rfl⟩

/-- What comes before a colon writes a name. -/
theorem exists_writesName {cs quoted after rest : List Char} {name : Option String}
    (hquoted : skipSpace cs = '"' :: quoted) (hread : readText? quoted = some (name, after))
    (hcolon : skipSpace after = ':' :: rest) :
    ∃ text, cs = text ++ ':' :: rest ∧ WritesName name text := by
  obtain ⟨left, hleft, rfl⟩ := exists_blank_append_cons hquoted
  obtain ⟨text, pieces, rfl, hspelled, rfl⟩ := eq_append_of_readText? hread
  obtain ⟨right, hright, rfl⟩ := exists_blank_append_cons hcolon
  exact ⟨left ++ '"' :: (text ++ '"' :: right), by simp, .quoted hleft hright hspelled⟩

theorem eq_append_of_readNumber? {cs rest : List Char} {value : Json}
    (h : readNumber? cs = some (value, rest)) : ∃ text, cs = text ++ rest ∧ Writes value text := by
  simp only [readNumber?, Option.bind_eq_bind, Option.bind_eq_some_iff, Prod.exists,
    Option.pure_def] at h
  obtain ⟨numeral, rest', hscan, hdone⟩ := h
  cases hdone
  obtain ⟨text, rfl, hspelled⟩ := Numeral.eq_append_of_scan? hscan
  rw [List.length_append, Nat.add_sub_cancel, List.take_left]
  exact ⟨text, rfl, .number hspelled⟩

namespace IsFaithful

variable {fuel : Nat} (ih : IsFaithful fuel)
include ih

theorem openList {cs rest : List Char} {value : Json}
    (h : readValue? (fuel + 1) ('[' :: cs) = some (value, rest)) :
    ∃ text, '[' :: cs = text ++ rest ∧ Writes value text := by
  rw [readValue?_openList] at h
  split at h
  · rename_i hclosed
    cases h
    obtain ⟨blanks, hblanks, rfl⟩ := exists_blank_append_cons hclosed
    exact ⟨'[' :: (blanks ++ [']']), by simp, .emptyList hblanks⟩
  · simp only [Option.bind_eq_bind, Option.bind_eq_some_iff, Prod.exists, Option.pure_def] at h
    obtain ⟨items, after, hread, hdone⟩ := h
    cases hdone
    rw [readItems?_congr (skipSpace_skipSpace _)] at hread
    obtain ⟨found, hne, hfound, rfl, rfl⟩ := ih.items hread
    exact ⟨_, by simp, .list hne hfound⟩

theorem openObject {cs rest : List Char} {value : Json}
    (h : readValue? (fuel + 1) ('{' :: cs) = some (value, rest)) :
    ∃ text, '{' :: cs = text ++ rest ∧ Writes value text := by
  rw [readValue?_openObject] at h
  split at h
  · rename_i hclosed
    cases h
    obtain ⟨blanks, hblanks, rfl⟩ := exists_blank_append_cons hclosed
    exact ⟨'{' :: (blanks ++ ['}']), by simp, .emptyObject hblanks⟩
  · simp only [Option.bind_eq_bind, Option.bind_eq_some_iff, Prod.exists, Option.pure_def] at h
    obtain ⟨members, after, hread, hdone⟩ := h
    cases hdone
    rw [readMembers?_congr (skipSpace_skipSpace _)] at hread
    obtain ⟨entries, hne, hnames, hvalues, rfl, rfl⟩ := ih.members hread
    exact ⟨_, by simp, .object hne hnames hvalues⟩

theorem readValue?_succ {cs rest : List Char} {value : Json}
    (h : readValue? (fuel + 1) cs = some (value, rest)) :
    ∃ text, cs = text ++ rest ∧ Writes value text := by
  obtain ⟨blanks, hblanks, hcs⟩ := exists_blank_append_skipSpace cs
  suffices ∃ text, skipSpace cs = text ++ rest ∧ Writes value text by
    obtain ⟨text, htext, hwrites⟩ := this
    exact ⟨blanks ++ text, by rw [List.append_assoc, ← htext, ← hcs],
      hwrites.blank_append hblanks⟩
  have hskipped := (readValue?_congr (skipSpace_skipSpace cs) (fuel + 1)).trans h
  rw [readValue?] at h
  split at h
  case h_1 heq =>
      cases h
      exact ⟨_, heq, .null⟩
  case h_2 heq =>
      cases h
      exact ⟨_, heq, .bool true⟩
  case h_3 heq =>
      cases h
      exact ⟨_, heq, .bool false⟩
  case h_4 heq =>
      simp only [Option.bind_eq_bind, Option.bind_eq_some_iff, Prod.exists, Option.pure_def] at h
      obtain ⟨found, after, hread, hdone⟩ := h
      cases hdone
      obtain ⟨text, pieces, rfl, hspelled, rfl⟩ := eq_append_of_readText? hread
      exact ⟨'"' :: (text ++ ['"']), by simp [heq], .text hspelled⟩
  case h_5 heq =>
      rw [heq] at hskipped ⊢
      exact ih.openList hskipped
  case h_6 heq =>
      rw [heq] at hskipped ⊢
      exact ih.openObject hskipped
  case h_7 => exact eq_append_of_readNumber? h

theorem readItems?_succ {cs rest : List Char} {items : List Json}
    (h : readItems? (fuel + 1) cs = some (items, rest)) :
    ∃ found : List (Json × List Char), found ≠ [] ∧ (∀ item ∈ found, Writes item.1 item.2) ∧
      items = found.map Prod.fst ∧ cs = [','].intercalate (found.map Prod.snd) ++ ']' :: rest := by
  simp only [readItems?, Option.bind_eq_bind, Option.bind_eq_some_iff, Prod.exists] at h
  obtain ⟨value, after, hread, h⟩ := h
  obtain ⟨text, rfl, hwrites⟩ := ih.value hread
  split at h
  · rename_i later hcomma
    simp only [Option.bind_eq_some_iff, Prod.exists, Option.pure_def] at h
    obtain ⟨values, after', hmore, hdone⟩ := h
    cases hdone
    obtain ⟨blanks, hblanks, rfl⟩ := exists_blank_append_cons hcomma
    obtain ⟨found, hne, hfound, rfl, rfl⟩ := ih.items hmore
    refine ⟨(value, text ++ blanks) :: found, by simp, ?_, rfl, ?_⟩
    · exact List.forall_mem_cons.mpr ⟨hwrites.append_blank hblanks, hfound⟩
    · rw [List.map_cons, intercalate_comma _ (by simpa using hne)]
      simp
  · rename_i later hclosed
    cases h
    obtain ⟨blanks, hblanks, rfl⟩ := exists_blank_append_cons hclosed
    refine ⟨[(value, text ++ blanks)], by simp, ?_, rfl, by simp⟩
    simpa using hwrites.append_blank hblanks
  · cases h

theorem readMembers?_succ {cs rest : List Char} {members : List (Option String × Json)}
    (h : readMembers? (fuel + 1) cs = some (members, rest)) :
    ∃ entries : List Entry, entries ≠ [] ∧
      (∀ entry ∈ entries, WritesName entry.name entry.nameText) ∧
        (∀ entry ∈ entries, Writes entry.value entry.valueText) ∧
          members = entries.map Entry.member ∧
            cs = [','].intercalate (entries.map Entry.text) ++ '}' :: rest := by
  rw [readMembers?] at h
  split at h
  case h_2 => cases h
  case h_1 hquoted =>
      simp only [Option.bind_eq_bind, Option.bind_eq_some_iff, Prod.exists] at h
      obtain ⟨name, after, hread, h⟩ := h
      split at h
      case h_2 => cases h
      case h_1 hcolon =>
          obtain ⟨nameText, rfl, hname⟩ := exists_writesName hquoted hread hcolon
          simp only [Option.bind_eq_some_iff, Prod.exists] at h
          obtain ⟨value, after, hread, h⟩ := h
          obtain ⟨valueText, rfl, hvalue⟩ := ih.value hread
          split at h
          case h_3 => cases h
          case h_1 hcomma =>
              simp only [Option.bind_eq_some_iff, Prod.exists, Option.pure_def] at h
              obtain ⟨members, after, hmore, hdone⟩ := h
              cases hdone
              obtain ⟨blanks, hblanks, rfl⟩ := exists_blank_append_cons hcomma
              obtain ⟨entries, hne, hnames, hvalues, rfl, rfl⟩ := ih.members hmore
              refine ⟨⟨name, nameText, value, valueText ++ blanks⟩ :: entries, by simp, ?_, ?_, rfl, ?_⟩
              · exact List.forall_mem_cons.mpr ⟨hname, hnames⟩
              · exact List.forall_mem_cons.mpr ⟨hvalue.append_blank hblanks, hvalues⟩
              · rw [List.map_cons, intercalate_comma _ (by simpa using hne)]
                simp [Entry.text]
          case h_2 hclosed =>
              cases h
              obtain ⟨blanks, hblanks, rfl⟩ := exists_blank_append_cons hclosed
              refine ⟨[⟨name, nameText, value, valueText ++ blanks⟩], by simp, ?_, ?_, rfl, ?_⟩
              · exact List.forall_mem_singleton.mpr hname
              · exact List.forall_mem_singleton.mpr (hvalue.append_blank hblanks)
              · simp [Entry.text]

end IsFaithful

theorem isFaithful (fuel : Nat) : IsFaithful fuel := by
  induction fuel with
  | zero =>
      refine ⟨fun h => ?_, fun h => ?_, fun h => ?_⟩
      · rw [readValue?] at h
        cases h
      · rw [readItems?] at h
        cases h
      · rw [readMembers?] at h
        cases h
  | succ fuel ih => exact ⟨ih.readValue?_succ, ih.readItems?_succ, ih.readMembers?_succ⟩

/-- Reading gives exactly the value that the text writes. -/
theorem read?_eq_some_iff {source : String} {value : Json} :
    read? source = some value ↔ Writes value source.toList := by
  constructor
  · intro h
    simp only [read?] at h
    split at h
    · rename_i found rest hread
      split at h
      · rename_i hempty
        cases h
        obtain ⟨text, htext, hwrites⟩ := (isFaithful _).value hread
        obtain ⟨blanks, hblanks, hrest⟩ := exists_blank_append_skipSpace rest
        rw [List.isEmpty_iff.mp hempty, List.append_nil] at hrest
        rw [htext, hrest]
        exact hwrites.append_blank hblanks
      · cases h
    · cases h
  · intro h
    obtain ⟨after, hread, hafter⟩ :=
      h.isRead (2 * source.toList.length + 1) [] (by omega) fun _ hc => nomatch hc
    rw [List.append_nil] at hread
    simp only [read?, hread, hafter]
    rfl

/-- A text writes at most one value. -/
theorem Writes.unique {source : String} {value value' : Json} (h : Writes value source.toList)
    (h' : Writes value' source.toList) : value = value' :=
  Option.some.inj ((read?_eq_some_iff.mpr h).symm.trans (read?_eq_some_iff.mpr h'))

end RuleExpr.Json
