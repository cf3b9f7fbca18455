import RuleExpr.Json.Writer
import RuleExpr.Proofs.Json.Grammar
import RuleExpr.Proofs.Json.Record
/-!
Rendering and the grammar. A value is written by what is rendered for it as soon as all that is inside it
is, whatever texts it has.
-/
namespace RuleExpr.Json

theorem toList_quotedText (text : String) :
    (quotedText text).toList = '"' :: (text.toList.flatMap escapedChar ++ ['"']) := by
  rw [quotedText, String.toList_ofList]

theorem text?_map_char (text : String) : Piece.text? (text.toList.map .char) = some text := by
  rw [Piece.text?, join?_map_char, Option.map_some, String.ofList_toList]

theorem writes_render_text (text : String) : Writes (.text text) (Json.text text).render.toList := by
  have h := Writes.text (spelled_flatMap_escapedChar text.toList)
  rw [text?_map_char] at h
  rw [render, toList_quotedText]
  exact h

theorem writesName_quotedText (name : String) : WritesName (some name) (quotedText name).toList := by
  have h := WritesName.quoted isBlank_nil isBlank_nil (spelled_flatMap_escapedChar name.toList)
  rw [text?_map_char] at h
  rw [toList_quotedText]
  exact h

theorem writes_render_null : Writes .null Json.null.render.toList :=
  .null

theorem writes_render_natural {n : Nat} (hn : n < UInt32.size) :
    Writes (.natural n) (Json.natural n).render.toList := by
  have h := Writes.number (Numeral.spelled_ofNat n)
  have hvalue : (Numeral.ofNat n).value (Nat.toDigits 10 n) = .natural n := by
    rw [Numeral.value, Numeral.inRange_ofNat hn]
    simp only [Numeral.ofNat, Numeral.ofDigits_toDigits]
    rfl
  rw [hvalue] at h
  rw [render, String.toList_ofList]
  exact h

theorem ofMembers_map_some (members : List (String × Json)) :
    ofMembers (members.map fun member => (some member.1, member.2)) = .object members := by
  rw [ofMembers, mapM_map_eq_some]
  intro member _
  rfl

theorem renderItems_eq_map (items : List Json) : renderItems items = items.map render := by
  induction items with
  | nil => rfl
  | cons item items ih => rw [renderItems, ih, List.map_cons]

theorem renderMembers_eq_map (members : List (String × Json)) :
    renderMembers members =
      members.map fun member => quotedText member.1 ++ ":" ++ member.2.render := by
  induction members with
  | nil => rfl
  | cons member members ih => rw [renderMembers, ih, List.map_cons]

/-- A list is written by its items, however each of them is. -/
theorem writes_list {items : List Json} {itemText : Json → List Char}
    (h : ∀ item ∈ items, Writes item (itemText item)) :
    Writes (.list items) ('[' :: ([','].intercalate (items.map itemText) ++ [']'])) := by
  by_cases hne : items = []
  · subst hne
    exact .emptyList isBlank_nil
  · have hitems : ∀ item ∈ items.map fun item => (item, itemText item), Writes item.1 item.2 :=
      List.forall_mem_map.mpr h
    have hwrites := Writes.list (by simpa using hne) hitems
    rw [List.map_map, List.map_map] at hwrites
    simpa [Function.comp_def] using hwrites

/-- A member with its name in quotes. -/
def Entry.quoted (valueText : String × Json → List Char) (member : String × Json) : Entry :=
  ⟨some member.1, (quotedText member.1).toList, member.2, valueText member⟩

/-- An object is written by its names in quotes and its values, however each of them is written. -/
theorem writes_object {members : List (String × Json)} {valueText : String × Json → List Char}
    (h : ∀ member ∈ members, Writes member.2 (valueText member)) :
    Writes (.object members)
      ('{' :: ([','].intercalate (members.map (Entry.text ∘ Entry.quoted valueText)) ++ ['}'])) := by
  by_cases hne : members = []
  · subst hne
    exact .emptyObject isBlank_nil
  · have hnames : ∀ entry ∈ members.map (Entry.quoted valueText),
        WritesName entry.name entry.nameText := by
      rw [List.forall_mem_map]
      intro member _
      simpa only [Entry.quoted] using writesName_quotedText member.1
    have hvalues : ∀ entry ∈ members.map (Entry.quoted valueText),
        Writes entry.value entry.valueText :=
      List.forall_mem_map.mpr h
    have hwrites := Writes.object (by simpa using hne) hnames hvalues
    rw [List.map_map, List.map_map] at hwrites
    rw [← ofMembers_map_some members]
    exact hwrites

theorem writes_render_list {items : List Json}
    (h : ∀ item ∈ items, Writes item item.render.toList) :
    Writes (.list items) (Json.list items).render.toList := by
  have hwrites := writes_list h
  rw [render, String.toList_append, String.toList_append, String.toList_intercalate,
    renderItems_eq_map, List.map_map]
  simpa [Function.comp_def] using hwrites

theorem writes_render_object {members : List (String × Json)}
    (h : ∀ member ∈ members, Writes member.2 member.2.render.toList) :
    Writes (.object members) (Json.object members).render.toList := by
  have hwrites := writes_object h
  rw [render, Text.toList_braced, String.toList_intercalate, renderMembers_eq_map, List.map_map]
  simpa [Function.comp_def, Entry.quoted, Entry.text] using hwrites

/-! ## Values that have a text -/

def HasText (value : Json) : Prop :=
  ∃ text, Writes value text

/-- The items of a list, or the values of an object. -/
def inside : Json → List Json
  | list items => items
  | object members => members.map Prod.snd
  | _ => []

theorem exists_of_mem_inside_ofMembers {members : List (Option String × Json)} {value : Json}
    (h : value ∈ (ofMembers members).inside) : ∃ member ∈ members, member.2 = value := by
  rw [ofMembers] at h
  split at h
  · rename_i named hnamed
    obtain ⟨member, hmember, rfl⟩ := List.mem_map.mp h
    obtain ⟨⟨name, value⟩, hmem, hname⟩ := exists_of_mem_mapM hnamed hmember
    obtain ⟨name', _, rfl⟩ := Option.map_eq_some_iff.mp hname
    exact ⟨(name, value), hmem, rfl⟩
  · cases h

theorem Writes.hasText_inside {value : Json} {text : List Char} (h : Writes value text) :
    ∀ part ∈ value.inside, HasText part := by
  induction h with
  | padded _ _ _ ih => exact ih
  | null | bool | emptyList | emptyObject => simp [inside]
  | @number numeral text _ =>
      unfold Numeral.value
      split
      · simp [inside]
      · split <;> simp [inside]
  | @text pieces _ _ => cases Piece.text? pieces <;> simp [inside]
  | list _ hitems _ => exact List.forall_mem_map.mpr fun item hmem => ⟨item.2, hitems item hmem⟩
  | object _ _ hvalues _ =>
      intro part hpart
      obtain ⟨member, hmember, rfl⟩ := exists_of_mem_inside_ofMembers hpart
      obtain ⟨entry, hentry, rfl⟩ := List.mem_map.mp hmember
      exact ⟨entry.valueText, hvalues entry hentry⟩

/-- A property of a value that is one of all its items and members. -/
structure Hereditary (holds : Json → Prop) : Prop where
  list {items : List Json} : holds (.list items) ↔ ∀ item ∈ items, holds item
  object {members : List (String × Json)} :
    holds (.object members) ↔ ∀ member ∈ members, holds member.2

theorem hereditary_isUsable : Hereditary (·.isUsable = true) where
  list := by
    intro items
    rw [isUsable, areUsable_iff]
  object := by
    intro members
    rw [isUsable, areMembersUsable_iff]

theorem hereditary_hasText : Hereditary HasText where
  list := by
    intro items
    constructor
    · rintro ⟨text, h⟩
      exact h.hasText_inside
    · intro h
      choose! itemText hwrites using h
      exact ⟨_, writes_list hwrites⟩
  object := by
    intro members
    constructor
    · rintro ⟨text, h⟩
      exact List.forall_mem_map.mp h.hasText_inside
    · intro h
      choose! valueText hwrites using h
      exact ⟨_, writes_object hwrites⟩

end RuleExpr.Json
