import Mathlib.Logic.Relation
import RuleExpr.Proofs.Json.Record
import RuleExpr.Proofs.Json.Rendering
import RuleExpr.Proofs.RoundTrip
/-!
Editing the JSON of a rule. Some changes to the members of an object leave the rule as it was: another
order, members that its kind does not know, a quantity of null left out. Others are refused: a known
member given twice, or left out where it has to be there. An edit makes such a change to one object, at
any depth.
-/
namespace RuleExpr.Rule

namespace Kind

/-- The names that an object of that kind knows. -/
def known : Kind → List String
  | group => ["kind", "combinator", "quantity", "children"]
  | condition => ["kind", "field", "operator", "value"]

def tag : Json.Part :=
  ⟨"kind", false⟩

/-- The parts of an object of that kind, with the kind itself. -/
def tagged (kind : Kind) : List Json.Part :=
  tag :: kind.parts

theorem known_eq_map (kind : Kind) : kind.known = kind.tagged.map Json.Part.name := by
  cases kind <;> rfl

theorem exists_of_mem_known {kind : Kind} {name : String} (h : name ∈ kind.known) :
    ∃ part ∈ kind.tagged, part.name = name := by
  rwa [known_eq_map, List.mem_map] at h

theorem optional_iff {kind : Kind} {part : Json.Part} (hpart : part ∈ kind.tagged) :
    part.optional = true ↔ part.name = "quantity" := by
  cases kind <;> revert part <;> decide

theorem eq_tag {kind : Kind} {part : Json.Part} (hpart : part ∈ kind.tagged)
    (hname : part.name = "kind") : part = tag := by
  revert hname
  cases kind <;> revert part <;> simp [tagged, parts, tag]

end Kind

/-- A value that holds no other: null, a truth value, a text or a number of 32 bits. -/
inductive IsSimple : Json → Prop
  | null : IsSimple .null
  | bool (value : Bool) : IsSimple (.bool value)
  | text (value : String) : IsSimple (.text value)
  | natural {n : Nat} : n < UInt32.size → IsSimple (.natural n)

/-- The members of an object change, and the object says the same. -/
inductive Harmless (kind : Kind) : List (String × Json) → List (String × Json) → Prop
  | reorder {members members' : List (String × Json)} : members'.Perm members →
      Harmless kind members members'
  | add {before after : List (String × Json)} {name : String} {value : Json} :
      name ∉ kind.known → IsSimple value →
        Harmless kind (before ++ after) (before ++ (name, value) :: after)
  | dropQuantity {before after : List (String × Json)} :
      Harmless kind (before ++ ("quantity", .null) :: after) (before ++ after)

/-- The members of an object change, and the object is refused. -/
inductive Spoiling (kind : Kind) : List (String × Json) → List (String × Json) → Prop
  | repeat {before after : List (String × Json)} {name : String} {found value : Json} :
      name ∈ kind.known → (name, found) ∈ before ++ after → value.HasText →
        Spoiling kind (before ++ after) (before ++ (name, value) :: after)
  | remove {before after : List (String × Json)} {name : String} {value : Json} :
      name ∈ kind.known → name ≠ "quantity" →
        Spoiling kind (before ++ (name, value) :: after) (before ++ after)

/-- One object of a rule changes: the value itself, or one among the children of a group. -/
inductive Edited (change : Kind → List (String × Json) → List (String × Json) → Prop) :
    Json → Json → Prop
  | here {kind : Kind} {tag : Json} {members members' : List (String × Json)} :
      ("kind", tag) ∈ members → Kind.ofJson? true tag = some kind → change kind members members' →
        Edited change (.object members) (.object members')
  | inside {tag : Json} {before after : List (String × Json)} {items later : List Json}
      {item item' : Json} :
      ("kind", tag) ∈ before ++ after → Kind.ofJson? true tag = some .group →
        Edited change item item' →
          Edited change
            (.object (before ++ ("children", .list (items ++ item :: later)) :: after))
            (.object (before ++ ("children", .list (items ++ item' :: later)) :: after))

/-! ## What all values have -/

theorem mem_insert_of_mem {member member' : String × Json} {before after : List (String × Json)}
    (h : member ∈ before ++ after) : member ∈ before ++ member' :: after :=
  ((List.sublist_cons_self member' after).append_left before).subset h

theorem forall_mem_insert_iff {holds : String × Json → Prop} {member : String × Json}
    {before after : List (String × Json)} :
    (∀ found ∈ before ++ member :: after, holds found) ↔
      holds member ∧ ∀ found ∈ before ++ after, holds found := by
  rw [List.forall_mem_append, List.forall_mem_cons, List.forall_mem_append, and_left_comm]

theorem Edited.hereditary {change : Kind → List (String × Json) → List (String × Json) → Prop}
    {holds : Json → Prop} (hholds : Json.Hereditary holds)
    (hchange : ∀ {kind members members'}, change kind members members' →
      (∀ member ∈ members, holds member.2) → ∀ member ∈ members', holds member.2)
    {value value' : Json} (h : Edited change value value') (hvalue : holds value) : holds value' := by
  induction h with
  | here _ _ hmembers => exact hholds.object.mpr (hchange hmembers (hholds.object.mp hvalue))
  | inside _ _ _ ih =>
      rw [hholds.object, forall_mem_insert_iff, hholds.list, List.forall_mem_append,
        List.forall_mem_cons] at hvalue ⊢
      obtain ⟨⟨hitems, hitem, hlater⟩, hothers⟩ := hvalue
      exact ⟨⟨hitems, ih hitem, hlater⟩, hothers⟩

/-! ## What an object says -/

/-- A rule of a kind, from the values of its parts. -/
def ofParts? (levels : Nat) : Kind → List Json → Option Rule
  | .condition => ofConditionParts? true
  | .group => ofGroupParts? true (ofSound? levels true)

/-- An object is read as a rule: it has a kind and all the parts of that kind, and they make the rule. -/
structure Says (levels : Nat) (numbered : Bool) (members : List (String × Json)) (tag : Json)
    (kind : Kind) (rule : Rule) : Prop where
  hasTag : Json.part? members Kind.tag = some tag
  hasKind : Kind.ofJson? numbered tag = some kind
  hasParts : kind.parts.mapM (Json.part? members) >>= ofParts? levels kind = some rule

theorem ofSound?_object_eq_some_iff {levels : Nat} {numbered : Bool}
    {members : List (String × Json)} {rule : Rule} :
    ofSound? (levels + 1) numbered (.object members) = some rule ↔
      ∃ tag kind, Says levels numbered members tag kind rule := by
  simp only [ofSound?, Option.bind_eq_bind, Option.bind_eq_some_iff, Option.pure_def, Prod.exists,
    Option.some.injEq, Prod.mk.injEq]
  constructor
  · rintro ⟨kind, ⟨tag, htag, hkind⟩, parts, hparts, _, _, ⟨rfl, rfl⟩, hrule⟩
    refine ⟨tag, kind, htag, hkind, Option.bind_eq_some_iff.mpr ⟨parts, hparts, ?_⟩⟩
    cases kind <;> exact hrule
  · rintro ⟨tag, kind, htag, hkind, hparts⟩
    obtain ⟨parts, hparts, hrule⟩ := Option.bind_eq_some_iff.mp hparts
    refine ⟨kind, ⟨tag, htag, hkind⟩, parts, hparts, kind, parts, ⟨rfl, rfl⟩, ?_⟩
    cases kind <;> exact hrule

/-- A number names a kind only where numbers are taken, and a name names the same kind anywhere. -/
theorem Kind.ofJson?_numbered {numbered : Bool} {tag : Json} {kind : Kind}
    (h : Kind.ofJson? numbered tag = some kind) : Kind.ofJson? true tag = some kind := by
  cases numbered with
  | true => exact h
  | false =>
      unfold Kind.ofJson? at h ⊢
      split at h
      · exact h
      · exact h
      · cases h
      · cases h
      · cases h

namespace Says

variable {levels : Nat} {numbered : Bool} {members members' : List (String × Json)} {tag : Json}
  {kind : Kind} {rule : Rule}

theorem exists_part (h : Says levels numbered members tag kind rule) {part : Json.Part}
    (hpart : part ∈ kind.tagged) : ∃ found, Json.part? members part = some found := by
  rcases List.mem_cons.mp hpart with rfl | hpart
  · exact ⟨tag, h.hasTag⟩
  · obtain ⟨parts, hparts, _⟩ := Option.bind_eq_some_iff.mp h.hasParts
    have hall := Json.isSome_mapM_iff.mp (Option.isSome_of_eq_some hparts)
    exact Option.isSome_iff_exists.mp (hall part hpart)

/-- Only the parts of its kind matter to an object. -/
theorem of_parts (h : Says levels numbered members tag kind rule)
    (hparts : ∀ part ∈ kind.tagged, Json.part? members' part = Json.part? members part) :
    Says levels numbered members' tag kind rule where
  hasTag := (hparts Kind.tag List.mem_cons_self).trans h.hasTag
  hasKind := h.hasKind
  hasParts := by
    rw [Json.mapM_congr fun part hpart => hparts part (List.mem_cons_of_mem Kind.tag hpart)]
    exact h.hasParts

/-- The kind of an object is the one that any of its members named so gives. -/
theorem exists_of_ofSound? (h : ofSound? levels numbered (.object members) = some rule)
    (htag : ("kind", tag) ∈ members) (hkind : Kind.ofJson? true tag = some kind) :
    ∃ n, levels = n + 1 ∧ Says n numbered members tag kind rule := by
  cases levels with
  | zero => cases h
  | succ levels =>
      obtain ⟨tag', kind', hsaid⟩ := ofSound?_object_eq_some_iff.mp h
      have htag' : tag' = tag := Json.eq_of_part?_eq_some hsaid.hasTag htag
      subst htag'
      have hkind' : kind' = kind :=
        Option.some.inj ((Kind.ofJson?_numbered hsaid.hasKind).symm.trans hkind)
      subst hkind'
      exact ⟨levels, rfl, hsaid⟩

end Says

/-! ## Children -/

theorem hasParts_group_iff {levels : Nat} {members : List (String × Json)} {rule : Rule} :
    Kind.group.parts.mapM (Json.part? members) >>= ofParts? levels .group = some rule ↔
      ∃ combinator quantity children,
        Json.part? members ⟨"combinator", false⟩ = some combinator ∧
          Json.part? members ⟨"quantity", true⟩ = some quantity ∧
            Json.part? members ⟨"children", false⟩ = some children ∧
              ofGroupParts? true (ofSound? levels true) [combinator, quantity, children] =
                some rule := by
  simp only [Kind.parts, List.mapM_cons, List.mapM_nil, Option.bind_eq_bind, Option.pure_def,
    Option.bind_assoc, Option.bind_some, Option.bind_eq_some_iff]
  constructor
  · rintro ⟨combinator, hcombinator, quantity, hquantity, children, hchildren, hrule⟩
    exact ⟨combinator, quantity, children, hcombinator, hquantity, hchildren, hrule⟩
  · rintro ⟨combinator, quantity, children, hcombinator, hquantity, hchildren, hrule⟩
    exact ⟨combinator, hcombinator, quantity, hquantity, children, hchildren, hrule⟩

namespace Says

variable {levels : Nat} {numbered : Bool} {before after : List (String × Json)}
  {items items' : List Json} {tag : Json} {rule : Rule}

/-- Every child of a group is a rule. -/
theorem exists_child
    (h : Says levels numbered (before ++ ("children", .list items) :: after) tag .group rule)
    {item : Json} (hitem : item ∈ items) : ∃ child, ofSound? levels true item = some child := by
  obtain ⟨combinator, quantity, children, _, _, hchildren, hrule⟩ :=
    hasParts_group_iff.mp h.hasParts
  have hlist := (Json.only_of_part?_eq_some hchildren).1
  subst hlist
  by_contra hnone
  have hmembers : items.mapM (ofSound? levels true) = none :=
    Json.mapM_eq_none_of_mem hitem (Option.eq_none_iff_forall_ne_some.mpr (not_exists.mp hnone))
  simp [ofGroupParts?, hmembers] at hrule

/-- Other children that are the same rules make the same group. -/
theorem of_children
    (h : Says levels numbered (before ++ ("children", .list items) :: after) tag .group rule)
    (hsame : items'.mapM (ofSound? levels true) = items.mapM (ofSound? levels true)) :
    Says levels numbered (before ++ ("children", .list items') :: after) tag .group rule := by
  have hother {part : Json.Part} (hne : "children" ≠ part.name) :
      Json.part? (before ++ ("children", .list items') :: after) part =
        Json.part? (before ++ ("children", .list items) :: after) part :=
    (Json.part?_insert_of_ne _ hne).trans (Json.part?_insert_of_ne _ hne).symm
  obtain ⟨combinator, quantity, children, hcombinator, hquantity, hchildren, hrule⟩ :=
    hasParts_group_iff.mp h.hasParts
  have hlist := (Json.only_of_part?_eq_some hchildren).1
  subst hlist
  refine ⟨(hother (by decide)).trans h.hasTag, h.hasKind, hasParts_group_iff.mpr
    ⟨combinator, quantity, .list items', (hother (by decide)).trans hcombinator,
      (hother (by decide)).trans hquantity, Json.part?_replace _ hchildren, ?_⟩⟩
  rw [ofGroupParts?, hsame]
  exact hrule

end Says

/-! ## Harmless changes -/

/-- A harmless change leaves every part as it was. -/
theorem Harmless.part?_eq {kind : Kind} {members members' : List (String × Json)}
    (h : Harmless kind members members') {part : Json.Part} (hpart : part ∈ kind.tagged)
    {found : Json} (hfound : Json.part? members part = some found) :
    Json.part? members' part = Json.part? members part := by
  cases h with
  | reorder hperm => exact Json.part?_perm hperm
  | @add before after name value hname _ =>
      apply Json.part?_insert_of_ne
      rintro rfl
      rw [Kind.known_eq_map] at hname
      exact hname (List.mem_map_of_mem hpart)
  | dropQuantity =>
      by_cases hquantity : "quantity" = part.name
      · rw [hquantity] at hfound ⊢
        rw [hfound, (Json.only_of_part?_eq_some hfound).1, Json.part?_erase_self hfound,
          if_pos ((Kind.optional_iff hpart).mpr hquantity.symm)]
      · exact (Json.part?_insert_of_ne .null hquantity).symm

/-- What simple values have anyway, all values have after the change as they had before. -/
theorem Harmless.forall_mem_iff {kind : Kind} {members members' : List (String × Json)}
    (h : Harmless kind members members') {holds : Json → Prop}
    (hsimple : ∀ value, IsSimple value → holds value) :
    (∀ member ∈ members', holds member.2) ↔ ∀ member ∈ members, holds member.2 := by
  cases h with
  | reorder hperm => simp only [hperm.mem_iff]
  | @add before after name value _ hvalue =>
      rw [forall_mem_insert_iff]
      exact and_iff_right (hsimple value hvalue)
  | dropQuantity =>
      rw [forall_mem_insert_iff]
      exact (and_iff_right (hsimple .null .null)).symm

/-- An edit that does no harm leaves the rule as it was. -/
theorem ofSound?_of_harmless {value value' : Json} (h : Edited Harmless value value')
    {levels : Nat} {numbered : Bool} {rule : Rule}
    (hrule : ofSound? levels numbered value = some rule) :
    ofSound? levels numbered value' = some rule := by
  induction h generalizing levels numbered rule with
  | here htag hkind hchange =>
      obtain ⟨n, rfl, hsaid⟩ := Says.exists_of_ofSound? hrule htag hkind
      refine ofSound?_object_eq_some_iff.mpr ⟨_, _, hsaid.of_parts fun part hpart => ?_⟩
      obtain ⟨found, hfound⟩ := hsaid.exists_part hpart
      exact hchange.part?_eq hpart hfound
  | inside htag hkind _ ih =>
      obtain ⟨n, rfl, hsaid⟩ := Says.exists_of_ofSound? hrule (mem_insert_of_mem htag) hkind
      obtain ⟨child, hchild⟩ := hsaid.exists_child (List.mem_append_right _ List.mem_cons_self)
      have hsame := hsaid.of_children (Json.mapM_replace ((ih hchild).trans hchild.symm))
      exact ofSound?_object_eq_some_iff.mpr ⟨_, _, hsame⟩

theorem isUsable_of_isSimple {value : Json} (h : IsSimple value) : value.isUsable = true := by
  cases h <;> rfl

theorem depth_of_isSimple {value : Json} (h : IsSimple value) : value.depth = 0 := by
  cases h <;> rfl

theorem hasText_of_isSimple {value : Json} (h : IsSimple value) : value.HasText := by
  cases h with
  | null => exact ⟨_, Json.writes_render_null⟩
  | bool value => exact ⟨_, .bool value⟩
  | text value => exact ⟨_, Json.writes_render_text value⟩
  | natural hn => exact ⟨_, Json.writes_render_natural hn⟩

theorem depth_of_harmless {value value' : Json} (h : Edited Harmless value value') :
    value'.depth = value.depth := by
  induction h with
  | here _ _ hchange =>
      rw [Json.depth, Json.depth, Nat.add_right_cancel_iff]
      apply eq_of_forall_ge_iff
      intro n
      rw [Json.depthOfMembers_le_iff, Json.depthOfMembers_le_iff]
      exact hchange.forall_mem_iff fun value hvalue => (depth_of_isSimple hvalue).trans_le n.zero_le
  | inside _ _ _ ih =>
      simp only [Json.depth, Json.depthOfMembers_append, Json.depthOfMembers, Json.depthOfItems_append,
        Json.depthOfItems, ih]

theorem ofJson?_of_harmless {value value' : Json} (h : Edited Harmless value value') {limit : Nat}
    {rule : Rule} (hrule : ofJson? limit value = some rule) : ofJson? limit value' = some rule := by
  rw [ofJson?, Option.ite_none_right_eq_some, Json.isSound, Bool.and_eq_true] at hrule ⊢
  obtain ⟨⟨husable, hdepth⟩, hrule⟩ := hrule
  rw [depth_of_harmless h]
  refine ⟨⟨?_, hdepth⟩, ofSound?_of_harmless h hrule⟩
  exact h.hereditary Json.hereditary_isUsable
    (fun hchange => (hchange.forall_mem_iff fun _ => isUsable_of_isSimple).mpr) husable

/-! ## Spoiling changes -/

/-- A change that spoils takes away a part: the kind, or another one, and then the kind is still there. -/
theorem Spoiling.part?_eq_none {kind : Kind} {members members' : List (String × Json)}
    (h : Spoiling kind members members')
    (hparts : ∀ part ∈ kind.tagged, ∃ found, Json.part? members part = some found) :
    Json.part? members' Kind.tag = none ∨
      Json.part? members' Kind.tag = Json.part? members Kind.tag ∧
        ∃ part ∈ kind.tagged, Json.part? members' part = none := by
  cases h with
  | @«repeat» before after name found value hname hfound _ =>
      obtain ⟨part, hpart, rfl⟩ := Kind.exists_of_mem_known hname
      have hnone := Json.part?_insert_self value hfound
      by_cases htag : part.name = "kind"
      · obtain rfl := Kind.eq_tag hpart htag
        exact Or.inl hnone
      · exact Or.inr ⟨Json.part?_insert_of_ne _ htag, part, hpart, hnone⟩
  | remove hname hquantity =>
      obtain ⟨part, hpart, rfl⟩ := Kind.exists_of_mem_known hname
      obtain ⟨found, hfound⟩ := hparts part hpart
      have hnone := Json.part?_erase_self hfound
      rw [if_neg (mt (Kind.optional_iff hpart).mp hquantity)] at hnone
      by_cases htag : part.name = "kind"
      · obtain rfl := Kind.eq_tag hpart htag
        exact Or.inl hnone
      · exact Or.inr ⟨(Json.part?_insert_of_ne _ htag).symm, part, hpart, hnone⟩

theorem Spoiling.forall_hasText {kind : Kind} {members members' : List (String × Json)}
    (h : Spoiling kind members members') (hall : ∀ member ∈ members, member.2.HasText) :
    ∀ member ∈ members', member.2.HasText := by
  cases h with
  | «repeat» _ _ hvalue => exact forall_mem_insert_iff.mpr ⟨hvalue, hall⟩
  | remove => exact (forall_mem_insert_iff.mp hall).2

/-- An object that is a rule is none after a change that spoils it. -/
theorem Spoiling.leaves_none {kind kind' : Kind} {members members' : List (String × Json)}
    (h : Spoiling kind members members') {levels levels' : Nat} {numbered numbered' : Bool}
    {tag tag' : Json} {rule rule' : Rule} (hsaid : Says levels numbered members tag kind rule) :
    ¬ Says levels' numbered' members' tag' kind' rule' := by
  intro hsaid'
  rcases h.part?_eq_none fun _ => hsaid.exists_part with hnone | ⟨hsame, part, hpart, hnone⟩
  · cases hnone.symm.trans hsaid'.hasTag
  · -- The kind is what it was, so the part that is missing is one that the object needs.
    have htag : tag' = tag :=
      Option.some.inj (hsaid'.hasTag.symm.trans (hsame.trans hsaid.hasTag))
    subst htag
    have hkind : kind' = kind := Option.some.inj
      ((Kind.ofJson?_numbered hsaid'.hasKind).symm.trans (Kind.ofJson?_numbered hsaid.hasKind))
    subst hkind
    obtain ⟨found, hfound⟩ := hsaid'.exists_part hpart
    cases hnone.symm.trans hfound

/-- An edit that spoils an object of a rule leaves none. -/
theorem ofSound?_of_spoiling {value value' : Json} (h : Edited Spoiling value value')
    {levels : Nat} {numbered : Bool} {rule : Rule}
    (hrule : ofSound? levels numbered value = some rule) (levels' : Nat) (numbered' : Bool) :
    ofSound? levels' numbered' value' = none := by
  induction h generalizing levels numbered rule levels' numbered' with
  | here htag hkind hchange =>
      obtain ⟨n, rfl, hsaid⟩ := Says.exists_of_ofSound? hrule htag hkind
      cases levels' with
      | zero => rfl
      | succ n' =>
          rw [Option.eq_none_iff_forall_ne_some]
          intro rule' hrule'
          obtain ⟨tag', kind', hsaid'⟩ := ofSound?_object_eq_some_iff.mp hrule'
          exact hchange.leaves_none hsaid hsaid'
  | inside htag hkind _ ih =>
      obtain ⟨n, rfl, hsaid⟩ := Says.exists_of_ofSound? hrule (mem_insert_of_mem htag) hkind
      obtain ⟨child, hchild⟩ := hsaid.exists_child (List.mem_append_right _ List.mem_cons_self)
      rw [Option.eq_none_iff_forall_ne_some]
      intro rule' hrule'
      obtain ⟨n', rfl, hsaid'⟩ := Says.exists_of_ofSound? hrule' (mem_insert_of_mem htag) hkind
      obtain ⟨child', hchild'⟩ := hsaid'.exists_child (List.mem_append_right _ List.mem_cons_self)
      cases (ih hchild n' true).symm.trans hchild'

/-! ## Texts -/

/-- The value has texts, and every one of them is decoded to that. -/
def DecodesTo (value : Json) (result : Option Rule) : Prop :=
  value.HasText ∧ ∀ source : String, Json.Writes value source.toList → decode? source = result

theorem decode?_eq_of_writes {value : Json} {source : String}
    (h : Json.Writes value source.toList) : decode? source = ofJson? Json.depthLimit value := by
  rw [decode?, Json.read?_eq_some_iff.mpr h]
  rfl

theorem decodesTo_of_harmless {value value' : Json} (h : Edited Harmless value value') {rule : Rule}
    (hrule : DecodesTo value (some rule)) : DecodesTo value' (some rule) := by
  obtain ⟨⟨text, htext⟩, hdecode⟩ := hrule
  have hrule : ofJson? Json.depthLimit value = some rule := by
    rw [← String.toList_ofList (l := text)] at htext
    exact (decode?_eq_of_writes htext).symm.trans (hdecode _ htext)
  refine ⟨?_, fun source hsource => (decode?_eq_of_writes hsource).trans (ofJson?_of_harmless h hrule)⟩
  exact h.hereditary Json.hereditary_hasText
    (fun hchange => (hchange.forall_mem_iff fun _ => hasText_of_isSimple).mpr) ⟨text, htext⟩

/-- Take any text that is decoded to a rule. Its objects may be edited in ways that do no harm, as often
as one likes, and all texts of the result are decoded to the same rule. After one edit that spoils
an object, none is decoded any more. -/
theorem order_blind_and_strict {source : String} {rule : Rule} (h : decode? source = some rule) :
    ∃ value, Json.Writes value source.toList ∧
      (∀ value', Relation.ReflTransGen (Edited Harmless) value value' →
        DecodesTo value' (some rule)) ∧
        ∀ value', Edited Spoiling value value' → DecodesTo value' none := by
  obtain ⟨value, hread, hrule⟩ := Option.bind_eq_some_iff.mp h
  have hsource := Json.read?_eq_some_iff.mp hread
  refine ⟨value, hsource, ?_, ?_⟩
  · intro value' hedits
    induction hedits with
    | refl => exact ⟨⟨_, hsource⟩, fun source' h' => (decode?_eq_of_writes h').trans hrule⟩
    | tail _ hedit ih => exact decodesTo_of_harmless hedit ih
  · intro value' hedit
    have htext : value'.HasText :=
      hedit.hereditary Json.hereditary_hasText Spoiling.forall_hasText ⟨_, hsource⟩
    refine ⟨htext, fun source' h' => ?_⟩
    rw [ofJson?, Option.ite_none_right_eq_some] at hrule
    rw [decode?_eq_of_writes h', ofJson?, ofSound?_of_spoiling hedit hrule.2, ite_self]

/-- A condition under a denial. With a note, and its members in the opposite order, it says the same;
without its operator nothing is left of the whole rule. -/
theorem edits_of_denied_condition :
    let rule := Rule.group .not none [.condition ⟨"owner", .null false, ""⟩]
    let denied (child : List (String × Json)) : Json :=
      .object [("kind", .text "group"), ("combinator", .text "NOT"), ("quantity", .null),
        ("children", .list [.object child])]
    decode? rule.encode = some rule ∧
      DecodesTo (denied [("value", .text ""), ("operator", .text "IS_NULL"), ("field", .text "owner"),
        ("kind", .text "condition"), ("note", .natural 7)]) (some rule) ∧
      DecodesTo (denied [("kind", .text "condition"), ("field", .text "owner"), ("value", .text "")])
        none := by
  intro rule denied
  have hdecode : decode? rule.encode = some rule :=
    (decode?_encode rule).trans (if_pos (by decide))
  obtain ⟨value, hwrites, hharmless, hspoiling⟩ := order_blind_and_strict hdecode
  have hvalue : value = rule.toJson := hwrites.unique rule.writes_toJson
  subst hvalue
  -- Both edits are at the child, whose members are known to be those of a condition.
  have inside {change : Kind → List (String × Json) → List (String × Json) → Prop}
      {child child' : List (String × Json)} (htag : ("kind", .text "condition") ∈ child)
      (h : change .condition child child') : Edited change (denied child) (denied child') :=
    @Edited.inside change (.text "group") [_, _, _] [] [] [] _ _ List.mem_cons_self rfl
      (.here htag rfl h)
  let members : List (String × Json) := [("kind", .text "condition"), ("field", .text "owner"),
    ("operator", .text "IS_NULL"), ("value", .text "")]
  have hnote : Harmless .condition members (("note", .natural 7) :: members) :=
    @Harmless.add .condition [] members "note" (.natural 7) (by decide) (.natural (by decide))
  have horder : Harmless .condition (("note", .natural 7) :: members)
      (("note", .natural 7) :: members).reverse :=
    .reorder (List.reverse_perm _)
  have hoperator : Spoiling .condition members
      [("kind", .text "condition"), ("field", .text "owner"), ("value", .text "")] :=
    @Spoiling.remove .condition [_, _] [_] "operator" _ (by decide) (by decide)
  refine ⟨hdecode, hharmless _ (.tail (.single (inside ?_ hnote)) (inside ?_ horder)),
    hspoiling _ (inside ?_ hoperator)⟩
  · exact List.mem_cons_self
  · exact List.mem_cons_of_mem _ List.mem_cons_self
  · exact List.mem_cons_self

end RuleExpr.Rule
