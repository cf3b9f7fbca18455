import RuleExpr.Json
import Mathlib.Data.List.Basic
import Mathlib.Data.List.Perm.Basic
/-!
Objects as records. What holds of all that is inside a value comes down to its items and members, and a
part of a record depends on the members of its own name only.
-/
namespace RuleExpr.Json

/-! ## All of a list -/

section Every

variable {α β : Type} {f : α → Option β}

theorem mapM_map_eq_some {values : List β} {g : β → α} (h : ∀ value ∈ values, f (g value) = some value) :
    (values.map g).mapM f = some values := by
  induction values with
  | nil => rfl
  | cons value values ih =>
      obtain ⟨hvalue, hvalues⟩ := List.forall_mem_cons.mp h
      rw [List.map_cons, List.mapM_cons, hvalue, ih hvalues]
      rfl

theorem isSome_mapM_iff {items : List α} :
    (items.mapM f).isSome = true ↔ ∀ item ∈ items, (f item).isSome = true := by
  induction items with
  | nil => simp
  | cons item items ih =>
      rw [List.mapM_cons, List.forall_mem_cons, ← ih]
      cases f item <;> cases items.mapM f <;> simp

theorem mapM_eq_none_of_mem {items : List α} {item : α} (hmem : item ∈ items) (h : f item = none) :
    items.mapM f = none := by
  by_contra hsome
  have hitem := isSome_mapM_iff.mp (Option.isSome_iff_ne_none.mpr hsome) item hmem
  rw [h] at hitem
  cases hitem

theorem exists_of_mem_mapM {items : List α} {values : List β} (h : items.mapM f = some values)
    {value : β} (hmem : value ∈ values) : ∃ item ∈ items, f item = some value := by
  induction items generalizing values with
  | nil =>
      cases h
      cases hmem
  | cons item items ih =>
      simp only [List.mapM_cons, Option.bind_eq_bind, Option.bind_eq_some_iff, Option.pure_def,
        Option.some.injEq] at h
      obtain ⟨first, hfirst, later, hlater, rfl⟩ := h
      rcases List.mem_cons.mp hmem with rfl | hmem
      · exact ⟨item, List.mem_cons_self, hfirst⟩
      · obtain ⟨item', hitem', hvalue⟩ := ih hlater hmem
        exact ⟨item', List.mem_cons_of_mem item hitem', hvalue⟩

theorem mapM_congr {g : α → Option β} {items : List α} (h : ∀ item ∈ items, g item = f item) :
    items.mapM g = items.mapM f := by
  induction items with
  | nil => rfl
  | cons item items ih =>
      obtain ⟨hitem, hitems⟩ := List.forall_mem_cons.mp h
      rw [List.mapM_cons, List.mapM_cons, hitem, ih hitems]

theorem mapM_replace {before after : List α} {item item' : α} (h : f item' = f item) :
    (before ++ item' :: after).mapM f = (before ++ item :: after).mapM f := by
  rw [List.mapM_append, List.mapM_append, List.mapM_cons, List.mapM_cons, h]

end Every

/-! ## What is inside a value -/

theorem areUsable_iff {items : List Json} :
    areUsable items = true ↔ ∀ item ∈ items, item.isUsable = true := by
  induction items with
  | nil => simp [areUsable]
  | cons item items ih => simp [areUsable, ih]

theorem areMembersUsable_iff {members : List (String × Json)} :
    areMembersUsable members = true ↔ ∀ member ∈ members, member.2.isUsable = true := by
  induction members with
  | nil => simp [areMembersUsable]
  | cons member members ih => rw [areMembersUsable, Bool.and_eq_true, ih, List.forall_mem_cons]

theorem depthOfItems_le_iff {items : List Json} {n : Nat} :
    depthOfItems items ≤ n ↔ ∀ item ∈ items, item.depth ≤ n := by
  induction items with
  | nil => simp [depthOfItems]
  | cons item items ih => rw [depthOfItems, Nat.max_le, ih, List.forall_mem_cons]

theorem depthOfMembers_le_iff {members : List (String × Json)} {n : Nat} :
    depthOfMembers members ≤ n ↔ ∀ member ∈ members, member.2.depth ≤ n := by
  induction members with
  | nil => simp [depthOfMembers]
  | cons member members ih => rw [depthOfMembers, Nat.max_le, ih, List.forall_mem_cons]

theorem depthOfItems_append (items items' : List Json) :
    depthOfItems (items ++ items') = max (depthOfItems items) (depthOfItems items') := by
  induction items with
  | nil => simp [depthOfItems]
  | cons item items ih => rw [List.cons_append, depthOfItems, ih, depthOfItems, Nat.max_assoc]

theorem depthOfMembers_append (members members' : List (String × Json)) :
    depthOfMembers (members ++ members') = max (depthOfMembers members) (depthOfMembers members') := by
  induction members with
  | nil => simp [depthOfMembers]
  | cons member members ih =>
      rw [List.cons_append, depthOfMembers, ih, depthOfMembers, Nat.max_assoc]

/-! ## Parts -/

section Parts

variable {before after members members' : List (String × Json)} {name : String} {part : Part}

theorem valuesOf_insert_of_ne (value : Json) (hne : name ≠ part.name) :
    valuesOf part.name (before ++ (name, value) :: after) = valuesOf part.name (before ++ after) := by
  simp [valuesOf, hne]

theorem mem_valuesOf {value : Json} : value ∈ valuesOf name members ↔ (name, value) ∈ members := by
  simp [valuesOf]

theorem valuesOf_append :
    valuesOf name (before ++ after) = valuesOf name before ++ valuesOf name after := by
  simp [valuesOf]

theorem valuesOf_insert_self (value : Json) :
    valuesOf name (before ++ (name, value) :: after) =
      valuesOf name before ++ value :: valuesOf name after := by
  simp [valuesOf]

theorem part?_congr (h : valuesOf part.name members' = valuesOf part.name members) :
    part? members' part = part? members part := by
  rw [part?, part?, h]

/-- A member of another name has no part in it. -/
theorem part?_insert_of_ne (value : Json) (hne : name ≠ part.name) :
    part? (before ++ (name, value) :: after) part = part? (before ++ after) part :=
  part?_congr (valuesOf_insert_of_ne value hne)

/-- The order of the members is not asked. -/
theorem part?_perm (h : members'.Perm members) : part? members' part = part? members part := by
  have hvalues : (valuesOf part.name members').Perm (valuesOf part.name members) :=
    (h.filter _).map _
  match hlist : valuesOf part.name members with
  | [] =>
      rw [hlist, List.perm_nil] at hvalues
      exact part?_congr (hvalues.trans hlist.symm)
  | [value] =>
      rw [hlist, List.perm_singleton] at hvalues
      exact part?_congr (hvalues.trans hlist.symm)
  | value :: value' :: values =>
      have hlength := hvalues.length_eq
      rw [hlist] at hlength
      match hlist' : valuesOf part.name members' with
      | [] | [_] => simp [hlist'] at hlength
      | _ :: _ :: _ => rw [part?, part?, hlist, hlist']

/-- A part that is given is the value of its member, and no other member has its name. -/
theorem only_of_part?_eq_some {value found : Json}
    (h : part? (before ++ (part.name, value) :: after) part = some found) :
    found = value ∧ valuesOf part.name (before ++ after) = [] := by
  rw [part?, valuesOf_insert_self] at h
  rw [valuesOf_append]
  match hbefore : valuesOf part.name before, hafter : valuesOf part.name after with
  | [], [] =>
      rw [hbefore, hafter] at h
      exact ⟨(Option.some.inj h).symm, rfl⟩
  | [], _ :: _ | [_], _ | _ :: _ :: _, _ =>
      rw [hbefore, hafter] at h
      cases h

theorem eq_of_part?_eq_some {value found : Json} (h : part? members part = some found)
    (hmem : (part.name, value) ∈ members) : found = value := by
  obtain ⟨before, after, rfl⟩ := List.append_of_mem hmem
  exact (only_of_part?_eq_some h).1

/-- A part cannot be given twice. -/
theorem part?_insert_self (value : Json) {found : Json}
    (hmem : (part.name, found) ∈ before ++ after) :
    part? (before ++ (part.name, value) :: after) part = none := by
  rw [Option.eq_none_iff_forall_ne_some]
  intro found' h
  rw [← mem_valuesOf, (only_of_part?_eq_some h).2] at hmem
  cases hmem

/-- A part that is given is left out without its member. -/
theorem part?_erase_self {value found : Json}
    (h : part? (before ++ (part.name, value) :: after) part = some found) :
    part? (before ++ after) part = if part.optional then some null else none := by
  rw [part?, (only_of_part?_eq_some h).2]

theorem part?_replace {value found : Json} (value' : Json)
    (h : part? (before ++ (part.name, value) :: after) part = some found) :
    part? (before ++ (part.name, value') :: after) part = some value' := by
  have hempty := (only_of_part?_eq_some h).2
  rw [valuesOf_append, List.append_eq_nil_iff] at hempty
  rw [part?, valuesOf_insert_self, hempty.1, hempty.2, List.nil_append]

end Parts

end RuleExpr.Json
