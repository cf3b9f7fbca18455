import Mathlib.Data.Finset.Card
import RuleExpr.Proofs.Locality
/-!
Catalogs and their histories. Two catalogs are inserted into, copied over one another and exchanged, and
with each goes the list of rows that were ever inserted into it. All that can be asked of a catalog is
told by this list, and a copy stays as it was made until something is done to the copy itself.
-/
namespace RuleExpr

namespace Catalog

/-- A field, by entity and path, and a type for it. -/
abbrev Row := (String × String) × FieldType

def insertRow (catalog : Catalog) (row : Row) : Catalog :=
  catalog.insert row.1.1 row.1.2 row.2

/-- The type in the last row about exactly this field. -/
def lastType? (history : List Row) (entity path : String) : Option FieldType :=
  (history.filter (·.1 = (entity, path))).getLast?.map Prod.snd

/-- Everything that the catalog answers is what the rows inserted into it say, the oldest first. -/
structure Tells (catalog : Catalog) (history : List Row) : Prop where
  get? : ∀ entity path, catalog.get? entity path = lastType? history entity path
  resolver : ∀ entity path, catalog.resolver entity path = lastType? history entity path
  size : catalog.size = (history.map Prod.fst).toFinset.card
  isEmpty : catalog.isEmpty = true ↔ history = []
  listed : ∀ entity path type,
    (path, type) ∈ catalog.fieldsOf entity ↔ lastType? history entity path = some type
  listed_once : ∀ entity, ((catalog.fieldsOf entity).map Prod.fst).Nodup

theorem lookup_eq_head?_filter (rows : List Row) (key : String × String) :
    rows.lookup key = (rows.filter (·.1 = key)).head?.map Prod.snd := by
  induction rows with
  | nil => rfl
  | cons row rows ih =>
      by_cases hrow : row.1 = key
      · rw [List.filter_cons_of_pos (by simpa using hrow), ← hrow, List.lookup_cons_self]
        rfl
      · have hne : (key == row.1) = false := beq_eq_false_iff_ne.mpr (Ne.symm hrow)
        rw [List.filter_cons_of_neg (by simpa using hrow), List.lookup_cons, hne, ih]

theorem get?_insertAll_empty (history : List Row) (entity path : String) :
    (empty.insertAll history).get? entity path = lastType? history entity path := by
  rw [get?_insertAll, lookup_eq_head?_filter, List.filter_reverse, List.head?_reverse]
  exact Option.or_none

/-! ## The rows of a catalog

A catalog keeps its fields entity by entity. Lined up they are one list with a row for each field, and
what is counted and what is listed are read off it.
-/

/-- The rows that are in force about one entity. -/
def rowsOf (entity : String) (fields : Std.TreeMap String FieldType) : List Row :=
  fields.toList.map fun (path, type) => ((entity, path), type)

/-- The rows that are in force, one entity after the other. -/
def rows (catalog : Catalog) : List Row :=
  catalog.entities.toList.flatMap fun (entity, fields) => rowsOf entity fields

theorem mem_rows_iff {catalog : Catalog} {entity path : String} {type : FieldType} :
    ((entity, path), type) ∈ catalog.rows ↔ catalog.get? entity path = some type := by
  simp [rows, rowsOf, get?, Option.bind_eq_some_iff, Std.TreeMap.mem_toList_iff_getElem?_eq_some]

/-- The fields are added up entity by entity, as the rows are lined up. -/
theorem foldl_size (entities : List (String × Std.TreeMap String FieldType)) (total : Nat) :
    entities.foldl (fun total entry => total + entry.2.size) total =
      total + (entities.flatMap fun (entity, fields) => rowsOf entity fields).length := by
  induction entities generalizing total with
  | nil => rfl
  | cons entry entities ih =>
      obtain ⟨entity, fields⟩ := entry
      have hfields : (rowsOf entity fields).length = fields.size := by
        rw [rowsOf, List.length_map, Std.TreeMap.length_toList]
      rw [List.foldl_cons, ih, List.flatMap_cons, List.length_append, hfields, Nat.add_assoc]

theorem size_eq_length_rows (catalog : Catalog) : catalog.size = catalog.rows.length := by
  rw [size, Std.TreeMap.foldl_eq_foldl_toList, foldl_size, Nat.zero_add, rows]

/-- Rows of two entities differ in the entity, and rows of one entity in the path. -/
theorem nodup_keys_rows (catalog : Catalog) : (catalog.rows.map Prod.fst).Nodup := by
  have hkeys : catalog.rows.map Prod.fst =
      catalog.entities.toList.flatMap fun (entity, fields) => fields.keys.map (entity, ·) := by
    simp [rows, rowsOf, List.map_flatMap, ← Std.TreeMap.map_fst_toList_eq_keys, Function.comp_def]
  rw [hkeys, List.nodup_flatMap]
  constructor
  · rintro ⟨entity, fields⟩ -
    exact Std.TreeMap.nodup_keys.map fun path other hsame => congrArg Prod.snd hsame
  · refine Std.TreeMap.distinct_keys_toList.imp ?_
    rintro ⟨entity, fields⟩ ⟨other, otherFields⟩ hne key hkey hother
    obtain ⟨path, -, rfl⟩ := List.mem_map.mp hkey
    obtain ⟨otherPath, -, hsame⟩ := List.mem_map.mp hother
    exact hne (Std.compare_eq_iff_eq.mpr (congrArg Prod.fst hsame).symm)

theorem mem_keys_rows_iff {catalog : Catalog} {key : String × String} :
    key ∈ catalog.rows.map Prod.fst ↔ (catalog.get? key.1 key.2).isSome = true := by
  simp [Option.isSome_iff_exists, ← mem_rows_iff]

/-- A field has a row exactly if there was ever one inserted about it. -/
theorem mem_keys_insertAll_iff {history : List Row} {key : String × String} :
    key ∈ (empty.insertAll history).rows.map Prod.fst ↔ key ∈ history.map Prod.fst := by
  rw [mem_keys_rows_iff, get?_insertAll_empty, lastType?, Option.isSome_map,
    List.getLast?_isSome, ← List.length_pos_iff, List.length_pos_iff_exists_mem]
  simp

theorem size_insertAll (history : List Row) :
    (empty.insertAll history).size = (history.map Prod.fst).toFinset.card := by
  have hkeys : ((empty.insertAll history).rows.map Prod.fst).toFinset =
      (history.map Prod.fst).toFinset := by
    ext key
    rw [List.mem_toFinset, List.mem_toFinset, mem_keys_insertAll_iff]
  rw [← hkeys, List.toFinset_card_of_nodup (nodup_keys_rows _), List.length_map, size_eq_length_rows]

theorem mem_fieldsOf_iff {catalog : Catalog} {entity path : String} {type : FieldType} :
    (path, type) ∈ catalog.fieldsOf entity ↔ catalog.get? entity path = some type := by
  rw [fieldsOf, Std.TreeMap.mem_toList_iff_getElem?_eq_some, get?_eq]

theorem nodup_fieldsOf (catalog : Catalog) (entity : String) :
    ((catalog.fieldsOf entity).map Prod.fst).Nodup := by
  rw [fieldsOf, Std.TreeMap.map_fst_toList_eq_keys]
  exact Std.TreeMap.nodup_keys

theorem tells_insertAll (history : List Row) : (empty.insertAll history).Tells history where
  get? := get?_insertAll_empty history
  resolver := get?_insertAll_empty history
  size := size_insertAll history
  isEmpty := by
    rw [isEmpty, size_insertAll, beq_iff_eq, Finset.card_eq_zero, List.toFinset_eq_empty_iff,
      List.map_eq_nil_iff]
  listed entity path type := by rw [mem_fieldsOf_iff, get?_insertAll_empty]
  listed_once := nodup_fieldsOf _

end Catalog

namespace Desk

/-- The two places of a desk. -/
inductive Side where
  | left
  | right
  deriving DecidableEq, Repr

def Side.other : Side → Side
  | left => right
  | right => left

/-- A row is inserted on one side, what is on one side is copied over the other, or both are
exchanged. -/
inductive Step where
  | insert (side : Side) (row : Catalog.Row)
  | copy (source : Side)
  | exchange

section

variable {α β : Type} (insert : α → Catalog.Row → α)

/-- Both sides after a step, whatever it is that rows are inserted into. -/
def after (both : Side → α) : Step → Side → α
  | .insert side row => Function.update both side (insert (both side) row)
  | .copy source => Function.update both source.other (both source)
  | .exchange => both ∘ Side.other

def run (both : Side → α) (steps : List Step) : Side → α :=
  steps.foldl (after insert) both

/-- What a row comes to on one desk it comes to on the other, and so do all steps. -/
theorem run_comp (insert' : β → Catalog.Row → β) {f : α → β}
    (hinsert : ∀ one row, insert' (f one) row = f (insert one row)) (both : Side → α)
    (steps : List Step) : run insert' (f ∘ both) steps = f ∘ run insert both steps := by
  refine List.foldl_hom (f ∘ ·) ?_
  intro both step
  cases step with
  | insert side row => rw [after, after, Function.comp_update, Function.comp_apply, hinsert]
  | copy source => rw [after, after, Function.comp_update, Function.comp_apply]
  | exchange => rfl

/-- Where it stands after the step what stood on this side, if the step leaves it as it is. -/
def Step.kept? (side : Side) : Step → Option Side
  | .insert target _ => if target = side then none else some side
  | .copy source => if source = side then some side else none
  | .exchange => some side.other

/-- Where it stands after the steps what stood on this side, if they all leave it as it is. -/
def follow (side : Side) (steps : List Step) : Option Side :=
  steps.foldlM Step.kept? side

theorem after_of_kept? {step : Step} {side final : Side} (hkept : step.kept? side = some final)
    (both : Side → α) : after insert both step final = both side := by
  cases step with
  | insert target row =>
      simp only [Step.kept?, Option.ite_none_left_eq_some, Option.some.injEq] at hkept
      obtain ⟨hother, rfl⟩ := hkept
      exact Function.update_of_ne (Ne.symm hother) _ _
  | copy source =>
      simp only [Step.kept?, Option.ite_none_right_eq_some, Option.some.injEq] at hkept
      obtain ⟨rfl, rfl⟩ := hkept
      exact Function.update_of_ne (by cases source <;> simp [Side.other]) _ _
  | exchange =>
      obtain rfl : side.other = final := Option.some.inj hkept
      cases side <;> rfl

/-- What is left alone is the same after a run of steps, wherever it stands by then. -/
theorem run_of_follow {side final : Side} {steps : List Step}
    (hfollow : follow side steps = some final) (both : Side → α) :
    run insert both steps final = both side := by
  induction steps generalizing side both with
  | nil =>
      obtain rfl : side = final := Option.some.inj hfollow
      rfl
  | cons step steps ih =>
      rw [follow, List.foldlM_cons] at hfollow
      obtain ⟨next, hnext, hlater⟩ := Option.bind_eq_some_iff.mp hfollow
      calc run insert both (step :: steps) final
          = run insert (after insert both step) steps final := rfl
        _ = after insert both step next := ih hlater _
        _ = both side := after_of_kept? insert hnext both

theorem run_copy_append {side final : Side} {later : List Step}
    (hfollow : follow side.other later = some final) (both : Side → α) (steps : List Step) :
    run insert both (steps ++ .copy side :: later) final = run insert both steps side := by
  calc run insert both (steps ++ .copy side :: later) final
      = run insert (after insert (run insert both steps) (.copy side)) later final := by
        rw [run, List.foldl_append, List.foldl_cons]
        rfl
    _ = after insert (run insert both steps) (.copy side) side.other :=
        run_of_follow insert hfollow _
    _ = run insert both steps side := Function.update_self _ _ _

theorem follow_map_insert (side : Side) (rows : List Catalog.Row) :
    follow side.other (rows.map (.insert side)) = some side.other := by
  have hne : side ≠ side.other := by cases side <;> simp [Side.other]
  induction rows with
  | nil => rfl
  | cons row rows ih =>
      rw [List.map_cons, follow, List.foldlM_cons, Step.kept?, if_neg hne]
      exact ih

end

/-- The catalogs on both sides after steps from two empty ones. -/
def catalogs (steps : List Step) : Side → Catalog :=
  run Catalog.insertRow (fun _ => Catalog.empty) steps

/-- A history with one more row at its end. -/
def record (history : List Catalog.Row) (row : Catalog.Row) : List Catalog.Row :=
  history ++ [row]

/-- The rows that were inserted into the catalog on either side, copied and exchanged with it. -/
def histories (steps : List Step) : Side → List Catalog.Row :=
  run record (fun _ => []) steps

theorem catalogs_eq (steps : List Step) (side : Side) :
    catalogs steps side = Catalog.empty.insertAll (histories steps side) := by
  have hinsert (history : List Catalog.Row) (row : Catalog.Row) :
      (Catalog.empty.insertAll history).insertRow row = Catalog.empty.insertAll (record history row) := by
    rw [Catalog.insertAll, Catalog.insertAll, record, List.foldl_append]
    rfl
  exact congrFun (run_comp record Catalog.insertRow hinsert (fun _ => []) steps) side

/-- Whatever was done to two catalogs, each answers as its own history says. A copy stays as it was made
whatever is inserted into the catalog it was made of, and so it does through exchanges, as long as nothing
is inserted into the copy or copied over it. -/
theorem catalogs_tell_histories (steps : List Step) (side : Side) :
    (catalogs steps side).Tells (histories steps side) ∧
    (∀ rows : List Catalog.Row, catalogs (steps ++ .copy side :: rows.map (.insert side)) side.other =
      catalogs steps side) ∧
    ∀ later final, follow side.other later = some final →
      catalogs (steps ++ .copy side :: later) final = catalogs steps side := by
  refine ⟨?_, ?_, ?_⟩
  · rw [catalogs_eq]
    exact Catalog.tells_insertAll _
  · intro rows
    exact run_copy_append _ (follow_map_insert side rows) _ steps
  · intro later final hfollow
    exact run_copy_append _ hfollow _ steps

/-- A catalog that is copied and goes on to be changed on the side that its copy was on. -/
theorem exchanged_copy_unchanged :
    let steps := [.insert .left (("order", "total"), .numeric),
      .insert .left (("order", "total"), .monetary), .insert .right (("order", "total"), .date)]
    let later := [.exchange, .insert .right (("order", "total"), .string),
      .insert .right (("customer", "total"), .string)]
    follow (Side.other .left) later = some .left ∧
      catalogs (steps ++ .copy .left :: later) .left = catalogs steps .left := by
  intro steps later
  have hfollow : follow (Side.other .left) later = some .left := rfl
  exact ⟨hfollow, (catalogs_tell_histories steps .left).2.2 later .left hfollow⟩

end Desk

end RuleExpr
