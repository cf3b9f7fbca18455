import Std.Data.TreeMap
import RuleExpr.Inquiry
/-!
Catalogs: the types of fields, by entity and path. Each pair has one type at most, the one given
last.
-/
namespace RuleExpr

/-- The fields of each entity: their types by path. -/
structure Catalog where
  entities : Std.TreeMap String (Std.TreeMap String FieldType) := ∅

namespace Catalog

def empty : Catalog := {}

/-- The fields of one entity; an entity that was never heard of has none. -/
def fields (catalog : Catalog) (entity : String) : Std.TreeMap String FieldType :=
  catalog.entities.getD entity ∅

/-- The catalog with a type for a field, in place of any type that the field had. -/
def insert (catalog : Catalog) (entity path : String) (type : FieldType) : Catalog where
  entities := catalog.entities.insert entity ((catalog.fields entity).insert path type)

def get? (catalog : Catalog) (entity path : String) : Option FieldType := do
  let fields ← catalog.entities[entity]?
  fields[path]?

theorem get?_eq (catalog : Catalog) (entity path : String) :
    catalog.get? entity path = (catalog.fields entity)[path]? := by
  rw [get?, fields, Std.TreeMap.getD_eq_getD_getElem?]
  cases catalog.entities[entity]? with
  | none => simp
  | some fields => rfl

theorem fields_insert (catalog : Catalog) (entity path entity' : String) (type : FieldType) :
    (catalog.insert entity path type).fields entity' =
      if entity' = entity then (catalog.fields entity).insert path type
      else catalog.fields entity' := by
  rw [fields, insert, Std.TreeMap.getD_insert]
  simp only [Std.compare_eq_iff_eq, eq_comm (a := entity')]
  rfl

/-- An inserted type is the one that is found from then on, and no other field notices. -/
theorem get?_insert (catalog : Catalog) (entity path entity' path' : String) (type : FieldType) :
    (catalog.insert entity path type).get? entity' path' =
      if (entity', path') = (entity, path) then some type else catalog.get? entity' path' := by
  rw [get?_eq, get?_eq, fields_insert]
  by_cases hentity : entity' = entity
  · subst hentity
    rw [if_pos rfl, Std.TreeMap.getElem?_insert]
    simp only [Std.compare_eq_iff_eq, Prod.mk.injEq, true_and, eq_comm (a := path')]
  · rw [if_neg hentity, if_neg (by simp [hentity])]

/-- The catalog as a source of types. -/
def resolver (catalog : Catalog) : Resolver :=
  catalog.get?

/-- The number of fields of all entities together. -/
def size (catalog : Catalog) : Nat :=
  catalog.entities.foldl (fun total _ fields => total + fields.size) 0

def isEmpty (catalog : Catalog) : Bool :=
  catalog.size == 0

/-- The fields of one entity with their types, sorted by path. -/
def fieldsOf (catalog : Catalog) (entity : String) : List (String × FieldType) :=
  (catalog.fields entity).toList

end Catalog

end RuleExpr
