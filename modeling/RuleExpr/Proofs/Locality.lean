import RuleExpr.Catalog
import RuleExpr.Proofs.Lookups
import RuleExpr.Rule.Build
/-!
Writing a rule is local. How it ends, what it asks and what it notes is settled by the types of the
paths that the rule compares, so nothing else that a resolver knows makes a difference, and neither do
the rows of a catalog that are about other fields.
-/
namespace RuleExpr

namespace Inquiry

variable {α : Type}

/-- Two resolvers walk through an inquiry alike. -/
structure SameWalk (inquiry : Inquiry α) (resolve other : Resolver) : Prop where
  outcome : inquiry.outcome resolve = inquiry.outcome other
  lookups : inquiry.lookups resolve = inquiry.lookups other
  events : inquiry.events resolve = inquiry.events other

/-- Resolvers that agree on all questions of the walk of one of them walk alike. The later questions
depend on the earlier answers, so it has to be shown along the walk that the other resolver puts the
same ones. -/
theorem sameWalk_of_agree {inquiry : Inquiry α} {resolve other : Resolver}
    (hagree : ∀ lookup ∈ inquiry.lookups resolve,
      resolve lookup.1 lookup.2 = other lookup.1 lookup.2) :
    inquiry.SameWalk resolve other := by
  induction inquiry with
  | done answer => exact ⟨rfl, rfl, rfl⟩
  | refuse refusal => exact ⟨rfl, rfl, rfl⟩
  | note event rest ih =>
      have hrest := ih hagree
      exact ⟨hrest.outcome, hrest.lookups, congrArg (event :: ·) hrest.events⟩
  | ask entity path next ih =>
      have hanswer : resolve entity path = other entity path :=
        hagree (entity, path) List.mem_cons_self
      have hnext : (next (resolve entity path)).SameWalk resolve other := by
        apply ih
        intro lookup hlookup
        exact hagree lookup (List.mem_cons_of_mem _ hlookup)
      rw [hanswer] at hnext
      constructor
      · rw [outcome, outcome, hanswer, hnext.outcome]
      · rw [lookups, lookups, hanswer, hnext.lookups]
      · rw [events, events, hanswer, hnext.events]

end Inquiry

/-- The path is one of those that the condition compares. -/
def Condition.Compares (c : Condition) (path : String) : Prop :=
  path = c.field ∨ c.operator.comparesFields = true ∧ path = Text.trim c.value

theorem Condition.compares_of_mem_asked {c : Condition} {entity : String} {resolve : Resolver}
    {lookup : String × String} (hlookup : lookup ∈ c.asked entity resolve) :
    c.Compares lookup.2 := by
  unfold asked at hlookup
  split at hlookup
  · cases hlookup
  · split at hlookup
    · rename_i hright
      simp only [Bool.and_eq_true] at hright
      rcases List.mem_cons.mp hlookup with rfl | hother
      · exact Or.inl rfl
      · rw [List.mem_singleton] at hother
        subst hother
        exact Or.inr ⟨hright.1.1, rfl⟩
    · rw [List.mem_singleton] at hlookup
      subst hlookup
      exact Or.inl rfl

/-- The path is one of those that a condition of the rule compares. -/
def Rule.Compares (rule : Rule) (path : String) : Prop :=
  ∃ c ∈ rule.conditions, c.Compares path

instance (rule : Rule) : DecidablePred rule.Compares := fun path =>
  inferInstanceAs (Decidable (∃ c ∈ rule.conditions,
    path = c.field ∨ c.operator.comparesFields = true ∧ path = Text.trim c.value))

theorem Rule.mem_conditions_iff {rule : Rule} {c : Condition} :
    c ∈ rule.conditions ↔ .condition c ∈ rule.items := by
  rw [conditions, List.mem_filterMap]
  constructor
  · rintro ⟨item, hitem, hc⟩
    cases item with
    | condition other =>
        obtain rfl : other = c := Option.some.inj hc
        exact hitem
    | childless combinator => cases hc
  · intro hitem
    exact ⟨_, hitem, rfl⟩

namespace Catalog

/-- The catalog after rows are inserted one by one, in order. -/
def insertAll (catalog : Catalog) (rows : List ((String × String) × FieldType)) : Catalog :=
  rows.foldl (fun catalog row => catalog.insert row.1.1 row.1.2 row.2) catalog

/-- Of the rows about one field the last one counts, and without any the catalog is as it was. -/
theorem get?_insertAll (catalog : Catalog) (rows : List ((String × String) × FieldType))
    (entity path : String) :
    (catalog.insertAll rows).get? entity path =
      (rows.reverse.lookup (entity, path)).or (catalog.get? entity path) := by
  induction rows generalizing catalog with
  | nil => rfl
  | cons row rows ih =>
      have hstep : catalog.insertAll (row :: rows) =
          (catalog.insert row.1.1 row.1.2 row.2).insertAll rows := rfl
      rw [hstep, ih, get?_insert, List.reverse_cons, List.lookup_append, Option.or_assoc]
      congr 1
      split
      case isTrue hkey => rw [hkey, List.lookup_cons_self, Option.some_or]
      case isFalse hkey =>
          have hne : ((entity, path) == row.1) = false := beq_eq_false_iff_ne.mpr hkey
          rw [List.lookup_cons, hne, List.lookup_nil, Option.none_or]

/-- Rows that are about other fields can be left out of a search. -/
theorem lookup_filter {rows : List ((String × String) × FieldType)} {key : String × String}
    {kept : (String × String) × FieldType → Bool}
    (hkept : ∀ row ∈ rows, row.1 = key → kept row = true) :
    (rows.filter kept).lookup key = rows.lookup key := by
  induction rows with
  | nil => rfl
  | cons row rows ih =>
      have hlater := ih fun later hlater => hkept later (List.mem_cons_of_mem row hlater)
      by_cases hrow : row.1 = key
      · rw [List.filter_cons_of_pos (hkept row List.mem_cons_self hrow), ← hrow,
          List.lookup_cons_self, List.lookup_cons_self]
      · have hne : (key == row.1) = false := beq_eq_false_iff_ne.mpr (Ne.symm hrow)
        rw [List.lookup_cons, hne, ← hlater, List.filter_cons]
        split
        · rw [List.lookup_cons, hne]
        · rfl

end Catalog

namespace Dialect

variable {dialect : Dialect} {entity : String} {resolve other : Resolver} {rule : Rule}

/-- The questions of a rule are about its own entity and the paths that it compares. -/
theorem compares_of_mem_lookups {lookup : String × String}
    (hlookup : lookup ∈ (dialect.write entity rule).lookups resolve) :
    lookup.1 = entity ∧ rule.Compares lookup.2 := by
  refine ⟨((asksInOrder_write rule).paths lookup hlookup).1, ?_⟩
  rw [lookups_write] at hlookup
  split at hlookup
  · obtain ⟨item, hitem, hasked⟩ := Item.exists_of_mem_trail hlookup
    cases item with
    | condition c =>
        exact ⟨c, Rule.mem_conditions_iff.mpr hitem, Condition.compares_of_mem_asked hasked⟩
    | childless combinator => cases hasked
  · cases hlookup

theorem sameWalk_write
    (hagree : ∀ path, rule.Compares path → resolve entity path = other entity path) :
    (dialect.write entity rule).SameWalk resolve other := by
  apply Inquiry.sameWalk_of_agree
  intro lookup hlookup
  obtain ⟨hentity, hcompares⟩ := compares_of_mem_lookups hlookup
  rw [hentity]
  exact hagree lookup.2 hcompares

/-- The row has a part in the rule: it is about the entity and a path that the rule compares. -/
def rowConcerns (entity : String) (rule : Rule) (row : (String × String) × FieldType) : Bool :=
  row.1.1 = entity && decide (rule.Compares row.1.2)

/-- Resolvers that agree on the paths that a rule compares write it alike, with the same questions and
the same notes. So catalogs write it alike that come from one catalog by insertions in which the rows
that have a part in the rule are the same, whatever other rows stand before, between and after them. -/
theorem write_local (dialect : Dialect) (entity : String) (rule : Rule) :
    (∀ resolve other : Resolver,
      (∀ path, rule.Compares path → resolve entity path = other entity path) →
        (dialect.write entity rule).SameWalk resolve other) ∧
    (∀ (catalog : Catalog) (rows others : List ((String × String) × FieldType)),
      rows.filter (rowConcerns entity rule) = others.filter (rowConcerns entity rule) →
        (dialect.write entity rule).SameWalk (catalog.insertAll rows).resolver
          (catalog.insertAll others).resolver) := by
  refine ⟨fun resolve other => sameWalk_write, ?_⟩
  intro catalog rows others hrows
  apply sameWalk_write
  intro path hcompares
  have hkept (row : (String × String) × FieldType) (hrow : row.1 = (entity, path)) :
      rowConcerns entity rule row = true := by
    simp [rowConcerns, hrow, hcompares]
  have hsearch (rows : List ((String × String) × FieldType)) :
      rows.reverse.lookup (entity, path) =
        (rows.filter (rowConcerns entity rule)).reverse.lookup (entity, path) := by
    rw [← List.filter_reverse, Catalog.lookup_filter fun row _ => hkept row]
  change (catalog.insertAll rows).get? entity path = (catalog.insertAll others).get? entity path
  rw [Catalog.get?_insertAll, Catalog.get?_insertAll, hsearch rows, hsearch others, hrows]

/-- Rows of another entity, of a prefix of a path, and of an operand that is no path make no difference to
a rule, wherever they come among those that do. Neither does a resolver that makes up other fields. -/
theorem write_local_of_strange_rows :
    let rule := Rule.and [.condition ⟨"total", .compareField .less, " limit.max "⟩]
    let rows := [(("order", "total"), FieldType.numeric), (("order", "limit.max"), .monetary)]
    let others := [(("order", "limit"), FieldType.string), (("order", "total"), .numeric),
      (("customer", "limit.max"), .date), (("order", "limit.max"), .monetary),
      (("order", " limit.max "), .date)]
    let known := (Catalog.empty.insertAll rows).resolver
    let inventive : Resolver := fun entity path => (known entity path).orElse fun _ => some .date
    ((∀ path, rule.Compares path → known "order" path = inventive "order" path) ∧
      (mvel.write "order" rule).SameWalk known inventive) ∧
    rows.filter (rowConcerns "order" rule) = others.filter (rowConcerns "order" rule) ∧
      (mvel.write "order" rule).SameWalk known (Catalog.empty.insertAll others).resolver := by
  intro rule rows others known inventive
  have hagree (path : String) (hcompares : rule.Compares path) :
      known "order" path = inventive "order" path := by
    obtain ⟨c, hc, hpath⟩ := hcompares
    obtain rfl : c = ⟨"total", .compareField .less, " limit.max "⟩ := List.mem_singleton.mp hc
    rcases hpath with rfl | ⟨-, rfl⟩
    · rfl
    · decide +kernel
  have hrows : rows.filter (rowConcerns "order" rule) = others.filter (rowConcerns "order" rule) := by
    decide +kernel
  have hlocal := write_local mvel "order" rule
  exact ⟨⟨hagree, hlocal.1 known inventive hagree⟩, hrows,
    hlocal.2 Catalog.empty rows others hrows⟩

end Dialect

end RuleExpr
