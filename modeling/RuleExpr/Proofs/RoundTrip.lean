import RuleExpr.Dialect.Json
import RuleExpr.Rule.Json
import RuleExpr.Proofs.Json.Record
import RuleExpr.Proofs.Json.Rendering
import RuleExpr.Proofs.Writing
/-!
What is encoded is decoded to what it was. Rendering writes a value by the grammar and reading gives that
value, so it is left to see that a rule or a dialect is found in the value that it makes.
-/
namespace RuleExpr

namespace Rule

theorem toJsonAll_eq_map (rules : List Rule) : toJsonAll rules = rules.map toJson := by
  induction rules with
  | nil => rfl
  | cons rule rules ih => rw [toJsonAll, ih, List.map_cons]

def quantityJson : Option UInt32 → Json
  | some n => .natural n.toNat
  | none => .null

theorem groupMembers_eq (combinator : Combinator) (quantity : Option UInt32) (members : List Json) :
    groupMembers combinator quantity members =
      [("combinator", .text combinator.name), ("quantity", quantityJson quantity),
        ("children", .list members)] := by
  cases quantity <;> rfl

theorem quantity?_quantityJson (quantity : Option UInt32) :
    quantity? (quantityJson quantity) = some quantity := by
  cases quantity with
  | none => rfl
  | some n =>
      rw [quantityJson, quantity?, if_pos n.toNat_lt, UInt32.ofNat_toNat]

theorem writes_quantityJson (quantity : Option UInt32) :
    Json.Writes (quantityJson quantity) (quantityJson quantity).render.toList := by
  cases quantity with
  | none => exact Json.writes_render_null
  | some n => exact Json.writes_render_natural n.toNat_lt

/-! ## The text of a rule -/

theorem writes_conditionMembers (c : Condition) :
    ∀ member ∈ conditionMembers c, Json.Writes member.2 member.2.render.toList := by
  simp only [conditionMembers, List.forall_mem_cons]
  exact ⟨Json.writes_render_text _, Json.writes_render_text _, Json.writes_render_text _, by simp⟩

theorem writes_groupMembers (combinator : Combinator) (quantity : Option UInt32)
    {members : List Json} (h : ∀ member ∈ members, Json.Writes member member.render.toList) :
    ∀ member ∈ groupMembers combinator quantity members,
      Json.Writes member.2 member.2.render.toList := by
  simp only [groupMembers_eq, List.forall_mem_cons]
  exact ⟨Json.writes_render_text _, writes_quantityJson quantity, Json.writes_render_list h, by simp⟩

/-- A rule's value is written by what is rendered for it. -/
theorem writes_toJson (rule : Rule) : Json.Writes rule.toJson rule.toJson.render.toList := by
  induction rule using Rule.induction with
  | condition c =>
      rw [toJson]
      exact Json.writes_render_object
        (List.forall_mem_cons.mpr ⟨Json.writes_render_text _, writes_conditionMembers c⟩)
  | group combinator quantity members ih =>
      rw [toJson, toJsonAll_eq_map]
      have hmembers := writes_groupMembers combinator quantity (List.forall_mem_map.mpr ih)
      exact Json.writes_render_object
        (List.forall_mem_cons.mpr ⟨Json.writes_render_text _, hmembers⟩)

theorem writes_toBareJson (rule : Rule) :
    Json.Writes rule.toBareJson rule.toBareJson.render.toList := by
  cases rule with
  | condition c => exact Json.writes_render_object (writes_conditionMembers c)
  | group combinator quantity members =>
      rw [toBareJson, toJsonAll_eq_map]
      have hmembers : ∀ value ∈ members.map toJson, Json.Writes value value.render.toList :=
        List.forall_mem_map.mpr fun member _ => member.writes_toJson
      exact Json.writes_render_object (writes_groupMembers combinator quantity hmembers)

/-! ## The rule of a value -/

theorem isUsable_toJson (rule : Rule) : rule.toJson.isUsable = true := by
  induction rule using Rule.induction with
  | condition c => rfl
  | group combinator quantity members ih =>
      have hmembers : Json.areUsable (members.map toJson) = true :=
        Json.areUsable_iff.mpr (List.forall_mem_map.mpr ih)
      cases quantity <;> simp [toJson, toJsonAll_eq_map, groupMembers, Json.isUsable,
        Json.areMembersUsable, hmembers]

theorem depth_toBareJson_group (combinator : Combinator) (quantity : Option UInt32)
    (members : List Rule) : (toBareJson (.group combinator quantity members)).depth =
      Json.depthOfItems (members.map toJson) + 2 := by
  cases quantity <;> simp [toBareJson, toJsonAll_eq_map, groupMembers, Json.depth, Json.depthOfMembers]

theorem depth_toJson (rule : Rule) : rule.toJson.depth = rule.toBareJson.depth := by
  cases rule with
  | condition c => rfl
  | group combinator quantity members =>
      simp [toJson, toBareJson, Json.depth, Json.depthOfMembers]

theorem ofConditionParts?_of (lenient : Bool) (c : Condition) :
    ofConditionParts? lenient [.text c.field, .text c.operator.name, .text c.value] =
      some (.condition c) := by
  simp only [ofConditionParts?, Json.text?, Json.name?, Option.bind_eq_bind, Option.bind_some,
    Operator.ofName?_name, Option.pure_def]

theorem ofGroupParts?_of (lenient : Bool) (combinator : Combinator) (quantity : Option UInt32)
    {members : List Rule} {member? : Json → Option Rule}
    (h : ∀ member ∈ members, member? member.toJson = some member) :
    ofGroupParts? lenient member?
      [.text combinator.name, quantityJson quantity, .list (members.map toJson)] =
        some (.group combinator quantity members) := by
  simp only [ofGroupParts?, Json.name?, Option.bind_eq_bind, Option.bind_some,
    Combinator.ofName?_name, quantity?_quantityJson, Json.mapM_map_eq_some h, Option.pure_def]

/-- A rule is found in its own value, by anyone who looks through as many levels as there are. -/
theorem ofSound?_toJson (rule : Rule) (numbered : Bool) {levels : Nat}
    (h : rule.toJson.depth < levels) : ofSound? levels numbered rule.toJson = some rule := by
  induction rule using Rule.induction generalizing numbered levels with
  | condition c =>
      obtain ⟨levels, rfl⟩ : ∃ n, levels = n + 1 := ⟨levels - 1, by omega⟩
      exact ofConditionParts?_of true c
  | group combinator quantity members ih =>
      obtain ⟨levels, rfl⟩ : ∃ n, levels = n + 1 := ⟨levels - 1, by omega⟩
      rw [depth_toJson, depth_toBareJson_group] at h
      have hdepth : ∀ value ∈ members.map toJson, value.depth ≤ levels - 2 :=
        Json.depthOfItems_le_iff.mp (by omega)
      have hmembers (member : Rule) (hmem : member ∈ members) :
          ofSound? levels true member.toJson = some member := by
        have := hdepth member.toJson (List.mem_map_of_mem hmem)
        exact ih member hmem true (by omega)
      rw [toJson, groupMembers_eq, toJsonAll_eq_map]
      exact ofGroupParts?_of true combinator quantity hmembers

theorem ofJson?_toJson (limit : Nat) (rule : Rule) :
    ofJson? limit rule.toJson = if rule.toJson.depth ≤ limit then some rule else none := by
  rw [ofJson?, Json.isSound, isUsable_toJson, ofSound?_toJson rule false (Nat.lt_succ_self _)]
  simp only [Bool.true_and, decide_eq_true_eq]

theorem ofConditionJson?_toBareJson (c : Condition) :
    ofConditionJson? (toBareJson (.condition c)) = some (.condition c) :=
  ofConditionParts?_of false c

/-- The members of a group are two levels inside it, so the limit on them is the limit on the group. -/
theorem ofGroupJson?_toBareJson (combinator : Combinator) (quantity : Option UInt32)
    (members : List Rule) :
    ofGroupJson? (toBareJson (.group combinator quantity members)) =
      if (toBareJson (.group combinator quantity members)).depth ≤ Json.depthLimit then
        some (.group combinator quantity members)
      else none := by
  have hparts : ofGroupJson? (toBareJson (.group combinator quantity members)) =
      ofGroupParts? false (ofJson? (Json.depthLimit - 2))
        [.text combinator.name, quantityJson quantity, .list (members.map toJson)] := by
    rw [toBareJson, groupMembers_eq, toJsonAll_eq_map]
    rfl
  have hdepth : (toBareJson (.group combinator quantity members)).depth ≤ Json.depthLimit ↔
      ∀ member ∈ members, member.toJson.depth ≤ Json.depthLimit - 2 := by
    rw [depth_toBareJson_group, ← Nat.le_sub_iff_add_le (by decide), Json.depthOfItems_le_iff,
      List.forall_mem_map]
  rw [hparts]
  split
  · rename_i hshallow
    apply ofGroupParts?_of
    intro member hmem
    rw [ofJson?_toJson, if_pos (hdepth.mp hshallow member hmem)]
  · rename_i hdeep
    simp only [hdepth, not_forall] at hdeep
    obtain ⟨member, hmem, hdeep⟩ := hdeep
    have hnone : (members.map toJson).mapM (ofJson? (Json.depthLimit - 2)) = none := by
      apply Json.mapM_eq_none_of_mem (List.mem_map_of_mem hmem)
      rw [ofJson?_toJson, if_neg hdeep]
    simp only [ofGroupParts?, Json.name?, Option.bind_eq_bind, Option.bind_some, hnone,
      Combinator.ofName?_name, quantity?_quantityJson, Option.bind_none]

theorem decode?_encode (rule : Rule) :
    decode? rule.encode = if rule.toJson.depth ≤ Json.depthLimit then some rule else none := by
  rw [decode?, encode, Json.read?_eq_some_iff.mpr rule.writes_toJson]
  exact ofJson?_toJson Json.depthLimit rule

theorem read?_toBareJson (rule : Rule) :
    Json.read? rule.toBareJson.render = some rule.toBareJson :=
  Json.read?_eq_some_iff.mpr rule.writes_toBareJson

end Rule

/-! ## Dialects -/

namespace Dialect

theorem writes_toJson (dialect : Dialect) :
    Json.Writes dialect.toJson dialect.toJson.render.toList := by
  apply Json.writes_render_object
  simp only [List.forall_mem_cons]
  exact ⟨Json.writes_render_text _, Json.writes_render_text _, Json.writes_render_text _,
    Json.writes_render_text _, by simp⟩

theorem decode?_encode (dialect : Dialect) : decode? dialect.encode = some dialect := by
  rw [decode?, encode, Json.read?_eq_some_iff.mpr dialect.writes_toJson]
  rfl

end Dialect

/-- What is encoded is decoded to what it was: a rule with its kind, a condition and a group without, and
a dialect. Rules whose JSON has too many lists and objects inside one another are the only ones that
are refused. -/
theorem decoded_as_encoded :
    (∀ rule : Rule, Rule.decode? rule.encode =
      if rule.toJson.depth ≤ Json.depthLimit then some rule else none) ∧
    (∀ c : Condition,
      Json.read? (Rule.condition c).toBareJson.render >>= Rule.ofConditionJson? =
        some (.condition c)) ∧
    (∀ combinator quantity members,
      let group := Rule.group combinator quantity members
      Json.read? group.toBareJson.render >>= Rule.ofGroupJson? =
        if group.toBareJson.depth ≤ Json.depthLimit then some group else none) ∧
    ∀ dialect : Dialect, Dialect.decode? dialect.encode = some dialect := by
  refine ⟨Rule.decode?_encode, ?_, ?_, Dialect.decode?_encode⟩
  · intro c
    rw [Rule.read?_toBareJson]
    exact Rule.ofConditionJson?_toBareJson c
  · intro combinator quantity members group
    rw [Rule.read?_toBareJson]
    exact Rule.ofGroupJson?_toBareJson combinator quantity members

end RuleExpr
