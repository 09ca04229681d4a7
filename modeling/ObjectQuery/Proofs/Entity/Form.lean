import ObjectQuery.Entity.Codec
import ObjectQuery.Proofs.Json.Form

/-!
# Entities survive their JSON

The forms of sources. A source is read back from every document that trims its form. An owner is
read back by induction on its parents.
-/

namespace ObjectQuery

open Json Json.Form

namespace EntityType

def form (entityType : EntityType) : Form :=
  .object
    [required "type_name" (.leaf (.text entityType.typeName)),
     defaulted "logical_name" .null (.leaf (ofOption .text entityType.storeName)),
     defaulted "primary_key" .null (.leaf (ofOption .text entityType.keyName))]

theorem decodes_form (entityType : EntityType) : Decodes ofJson? entityType.form entityType := by
  apply decodes_object (by simp)
  rintro kept ⟨typeName, storeName, keyName⟩
  simp only [ofJson?, typeName.field? (decodes_text _),
    storeName.optional? (decodes_optionalText _), keyName.optional? (decodes_optionalText _)]
  rfl

theorem full_form (entityType : EntityType) : entityType.form.full = entityType.toJson :=
  rfl

theorem decimalFree_toJson (entityType : EntityType) : entityType.toJson.DecimalFree := by
  rcases entityType with ⟨typeName, _ | storeName, _ | keyName⟩
  all_goals simp [toJson, ofOption, DecimalFree, DecimalFreeMembers]

end EntityType

theorem JoinOperator.decimalFree_toJson (operator : JoinOperator) :
    operator.toJson.DecimalFree := by
  cases operator <;> exact trivial

theorem JoinOperator.decodes_form (operator : JoinOperator) :
    Decodes ofJson? (.leaf operator.toJson) operator := by
  cases operator <;> exact decodes_leaf rfl

/-!
The members of a source are those of its object where the kind is left out. An owner tells its kind
before them.
-/

section Members

variable {kept : List (String × Json)} {parent : Form}

def DomainEntity.memberForms (entity : DomainEntity) : List (String × Option Json × Form) :=
  [required "entity_type" entity.entityType.form, required "alias" (.leaf (.text entity.aliasName))]

theorem DomainEntity.ofJson?_object {entity : DomainEntity}
    (holds : List.Forall (Holds kept) entity.memberForms) :
    ofJson? (.object kept) = some entity := by
  rcases holds with ⟨entityType, aliasName⟩
  simp only [ofJson?, entityType.field? (EntityType.decodes_form _),
    aliasName.field? (decodes_text _)]
  rfl

/-- The members of a join whose parent has a form. -/
def JoinEntity.memberForms (join : JoinEntity) (parent : Form) :
    List (String × Option Json × Form) :=
  [required "operator" (.leaf join.operator.toJson), required "name" (.leaf (.text join.name)),
   defaulted "parent" .null parent, required "alias" (.leaf (.text join.aliasName))]

theorem JoinEntity.under?_object {join : JoinEntity}
    (holds : List.Forall (Holds kept) (join.memberForms parent)) :
    under? join.parent (.object kept) = some join := by
  rcases holds with ⟨operator, name, -, aliasName⟩
  simp only [under?, operator.field? (JoinOperator.decodes_form _), name.field? (decodes_text _),
    aliasName.field? (decodes_text _)]
  rfl

/-- The members of a fetch whose parent has a form. -/
def FetchJoin.memberForms (fetch : FetchJoin) (parent : Form) :
    List (String × Option Json × Form) :=
  [required "operator" (.leaf fetch.operator.toJson), required "name" (.leaf (.text fetch.name)),
   defaulted "parent" .null parent,
   defaulted "alias" .null (.leaf (ofOption .text fetch.aliasName))]

theorem FetchJoin.under?_object {fetch : FetchJoin}
    (holds : List.Forall (Holds kept) (fetch.memberForms parent)) :
    under? fetch.parent (.object kept) = some fetch := by
  rcases holds with ⟨operator, name, -, aliasName⟩
  simp only [under?, operator.field? (JoinOperator.decodes_form _), name.field? (decodes_text _),
    aliasName.optional? (decodes_optionalText _)]
  rfl

end Members

namespace Owner

def form : Owner → Form
  | .root => .leaf .null
  | .domain entity => .object (required "kind" (.leaf (.text "domain")) :: entity.memberForms)
  | .join operator name parent aliasName =>
      let join : JoinEntity := { operator, name, parent, aliasName }
      .object (required "kind" (.leaf (.text "join")) :: join.memberForms parent.form)
  | .fetch operator name parent aliasName =>
      let fetch : FetchJoin := { operator, name, parent, aliasName }
      .object (required "kind" (.leaf (.text "fetch")) :: fetch.memberForms parent.form)

theorem full_form (owner : Owner) : owner.form.full = owner.toJson := by
  induction owner with
  | root => rfl
  | domain entity => rfl
  | join operator name parent aliasName ih | fetch operator name parent aliasName ih =>
      rw [toJson, ← ih]
      rfl

theorem ofJson?_null : ofJson? .null = some .root := by
  rw [ofJson?]

/-- An object without a parent is read as one whose parent is the root. -/
theorem ofJson?_object (kept : List (String × Json)) :
    ofJson? (.object kept) = (do
      let parent := (Json.object kept).fieldOr? "parent" .root ofJson?
      match ← (Json.object kept).field? "kind" Json.text? with
      | "domain" => .domain <$> DomainEntity.ofJson? (.object kept)
      | "join" => do return (← JoinEntity.under? (← parent) (.object kept)).toOwner
      | "fetch" => do return (← FetchJoin.under? (← parent) (.object kept)).toOwner
      | _ => none) := by
  rw [ofJson?]
  · rw [fieldOr?_object, ← val_member?]
    cases (Json.object kept).member? "parent" <;> rfl
  · simp

theorem decodes_form (owner : Owner) : Decodes ofJson? owner.form owner := by
  induction owner with
  | root => exact decodes_leaf ofJson?_null
  | domain entity =>
      apply decodes_object (by simp [DomainEntity.memberForms])
      rintro kept ⟨kind, members⟩
      simp [ofJson?_object, kind.field? (decodes_text _), DomainEntity.ofJson?_object members]
  | join operator name parent aliasName ih =>
      apply decodes_object (by simp [JoinEntity.memberForms])
      rintro kept ⟨kind, members⟩
      have parent_read := members.2.2.1.fieldOr? ih ofJson?_null
      simp only [ofJson?_object, kind.field? (decodes_text _), parent_read,
        Option.bind_eq_bind, Option.bind_some]
      rw [JoinEntity.under?_object members]
      rfl
  | fetch operator name parent aliasName ih =>
      apply decodes_object (by simp [FetchJoin.memberForms])
      rintro kept ⟨kind, members⟩
      have parent_read := members.2.2.1.fieldOr? ih ofJson?_null
      simp only [ofJson?_object, kind.field? (decodes_text _), parent_read,
        Option.bind_eq_bind, Option.bind_some]
      rw [FetchJoin.under?_object members]
      rfl

theorem decimalFree_toJson (owner : Owner) : owner.toJson.DecimalFree := by
  induction owner with
  | root => exact trivial
  | domain entity => exact ⟨trivial, entity.entityType.decimalFree_toJson, trivial, trivial⟩
  | join operator name parent aliasName ih =>
      exact ⟨trivial, operator.decimalFree_toJson, trivial, ih, trivial, trivial⟩
  | fetch operator name parent aliasName ih =>
      cases aliasName <;>
        exact ⟨trivial, operator.decimalFree_toJson, trivial, ih, trivial, trivial⟩

end Owner

namespace FetchJoin

def form (fetch : FetchJoin) : Form :=
  .object (fetch.memberForms fetch.parent.form)

theorem full_form (fetch : FetchJoin) : fetch.form.full = fetch.toJson := by
  rw [toJson, ← fetch.parent.full_form]
  rfl

theorem decodes_form (fetch : FetchJoin) : Decodes ofJson? fetch.form fetch := by
  apply decodes_object (by simp [memberForms])
  intro kept members
  have parent_read := members.2.2.1.fieldOr? fetch.parent.decodes_form Owner.ofJson?_null
  rw [ofJson?, parent_read]
  exact under?_object members

theorem decimalFree_toJson (fetch : FetchJoin) : fetch.toJson.DecimalFree := by
  rcases fetch with ⟨operator, name, parent, _ | aliasName⟩
  all_goals exact
    ⟨operator.decimalFree_toJson, trivial, parent.decimalFree_toJson, trivial, trivial⟩

end FetchJoin

namespace Entity

def form (entity : Entity) : Form :=
  entity.toOwner.form

theorem full_form (entity : Entity) : entity.form.full = entity.toJson :=
  entity.toOwner.full_form

theorem decodes_form (entity : Entity) : Decodes ofJson? entity.form entity := by
  intro document trims
  rw [ofJson?, entity.toOwner.decodes_form document trims]
  cases entity <;> rfl

end Entity

end ObjectQuery
