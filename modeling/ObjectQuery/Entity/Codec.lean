import ObjectQuery.Entity.Basic
import ObjectQuery.Json.Decode

/-!
# Entities as JSON

A source is an object that tells its kind. The root is the null document, or no document at all.
Where only a join or only a fetch can stand, the kind is left out.
-/

namespace ObjectQuery

namespace EntityType

def toJson (entityType : EntityType) : Json :=
  .object
    [("type_name", .text entityType.typeName),
     ("logical_name", Json.ofOption .text entityType.storeName),
     ("primary_key", Json.ofOption .text entityType.keyName)]

def ofJson? (document : Json) : Option EntityType := do
  return {
    typeName := ← document.field? "type_name" Json.text?
    storeName := ← document.optional? "logical_name" Json.text?
    keyName := ← document.optional? "primary_key" Json.text? }

end EntityType

namespace JoinOperator

def toJson : JoinOperator → Json
  | .left => .text "left"
  | .inner => .text "inner"
  | .leftFetch => .text "left_fetch"
  | .innerFetch => .text "inner_fetch"

def ofJson? : Json → Option JoinOperator
  | .text "left" => some .left
  | .text "inner" => some .inner
  | .text "left_fetch" => some .leftFetch
  | .text "inner_fetch" => some .innerFetch
  | _ => none

end JoinOperator

namespace DomainEntity

/-- The members of an entity's object. -/
def members (entity : DomainEntity) : List (String × Json) :=
  [("entity_type", entity.entityType.toJson), ("alias", .text entity.aliasName)]

def toJson (entity : DomainEntity) : Json :=
  .object entity.members

def ofJson? (document : Json) : Option DomainEntity := do
  return {
    entityType := ← document.field? "entity_type" EntityType.ofJson?
    aliasName := ← document.field? "alias" Json.text? }

end DomainEntity

namespace Owner

def toJson : Owner → Json
  | .root => .null
  | .domain entity => .object (("kind", .text "domain") :: entity.members)
  | .join operator name parent aliasName =>
      .object
        [("kind", .text "join"), ("operator", operator.toJson), ("name", .text name),
         ("parent", parent.toJson), ("alias", .text aliasName)]
  | .fetch operator name parent aliasName =>
      .object
        [("kind", .text "fetch"), ("operator", operator.toJson), ("name", .text name),
         ("parent", parent.toJson), ("alias", Json.ofOption .text aliasName)]

end Owner

namespace JoinEntity

def toJson (join : JoinEntity) : Json :=
  .object
    [("operator", join.operator.toJson), ("name", .text join.name),
     ("parent", join.parent.toJson), ("alias", .text join.aliasName)]

/-- The join under a given parent that a document is. -/
def under? (parent : Owner) (document : Json) : Option JoinEntity := do
  return {
    operator := ← document.field? "operator" JoinOperator.ofJson?
    name := ← document.field? "name" Json.text?
    parent
    aliasName := ← document.field? "alias" Json.text? }

end JoinEntity

namespace FetchJoin

def toJson (fetch : FetchJoin) : Json :=
  .object
    [("operator", fetch.operator.toJson), ("name", .text fetch.name),
     ("parent", fetch.parent.toJson), ("alias", Json.ofOption .text fetch.aliasName)]

/-- The fetch under a given parent that a document is. -/
def under? (parent : Owner) (document : Json) : Option FetchJoin := do
  return {
    operator := ← document.field? "operator" JoinOperator.ofJson?
    name := ← document.field? "name" Json.text?
    parent
    aliasName := ← document.optional? "alias" Json.text? }

end FetchJoin

namespace Owner

/-- The owner that a document is. -/
def ofJson? (document : Json) : Option Owner :=
  match document with
  | .null => some .root
  | document => do
      let parent :=
        match document.member? "parent" with
        | none => some .root
        | some member => ofJson? member.1
      match ← document.field? "kind" Json.text? with
      | "domain" => .domain <$> DomainEntity.ofJson? document
      | "join" => do return (← JoinEntity.under? (← parent) document).toOwner
      | "fetch" => do return (← FetchJoin.under? (← parent) document).toOwner
      | _ => none
termination_by sizeOf document
decreasing_by exact member.2

end Owner

def JoinEntity.ofJson? (document : Json) : Option JoinEntity := do
  JoinEntity.under? (← document.fieldOr? "parent" .root Owner.ofJson?) document

def FetchJoin.ofJson? (document : Json) : Option FetchJoin := do
  FetchJoin.under? (← document.fieldOr? "parent" .root Owner.ofJson?) document

namespace Entity

def toJson (entity : Entity) : Json :=
  entity.toOwner.toJson

/-- The source that a document is. Null is none. -/
def ofJson? (document : Json) : Option Entity :=
  Owner.ofJson? document >>= Owner.toEntity?

end Entity

end ObjectQuery
