import ObjectQuery.Digest

/-!
# Entities

A statement has one root entity, whose alias is `e`. Further sources are either entities of their
own, which stand beside the root, or joins, which are navigated from another source along one of
its properties. Every field and every join belongs to an `Owner`: the root or one of these sources.
-/

namespace ObjectQuery

/-- A persistent type. -/
structure EntityType where
  typeName : String
  /-- The name that the store knows the type by, if it is another one. -/
  storeName : Option String := none
  /-- The property that identifies an entity, if it is not the usual one. -/
  keyName : Option String := none
deriving DecidableEq, Repr

namespace EntityType

variable (entityType : EntityType)

/-- The name that statements use: the store's name if there is one that is not empty, else the
type's own. -/
def logicalName : String :=
  match entityType.storeName with
  | some name => if name.isEmpty then entityType.typeName else name
  | none => entityType.typeName

/-- The property that identifies an entity. -/
def primaryKey : String :=
  entityType.keyName.getD "id"

end EntityType

inductive JoinOperator where
  | left
  | inner
  | leftFetch
  | innerFetch
deriving DecidableEq, Repr

namespace JoinOperator

def keyword : JoinOperator → String
  | .left => "LEFT JOIN"
  | .inner => "INNER JOIN"
  | .leftFetch => "LEFT JOIN FETCH"
  | .innerFetch => "JOIN FETCH"

def isFetch : JoinOperator → Bool
  | .leftFetch | .innerFetch => true
  | .left | .inner => false

end JoinOperator

/-- An entity that stands beside the root. -/
structure DomainEntity where
  entityType : EntityType
  aliasName : String
deriving DecidableEq, Repr

/-- An entity of a type, with an alias made from the type's name. -/
def DomainEntity.ofType (entityType : EntityType) : DomainEntity where
  entityType
  aliasName := "o_" ++ toString (digest entityType.typeName).toNat

/-- What a field or a join belongs to: the root, or another source. -/
inductive Owner where
  | root
  | domain (entity : DomainEntity)
  | join (operator : JoinOperator) (name : String) (parent : Owner) (aliasName : String)
  | fetch (operator : JoinOperator) (name : String) (parent : Owner) (aliasName : Option String)
deriving DecidableEq, Repr

/-- The alias of the root. -/
def rootAlias : String := "e"

/-- The alias that fields of an owner are qualified by. A fetch without an alias is taken for the
root. -/
def Owner.aliasName : Owner → String
  | .root => rootAlias
  | .domain entity => entity.aliasName
  | .join _ _ _ aliasName => aliasName
  | .fetch _ _ _ aliasName => aliasName.getD rootAlias

/-- A source navigated from its parent along the property `name`. -/
structure JoinEntity where
  operator : JoinOperator
  name : String
  parent : Owner := .root
  aliasName : String
deriving DecidableEq, Repr

namespace JoinEntity

/-- A join from the root, with an alias made from the property's name. -/
def named (operator : JoinOperator) (name : String) : JoinEntity where
  operator
  name
  aliasName := name ++ "_" ++ toString (digest name).toNat

/-- A join as the owner of fields and of further joins. -/
def toOwner (join : JoinEntity) : Owner :=
  .join join.operator join.name join.parent join.aliasName

end JoinEntity

/-- A property that is loaded together with its parent. Statements name no alias for it. -/
structure FetchJoin where
  operator : JoinOperator
  name : String
  parent : Owner := .root
  aliasName : Option String := none
deriving DecidableEq, Repr

/-- A fetch as the owner of fields and of further joins. -/
def FetchJoin.toOwner (fetch : FetchJoin) : Owner :=
  .fetch fetch.operator fetch.name fetch.parent fetch.aliasName

/-- A source of a statement beside its root. -/
inductive Entity where
  | domain (source : DomainEntity)
  | join (source : JoinEntity)
  | fetch (source : FetchJoin)
deriving DecidableEq, Repr

namespace Entity

def toOwner : Entity → Owner
  | .domain source => .domain source
  | .join source => source.toOwner
  | .fetch source => source.toOwner

def aliasName? : Entity → Option String
  | .domain source => some source.aliasName
  | .join source => some source.aliasName
  | .fetch source => source.aliasName

end Entity

/-- The source that an owner is, unless it is the root. -/
def Owner.toEntity? : Owner → Option Entity
  | .root => none
  | .domain entity => some (.domain entity)
  | .join operator name parent aliasName => some (.join { operator, name, parent, aliasName })
  | .fetch operator name parent aliasName => some (.fetch { operator, name, parent, aliasName })

end ObjectQuery
