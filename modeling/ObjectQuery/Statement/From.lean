import ObjectQuery.Compilation
import ObjectQuery.JoinOrder
import ObjectQuery.Search.Basic

/-!
# FROM clauses

The sources of a statement: the root, the entities beside it, the joins in an order in which each
follows its parent, and the fetches. Entities and joins are listed together in a specification; what
is neither an entity nor a join proper is noted and has no part in the clause.
-/

namespace ObjectQuery

structure FromClause where
  root : EntityType
  sources : List DomainEntity
  joins : List JoinEntity
  fetches : List FetchJoin
deriving DecidableEq, Repr

namespace JoinEntity

/-- The property that a join navigates along. -/
def property (join : JoinEntity) : Field where
  name := join.name
  owner := join.parent

def text (join : JoinEntity) : String :=
  " " ++ join.operator.keyword ++ " " ++ join.property.path ++ " " ++ join.aliasName

end JoinEntity

namespace FetchJoin

/-- The property that a fetch loads. -/
def property (fetch : FetchJoin) : Field where
  name := fetch.name
  owner := fetch.parent

/-- A fetch ends in the blank that would divide it from an alias. -/
def text (fetch : FetchJoin) : String :=
  " " ++ fetch.operator.keyword ++ " " ++ fetch.property.path ++ " "

end FetchJoin

def DomainEntity.text (entity : DomainEntity) : String :=
  ", " ++ entity.entityType.typeName ++ " " ++ entity.aliasName

namespace FromClause

/-- A clause, with the blank before it. -/
def text (clause : FromClause) : String :=
  " FROM " ++ clause.root.logicalName ++ " AS " ++ rootAlias ++
    String.join (clause.sources.map DomainEntity.text) ++
    String.join (clause.joins.map JoinEntity.text) ++
    String.join (clause.fetches.map FetchJoin.text)

end FromClause

namespace Entity

/-- An entity that stands beside the root. -/
def domain? : Entity → Option DomainEntity
  | .domain source => some source
  | .join _ | .fetch _ => none

/-- A join proper, which fetches nothing. -/
def join? : Entity → Option JoinEntity
  | .join source => if source.operator.isFetch then none else some source
  | .domain _ | .fetch _ => none

/-- What an entity without a part in the FROM clause leaves to be noted. -/
def stray? : Entity → Option LogEvent
  | .domain _ => none
  | .join source => if source.operator.isFetch then some (.fetchingJoin source.aliasName) else none
  | .fetch source => some (.strayFetch source.name)

end Entity

namespace SearchSpec

/-- The joins of a specification in the order of a statement. -/
def joinOrder (spec : SearchSpec) (options : Options) : JoinOrder :=
  JoinOrder.ofJoins (spec.entities.filterMap Entity.join?) options.maxJoinPasses

/-- What the options say about joins that are left over. -/
def settle (options : Options) (waiting : List JoinEntity) : Compilation Unit :=
  if waiting.isEmpty then pure ()
  else
    let aliasNames := waiting.map JoinEntity.aliasName
    match options.joinResolution with
    | .strict => .fail (.unresolvedJoins aliasNames options.maxJoinPasses)
    | .lenient => .emit [.droppedJoins aliasNames options.maxJoinPasses]

/-- The FROM clause of a specification. -/
def fromClause (spec : SearchSpec) (options : Options) (root : EntityType) :
    Compilation FromClause := do
  .emit (spec.entities.filterMap Entity.stray?)
  let order := spec.joinOrder options
  settle options order.waiting
  return {
    root
    sources := spec.entities.filterMap Entity.domain?
    joins := order.placed
    fetches := spec.fetches }

end SearchSpec

end ObjectQuery
