import ObjectQuery.Condition.Binding
import ObjectQuery.Statement.Basic

/-!
# Queries

The text of a statement together with its parameters. A specification is made into a query in one
of four ways; its clauses can also be had one by one. The FROM clause comes first, so that joins
without an order are reported before parameters in conflict.
-/

namespace ObjectQuery

structure Query where
  text : String
  parameters : Parameters

namespace Query

variable (options : Options) (root : EntityType) (spec : SearchSpec)

/-- A query as a JSON object. -/
def toJson (query : Query) : Json :=
  .object [("text", .text query.text), ("parameters", query.parameters.toJson)]

/-- A query, noted as the outcome of an operation. -/
def logged (operation : Operation) (query : Query) : Compilation Query := do
  .emit [.compiled operation query.text query.parameters.size]
  return query

/-- The statement that selects something of what a specification describes, and its parameters. -/
def select (projection : Projection) (orders : List Order) :
    Compilation (Select × Parameters) := do
  let sources ← spec.fromClause options root
  let (conditions, parameters) ← Criteria.bindAll options.emptyList {} spec.criteria
  return ({ projection, sources, conditions, orders }, parameters)

/-- The query for the entities that a specification describes, in their order. -/
def find : Compilation Query := do
  let (statement, parameters) ←
    select options root spec (.root spec.distinct) (root.completeOrders spec.orders)
  logged .find { text := statement.text, parameters }

/-- The query for the number of entities. A specification without fetches is counted as it is, with
the criteria that opted out of counting. -/
def count : Compilation Query := do
  let counted := if spec.fetches.isEmpty then spec else spec.countSpec
  let (statement, parameters) ← select options root counted .count []
  logged .count { text := statement.text, parameters }

/-- The query for a function of the values of one field. -/
def aggregate (function : AggregateFunction) (field : String) : Compilation Query := do
  let (statement, parameters) ←
    select options root spec (.aggregate function field spec.distinct) []
  logged .aggregate { text := statement.text, parameters }

/-- Binds the new values of an update. -/
def bindAttributes (parameters : Parameters) :
    List (String × Value) → List Assignment × Parameters
  | [] => ([], parameters)
  | (field, value) :: rest =>
      let (parameter, parameters) := parameters.bind field value value
      let (assignments, parameters) := bindAttributes parameters rest
      ({ field, parameter } :: assignments, parameters)

/-- The query that gives the entities new values. They are bound before the conditions. Sources,
fetches and orders of the specification have no part in it. -/
def update (attributes : List (String × Value)) : Compilation Query := do
  let (assignments, parameters) := bindAttributes {} attributes
  let (conditions, parameters) ← Criteria.bindAll options.emptyList parameters spec.criteria
  logged .update { text := Update.text { root, assignments, conditions }, parameters }

/-- The FROM clause alone, with the blank before it. -/
def fromText : Compilation String := do
  return (← spec.fromClause options root).text

/-- The conditions alone. -/
def whereClause : Compilation Query := do
  let (conditions, parameters) ← Criteria.bindAll options.emptyList {} spec.criteria
  return { text := Condition.whereText conditions, parameters }

/-- The ORDER BY clause alone. -/
def orderText : String :=
  Order.clauseText (root.completeOrders spec.orders)

/-- The condition that one criteria says, without a keyword. -/
def criteriaClause (criteria : Criteria) : Compilation Query := do
  let (condition, parameters) ← criteria.bind options.emptyList {}
  return { text := condition.text, parameters }

end Query

end ObjectQuery
