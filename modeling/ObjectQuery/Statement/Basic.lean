import ObjectQuery.Condition.Basic
import ObjectQuery.Statement.From
import ObjectQuery.Statement.Sorting

/-!
# Statements

A statement selects something from its sources, or updates its root. Both are narrowed down by
conditions, all of which have to hold.
-/

namespace ObjectQuery

/-- What a statement selects. -/
inductive Projection where
  | root (distinct : Bool)
  | count
  | aggregate (function : AggregateFunction) (field : String) (distinct : Bool)
deriving DecidableEq, Repr

/-- Within a function, the removal of duplicates is written as a call too. -/
def Projection.text : Projection → String
  | .root distinct => if distinct then "DISTINCT " ++ rootAlias else rootAlias
  | .count => callText "COUNT" rootAlias
  | .aggregate function field distinct =>
      let path := Field.path { name := field }
      callText function.keyword (if distinct then callText "DISTINCT" path else path)

structure Select where
  projection : Projection
  sources : FromClause
  conditions : List Condition
  orders : List Order := []

def Select.text (select : Select) : String :=
  "SELECT " ++ select.projection.text ++ select.sources.text ++
    Condition.whereText select.conditions ++ Order.clauseText select.orders

/-- A property of the root that takes the value of a parameter. -/
structure Assignment where
  field : String
  parameter : String
deriving DecidableEq, Repr

def Assignment.text (assignment : Assignment) : String :=
  Field.path { name := assignment.field } ++ " = " ++ placeholderText assignment.parameter

structure Update where
  root : EntityType
  assignments : List Assignment
  conditions : List Condition

def Update.text (update : Update) : String :=
  "UPDATE " ++ update.root.logicalName ++ " " ++ rootAlias ++ " SET " ++
    ", ".intercalate (update.assignments.map Assignment.text) ++
    Condition.whereText update.conditions

end ObjectQuery
