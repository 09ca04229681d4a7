import ObjectQuery.Criteria.Basic

/-!
# Search specifications

Everything a statement is made from beside its root: criteria, all of which have to hold, sort
orders, further sources, fetches, and the page of the result that is asked for. The page is not part
of a statement; whoever runs the statement asks the specification for it.
-/

namespace ObjectQuery

inductive OrderDirection where
  | asc
  | desc
deriving DecidableEq, Repr

def OrderDirection.keyword : OrderDirection → String
  | .asc => "ASC"
  | .desc => "DESC"

structure Order where
  field : Field
  direction : OrderDirection := .asc
deriving DecidableEq, Repr

inductive AggregateFunction where
  | avg
  | max
  | min
  | sum
deriving DecidableEq, Repr

def AggregateFunction.keyword : AggregateFunction → String
  | .avg => "AVG"
  | .max => "MAX"
  | .min => "MIN"
  | .sum => "SUM"

structure SearchSpec where
  criteria : List Criteria := []
  orders : List Order := []
  entities : List Entity := []
  fetches : List FetchJoin := []
  distinct : Bool := true
  /-- The first row asked for. Below zero there is no bound. -/
  offset : Int64 := -1
  /-- The number of rows on a page. Below one there is no bound. -/
  pageSize : Int64 := -1
deriving BEq

namespace SearchSpec

variable (spec : SearchSpec)

/-- A bound as an unsigned number. Below zero there is no bound. -/
def bound? (i : Int64) : Option UInt64 :=
  if 0 ≤ i then some i.toUInt64 else none

/-- The first row asked for, counted from zero, if it is bounded. -/
def firstResult? : Option UInt64 :=
  bound? spec.offset

/-- The number of rows asked for, if it is bounded. No page holds zero rows. -/
def maxResults? : Option UInt64 :=
  (bound? spec.pageSize).filter (0 < ·)

/-- The page asked for, counted from one, if there are pages. -/
def pageNumber? : Option UInt64 := do
  return (← spec.firstResult?) / (← spec.maxResults?) + 1

/-- The specification that a count is made from: nothing is fetched, and criteria that opted out of
counting are left out. -/
def countSpec : SearchSpec :=
  { spec with
    criteria := spec.criteria.filter Criteria.appliesInCount
    fetches := [] }

end SearchSpec

/-- What happens to joins whose parent is never placed. -/
inductive JoinResolution where
  /-- The statement is refused. -/
  | strict
  /-- The joins are left out, and a warning is logged. -/
  | lenient
deriving DecidableEq, Repr

/-- What is written for a list of values that is empty. -/
inductive EmptyList where
  /-- A predicate that never holds. -/
  | alwaysFalse
  /-- Nothing, which the store will refuse. A warning is logged. -/
  | nothing
deriving DecidableEq, Repr

structure Options where
  /-- How often the joins are swept at most to find their order. -/
  maxJoinPasses : Nat := 20
  joinResolution : JoinResolution := .strict
  emptyList : EmptyList := .alwaysFalse
deriving DecidableEq, Repr

end ObjectQuery
