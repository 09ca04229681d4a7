import ObjectQuery.Entity.Basic

/-!
# The order of joins

A join can be placed once its parent has a place. The joins that wait are swept again and again in
their given order, each sweep placing what it can, until a sweep places nothing or the sweeps are
used up. A join counts as placed for its children only if it is equal to their parent in all parts.
-/

namespace ObjectQuery

/-- Joins that have a place, in order, and joins that wait for one. -/
structure JoinOrder where
  placed : List JoinEntity := []
  waiting : List JoinEntity := []
deriving DecidableEq, Repr

/-- Whether a join can be placed after others. The root and the entities beside it are there from
the start. A fetch is never a parent. -/
def JoinEntity.isReady (join : JoinEntity) (placed : List JoinEntity) : Bool :=
  match join.parent with
  | .root | .domain _ => true
  | .join operator name parent aliasName => placed.contains { operator, name, parent, aliasName }
  | .fetch _ _ _ _ => false

namespace JoinOrder

/-- One sweep over waiting joins. A join placed in it can be the parent of a later one. -/
def sweep (placed : List JoinEntity) : List JoinEntity → JoinOrder
  | [] => { placed }
  | join :: rest =>
      if join.isReady placed then sweep (placed ++ [join]) rest
      else
        let order := sweep placed rest
        { order with waiting := join :: order.waiting }

/-- Up to `passes` sweeps, as long as each places a join. -/
def extend (order : JoinOrder) : (passes : Nat) → JoinOrder
  | 0 => order
  | passes + 1 =>
      let next := sweep order.placed order.waiting
      if next.waiting.length < order.waiting.length then next.extend passes else order

/-- The order that up to `passes` sweeps find for joins. -/
def ofJoins (joins : List JoinEntity) (passes : Nat) : JoinOrder :=
  extend { waiting := joins } passes

end JoinOrder

end ObjectQuery
