import ObjectQuery.Search.Basic

/-!
# ORDER BY clauses

The orders of a specification, followed by the primary key of the root. The key is left out if an
order already names it, whatever the order's owner and in whatever case.
-/

namespace ObjectQuery

/-- Equality of texts up to the case of ASCII letters. -/
def sameIgnoringCase (s t : String) : Bool :=
  s.toList.map Char.toLower == t.toList.map Char.toLower

/-- The order that tells apart what all other orders leave equal. -/
def EntityType.tiebreaker (root : EntityType) : Order where
  field := { name := root.primaryKey }

/-- Orders that end in a tiebreaker unless they name the primary key. -/
def EntityType.completeOrders (root : EntityType) (orders : List Order) : List Order :=
  if orders.any fun order => sameIgnoringCase order.field.name root.primaryKey then orders
  else orders ++ [root.tiebreaker]

def Order.text (order : Order) : String :=
  order.field.path ++ " " ++ order.direction.keyword

/-- Orders after the keyword. Without orders there is no text. -/
def Order.clauseText (orders : List Order) : String :=
  if orders.isEmpty then "" else " ORDER BY " ++ ", ".intercalate (orders.map Order.text)

end ObjectQuery
