import ObjectQuery.Criteria.Codec
import ObjectQuery.Search.Basic

/-!
# Search specifications as JSON

Every member of a specification and of the options may be left out.
-/

namespace ObjectQuery

namespace OrderDirection

def toJson : OrderDirection → Json
  | .asc => .text "ASC"
  | .desc => .text "DESC"

def ofJson? : Json → Option OrderDirection
  | .text "ASC" => some .asc
  | .text "DESC" => some .desc
  | _ => none

end OrderDirection

namespace Order

def toJson (order : Order) : Json :=
  .object
    [("name", .text order.field.name), ("direction", order.direction.toJson),
     ("entity", order.field.owner.toJson)]

def ofJson? (document : Json) : Option Order := do
  return {
    field := ← Field.ofMembers? document "name" "entity"
    direction := ← document.fieldOr? "direction" .asc OrderDirection.ofJson? }

end Order

namespace AggregateFunction

def toJson (function : AggregateFunction) : Json :=
  .text function.keyword

def ofJson? : Json → Option AggregateFunction
  | .text "AVG" => some .avg
  | .text "MAX" => some .max
  | .text "MIN" => some .min
  | .text "SUM" => some .sum
  | _ => none

end AggregateFunction

namespace SearchSpec

def toJson (spec : SearchSpec) : Json :=
  .object
    [("criteria", .list (Criteria.membersToJson spec.criteria)),
     ("orders", .list (spec.orders.map Order.toJson)),
     ("entities", .list (spec.entities.map Entity.toJson)),
     ("fetches", .list (spec.fetches.map FetchJoin.toJson)),
     ("distinct", .bool spec.distinct),
     ("offset", .integer spec.offset.toInt),
     ("page_size", .integer spec.pageSize.toInt)]

def ofJson? (document : Json) : Option SearchSpec := do
  return {
    criteria := ← document.fieldOr? "criteria" [] (Json.items? Criteria.ofJson?)
    orders := ← document.fieldOr? "orders" [] (Json.items? Order.ofJson?)
    entities := ← document.fieldOr? "entities" [] (Json.items? Entity.ofJson?)
    fetches := ← document.fieldOr? "fetches" [] (Json.items? FetchJoin.ofJson?)
    distinct := ← document.fieldOr? "distinct" true Json.bool?
    offset := ← document.fieldOr? "offset" (-1) Json.int64?
    pageSize := ← document.fieldOr? "page_size" (-1) Json.int64? }

end SearchSpec

namespace JoinResolution

def toJson : JoinResolution → Json
  | .strict => .text "strict"
  | .lenient => .text "lenient"

def ofJson? : Json → Option JoinResolution
  | .text "strict" => some .strict
  | .text "lenient" => some .lenient
  | _ => none

end JoinResolution

namespace EmptyList

def toJson : EmptyList → Json
  | .alwaysFalse => .text "always_false"
  | .nothing => .text "omit"

def ofJson? : Json → Option EmptyList
  | .text "always_false" => some .alwaysFalse
  | .text "omit" => some .nothing
  | _ => none

end EmptyList

namespace Options

def toJson (options : Options) : Json :=
  .object
    [("max_join_passes", .integer options.maxJoinPasses),
     ("join_resolution", options.joinResolution.toJson),
     ("empty_in", options.emptyList.toJson)]

def ofJson? (document : Json) : Option Options := do
  return {
    maxJoinPasses := ← document.fieldOr? "max_join_passes" 20 Json.nat64?
    joinResolution := ← document.fieldOr? "join_resolution" .strict JoinResolution.ofJson?
    emptyList := ← document.fieldOr? "empty_in" .alwaysFalse EmptyList.ofJson? }

end Options

end ObjectQuery
