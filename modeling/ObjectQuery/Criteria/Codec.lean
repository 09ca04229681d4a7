import ObjectQuery.Criteria.Basic
import ObjectQuery.Entity.Codec
import ObjectQuery.Value.Canonical

/-!
# Criteria as JSON

A node of the tree is an object that tells its kind beside its content. The content of a leaf that
asks about a field tells its type among its other members.
-/

namespace ObjectQuery

namespace ComparisonOperator

def toJson : ComparisonOperator → Json
  | .eq => .text "EQ"
  | .ne => .text "NE"
  | .le => .text "LE"
  | .ge => .text "GE"
  | .gt => .text "GT"
  | .lt => .text "LT"
  | .memberOf => .text "MEMBER_OF"

def ofJson? : Json → Option ComparisonOperator
  | .text "EQ" => some .eq
  | .text "NE" => some .ne
  | .text "LE" => some .le
  | .text "GE" => some .ge
  | .text "GT" => some .gt
  | .text "LT" => some .lt
  | .text "MEMBER_OF" => some .memberOf
  | _ => none

end ComparisonOperator

namespace ConditionalOperator

def toJson : ConditionalOperator → Json
  | .comparison operator => operator.toJson
  | .between => .text "BETWEEN"
  | .among => .text "IN"
  | .like => .text "LIKE"
  | .isNull => .text "IS_NULL"
  | .isNotNull => .text "IS_NOT_NULL"
  | .isEmpty => .text "IS_EMPTY"
  | .isNotEmpty => .text "IS_NOT_EMPTY"

def ofJson? : Json → Option ConditionalOperator
  | .text "BETWEEN" => some .between
  | .text "IN" => some .among
  | .text "LIKE" => some .like
  | .text "IS_NULL" => some .isNull
  | .text "IS_NOT_NULL" => some .isNotNull
  | .text "IS_EMPTY" => some .isEmpty
  | .text "IS_NOT_EMPTY" => some .isNotEmpty
  | document => .comparison <$> ComparisonOperator.ofJson? document

end ConditionalOperator

namespace LogicalOperator

def toJson : LogicalOperator → Json
  | .and => .text "AND"
  | .or => .text "OR"

def ofJson? : Json → Option LogicalOperator
  | .text "AND" => some .and
  | .text "OR" => some .or
  | _ => none

end LogicalOperator

namespace Field

/-- The field whose name is one member of an object and whose owner is another. -/
def ofMembers? (document : Json) (name owner : String) : Option Field := do
  return {
    name := ← document.field? name Json.text?
    owner := ← document.fieldOr? owner .root Owner.ofJson? }

end Field

namespace Conditional

def toJson (conditional : Conditional) : Json :=
  let name := ("name", Json.text conditional.field.name)
  let entity := ("entity", conditional.field.owner.toJson)
  .object <|
    match conditional.test with
    | .compare operator value caseSensitive =>
        [("type", .text "value"), name, ("operator", operator.toJson), ("value", value.toJson),
         entity, ("case_sensitive", .bool caseSensitive)]
    | .compareField operator other caseSensitive =>
        [("type", .text "field"), name, ("operator", operator.toJson), ("field", .text other.name),
         entity, ("other_entity", other.owner.toJson), ("case_sensitive", .bool caseSensitive)]
    | .between low high =>
        [("type", .text "between"), name, ("low", low.toJson), ("high", high.toJson), entity]
    | .among values caseSensitive =>
        [("type", .text "in"), name, ("values", (Value.list values).toJson), entity,
         ("case_sensitive", .bool caseSensitive)]
    | .like pattern caseSensitive =>
        [("type", .text "like"), name, ("pattern", .text pattern.text), entity,
         ("case_sensitive", .bool caseSensitive), ("left_wildcard", .bool pattern.leftWildcard),
         ("right_wildcard", .bool pattern.rightWildcard)]
    | .null negated => [("type", .text "null"), name, ("negated", .bool negated), entity]
    | .empty negated => [("type", .text "empty"), name, ("negated", .bool negated), entity]

/-- The question that an object of a type asks. -/
def testOfJson? (type : String) (document : Json) : Option FieldTest :=
  match type with
  | "value" => do
      return .compare
        (← document.field? "operator" ComparisonOperator.ofJson?)
        (← document.field? "value" Value.ofJson?)
        (← document.fieldOr? "case_sensitive" true Json.bool?)
  | "field" => do
      return .compareField
        (← document.field? "operator" ComparisonOperator.ofJson?)
        (← Field.ofMembers? document "field" "other_entity")
        (← document.fieldOr? "case_sensitive" true Json.bool?)
  | "between" => do
      return .between
        (← document.field? "low" Value.ofJson?)
        (← document.field? "high" Value.ofJson?)
  | "in" => do
      return .among
        (← document.field? "values" (Json.items? Value.ofJson?))
        (← document.fieldOr? "case_sensitive" true Json.bool?)
  | "like" => do
      let pattern : LikePattern := {
        text := ← document.field? "pattern" Json.text?
        leftWildcard := ← document.fieldOr? "left_wildcard" true Json.bool?
        rightWildcard := ← document.fieldOr? "right_wildcard" true Json.bool? }
      return .like pattern (← document.fieldOr? "case_sensitive" false Json.bool?)
  | "null" => do return .null (← document.fieldOr? "negated" false Json.bool?)
  | "empty" => do return .empty (← document.fieldOr? "negated" false Json.bool?)
  | _ => none

def ofJson? (document : Json) : Option Conditional := do
  let type ← document.field? "type" Json.text?
  return {
    field := ← Field.ofMembers? document "name" "entity"
    test := ← testOfJson? type document }

end Conditional

namespace PersonalCriteria

/-- What a placeholder stands for. -/
def targetToJson (target : Field) : Json :=
  .object [("target_property", .text target.name), ("entity", target.owner.toJson)]

def targetOfJson? (document : Json) : Option Field :=
  Field.ofMembers? document "target_property" "entity"

def toJson (personal : PersonalCriteria) : Json :=
  .object
    [("query", .text personal.query),
     ("properties", .list <|
       personal.placeholders.map fun (placeholder, target) =>
         .list [.text placeholder, targetToJson target]),
     ("parameters", .list <|
       personal.parameters.map fun (name, value) => .list [.text name, value.toJson]),
     ("apply_in_count", .bool personal.appliesInCount)]

def ofJson? (document : Json) : Option PersonalCriteria := do
  return {
    query := ← document.field? "query" Json.text?
    placeholders :=
      ← document.fieldOr? "properties" [] (Json.items? (Json.pair? Json.text? targetOfJson?))
    parameters :=
      ← document.fieldOr? "parameters" [] (Json.items? (Json.pair? Json.text? Value.ofJson?))
    appliesInCount := ← document.fieldOr? "apply_in_count" true Json.bool? }

end PersonalCriteria

namespace Criteria

/-- A node of a kind. -/
def node (kind : String) (content : Json) : Json :=
  .object [("kind", .text kind), ("criteria", content)]

mutual

def toJson : Criteria → Json
  | .conditional leaf => node "conditional" leaf.toJson
  | .not criteria => node "not" criteria.toJson
  | .group operator members =>
      node "group" <|
        .object [("operator", operator.toJson), ("criteria", .list (membersToJson members))]
  | .personal leaf => node "personal" leaf.toJson

/-- The documents of the members of a group. -/
def membersToJson : List Criteria → List Json
  | [] => []
  | criteria :: rest => criteria.toJson :: membersToJson rest

end

mutual

/-- The criteria that a document is. -/
def ofJson? (document : Json) : Option Criteria := do
  let kind ← document.field? "kind" Json.text?
  let content ← document.member? "criteria"
  match kind with
  | "conditional" => .conditional <$> Conditional.ofJson? content.1
  | "not" => .not <$> ofJson? content.1
  | "group" =>
      let operator ← content.1.field? "operator" LogicalOperator.ofJson?
      match content.1.member? "criteria" with
      | some ⟨.list items, _smaller⟩ => .group operator <$> membersOfJson? items
      | _ => none
  | "personal" => .personal <$> PersonalCriteria.ofJson? content.1
  | _ => none
termination_by sizeOf document
decreasing_by
  · exact content.2
  · have := content.2
    simp only [Json.list.sizeOf_spec] at _smaller
    omega

/-- The criteria that the items of a list are. -/
def membersOfJson? (items : List Json) : Option (List Criteria) :=
  match items with
  | [] => some []
  | item :: rest => do return (← ofJson? item) :: (← membersOfJson? rest)
termination_by sizeOf items

end

end Criteria

end ObjectQuery
