import ObjectQuery.Proofs.Criteria.Form
import ObjectQuery.Search.Codec

/-!
# Search specifications survive their JSON

A specification without floats is read back from its JSON text, and from every text of the same
document that lacks some of the members that have their default.
-/

namespace ObjectQuery

open Json
open Json.Form hiding leaf

theorem OrderDirection.decodes_form (direction : OrderDirection) :
    Decodes ofJson? (.leaf direction.toJson) direction := by
  cases direction <;> exact decodes_leaf rfl

theorem OrderDirection.decimalFree_toJson (direction : OrderDirection) :
    direction.toJson.DecimalFree := by
  cases direction <;> exact trivial

namespace Order

def form (order : Order) : Form :=
  .object
    [required "name" (.leaf (.text order.field.name)),
     defaulted "direction" (OrderDirection.asc.toJson) (.leaf order.direction.toJson),
     defaulted "entity" .null order.field.owner.form]

theorem full_form (order : Order) : order.form.full = order.toJson := by
  rw [toJson, ← order.field.owner.full_form]
  rfl

theorem decodes_form (order : Order) : Decodes ofJson? order.form order := by
  apply decodes_object (by simp)
  rintro kept ⟨name, direction, owner⟩
  simp only [ofJson?, Field.ofMembers?_object name owner,
    direction.fieldOr? (OrderDirection.decodes_form _) rfl]
  rfl

theorem decimalFree_toJson (order : Order) : order.toJson.DecimalFree :=
  ⟨trivial, order.direction.decimalFree_toJson, order.field.owner.decimalFree_toJson, trivial⟩

end Order

namespace SearchSpec

variable (spec : SearchSpec)

/-- No value in a specification is a float or holds one. -/
structure FloatFree : Prop where
  leaves : ∀ leaf ∈ Criteria.allLeaves spec.criteria, ∀ value ∈ leaf.values, value.FloatFree
  fragments : ∀ fragment ∈ Criteria.allFragments spec.criteria,
    ∀ parameter ∈ fragment.parameters, parameter.2.FloatFree

/-- Every member of a specification may be left out where it has its default. -/
def form : Form :=
  .object
    [defaulted "criteria" (.list []) (.list (spec.criteria.map Criteria.form)),
     defaulted "orders" (.list []) (.list (spec.orders.map Order.form)),
     defaulted "entities" (.list []) (.list (spec.entities.map Entity.form)),
     defaulted "fetches" (.list []) (.list (spec.fetches.map FetchJoin.form)),
     defaulted "distinct" (.bool true) (.leaf (.bool spec.distinct)),
     defaulted "offset" (.integer (-1)) (.leaf (.integer spec.offset.toInt)),
     defaulted "page_size" (.integer (-1)) (.leaf (.integer spec.pageSize.toInt))]

theorem full_form : spec.form.full = spec.toJson := by
  simp [form, toJson, full, fullMembers, defaulted, fullItems_map, ← Criteria.memberForms_eq_map,
    Criteria.fullItems_memberForms, Order.full_form, Entity.full_form, FetchJoin.full_form]

theorem decodes_form : Decodes ofJson? spec.form spec := by
  apply decodes_object (by simp)
  rintro kept ⟨criteria, orders, entities, fetches, distinct, offset, pageSize⟩
  have unbounded_read : int64? (.integer (-1)) = some (-1) := by decide
  have criteria_read := criteria.fieldOr?
    (decodes_items fun criteria _ => criteria.decodes_form) items?_nil
  have orders_read := orders.fieldOr? (decodes_items fun order _ => order.decodes_form) items?_nil
  have entities_read := entities.fieldOr?
    (decodes_items fun entity _ => entity.decodes_form) items?_nil
  have fetches_read := fetches.fieldOr?
    (decodes_items fun fetch _ => fetch.decodes_form) items?_nil
  simp only [ofJson?, criteria_read, orders_read, entities_read, fetches_read,
    distinct.fieldOr? (decodes_bool _) rfl, offset.fieldOr? (decodes_int64 _) unbounded_read,
    pageSize.fieldOr? (decodes_int64 _) unbounded_read]
  rfl

variable {spec}

theorem FloatFree.decimalFree (free : spec.FloatFree) : spec.toJson.DecimalFree := by
  refine ⟨?_, ?_, ?_, ?_, trivial, trivial, trivial, trivial⟩
  · exact Criteria.decimalFree_membersToJson spec.criteria free.leaves free.fragments
  · exact decimalFreeItems_map fun order _ => order.decimalFree_toJson
  · exact decimalFreeItems_map fun entity _ => entity.toOwner.decimalFree_toJson
  · exact decimalFreeItems_map fun fetch _ => fetch.decimalFree_toJson

/-- A specification without floats is what the text of its document is read as, and what the text of
any document is read as that lacks some of the members that have their default, at any depth. -/
theorem reads_back_of_trims (free : spec.FloatFree) :
    (Json.read? spec.toJson.compact >>= ofJson?) = some spec ∧
      spec.form.full = spec.toJson ∧
      ∀ document, spec.form.Trims document →
        ofJson? document = some spec ∧ (Json.read? document.compact >>= ofJson?) = some spec := by
  have trimmed : ∀ document, spec.form.Trims document →
      ofJson? document = some spec ∧ (Json.read? document.compact >>= ofJson?) = some spec := by
    intro document trims
    have decoded : ofJson? document = some spec := spec.decodes_form document trims
    have document_free : document.DecimalFree := by
      apply Trims.decimalFree spec.form trims
      rw [spec.full_form]
      exact free.decimalFree
    refine ⟨decoded, ?_⟩
    rw [read?_compact document document_free]
    exact decoded
  refine ⟨?_, spec.full_form, trimmed⟩
  have whole_trims : spec.form.Trims spec.toJson := spec.full_form ▸ spec.form.trims_full
  exact (trimmed spec.toJson whole_trims).2

/-- A pattern under a join of a join, a fragment with a list, and a fetch, without all that may be
left out. -/
theorem reads_back_of_trims_of_nested :
    let owner : Owner := .join .left "roles" (.join .inner "team" .root "t") "r"
    let spec : SearchSpec := {
      criteria :=
        [.not (.conditional {
           field := { name := "name", owner }
           test := .like { text := "\"é", rightWildcard := false } }),
         .group .or [.personal { query := ":ids", parameters := [("ids", .list [.int (-5)])] }]]
      fetches := [{ operator := .leftFetch, name := "roles" }]
      offset := 10 }
    let pattern : Json := .object
      [("type", .text "like"), ("name", .text "name"), ("pattern", .text "\"é"),
       ("entity", .object
         [("kind", .text "join"), ("operator", .text "left"), ("name", .text "roles"),
          ("parent", .object
            [("kind", .text "join"), ("operator", .text "inner"), ("name", .text "team"),
             ("alias", .text "t")]),
          ("alias", .text "r")]),
       ("right_wildcard", .bool false)]
    let fragment : Json := .object
      [("query", .text ":ids"),
       ("parameters", .list [.list [.text "ids", .list [.integer (-5)]]])]
    let document : Json := .object
      [("criteria", .list
         [Criteria.node "not" (Criteria.node "conditional" pattern),
          Criteria.node "group" (.object
            [("operator", .text "OR"), ("criteria", .list [Criteria.node "personal" fragment])])]),
       ("fetches", .list [.object [("operator", .text "left_fetch"), ("name", .text "roles")]]),
       ("offset", .integer 10)]
    spec.FloatFree ∧ spec.form.Trims document ∧
      (Json.read? document.compact >>= ofJson?) = some spec ∧
      (Json.read? spec.toJson.compact >>= ofJson?) = some spec := by
  intro owner spec pattern fragment document
  have free : spec.FloatFree := by
    constructor
    · simp [spec, Criteria.allLeaves, Criteria.leaves, Conditional.values, Value.FloatFree]
    · simp [spec, Criteria.allFragments, Criteria.fragments, Value.FloatFree, Value.AllFloatFree]
  have trims : spec.form.Trims document := by
    repeat' constructor
  rcases reads_back_of_trims free with ⟨whole_read, -, trimmed_read⟩
  exact ⟨free, trims, (trimmed_read document trims).2, whole_read⟩

end SearchSpec

end ObjectQuery
