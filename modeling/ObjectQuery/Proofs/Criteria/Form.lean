import ObjectQuery.Criteria.Codec
import ObjectQuery.Proofs.Criteria.Repetition
import ObjectQuery.Proofs.Entity.Form
import ObjectQuery.Proofs.Value.Canonical

/-!
# Criteria survive their JSON

The forms of criteria. Each kind of leaf has its own members and defaults: a pattern is not case
sensitive unless it says so, all other comparisons are. Criteria are read back by induction on
them.
-/

namespace ObjectQuery

open Json
open Json.Form hiding leaf

theorem Value.decodes_form (value : Value) : Decodes ofJson? (.leaf value.toJson) value :=
  decodes_leaf value.ofJson?_toJson

theorem ComparisonOperator.decodes_form (operator : ComparisonOperator) :
    Decodes ofJson? (.leaf operator.toJson) operator := by
  cases operator <;> exact decodes_leaf rfl

theorem ComparisonOperator.decimalFree_toJson (operator : ComparisonOperator) :
    operator.toJson.DecimalFree := by
  cases operator <;> exact trivial

theorem LogicalOperator.decodes_form (operator : LogicalOperator) :
    Decodes ofJson? (.leaf operator.toJson) operator := by
  cases operator <;> exact decodes_leaf rfl

theorem LogicalOperator.decimalFree_toJson (operator : LogicalOperator) :
    operator.toJson.DecimalFree := by
  cases operator <;> exact trivial

/-- A field is read from the member of its name and that of its owner. -/
theorem Field.ofMembers?_object {kept : List (String × Json)} {field : Field}
    {name owner : String} (name_holds : Holds kept (required name (.leaf (.text field.name))))
    (owner_holds : Holds kept (defaulted owner .null field.owner.form)) :
    ofMembers? (.object kept) name owner = some field := by
  simp only [ofMembers?, name_holds.field? (decodes_text _),
    owner_holds.fieldOr? field.owner.decodes_form Owner.ofJson?_null]
  rfl

namespace Conditional

/-- The members of an object that asks about a field. -/
def memberForms (conditional : Conditional) : List (String × Option Json × Form) :=
  let name := required "name" (.leaf (.text conditional.field.name))
  let entity := defaulted "entity" .null conditional.field.owner.form
  let caseSensitive (default sensitive : Bool) :=
    defaulted "case_sensitive" (.bool default) (.leaf (.bool sensitive))
  match conditional.test with
  | .compare operator value sensitive =>
      [required "type" (.leaf (.text "value")), name, required "operator" (.leaf operator.toJson),
       required "value" (.leaf value.toJson), entity, caseSensitive true sensitive]
  | .compareField operator other sensitive =>
      [required "type" (.leaf (.text "field")), name, required "operator" (.leaf operator.toJson),
       required "field" (.leaf (.text other.name)), entity,
       defaulted "other_entity" .null other.owner.form, caseSensitive true sensitive]
  | .between low high =>
      [required "type" (.leaf (.text "between")), name, required "low" (.leaf low.toJson),
       required "high" (.leaf high.toJson), entity]
  | .among values sensitive =>
      [required "type" (.leaf (.text "in")), name,
       required "values" (.list (values.map fun value => .leaf value.toJson)), entity,
       caseSensitive true sensitive]
  | .like pattern sensitive =>
      [required "type" (.leaf (.text "like")), name,
       required "pattern" (.leaf (.text pattern.text)), entity, caseSensitive false sensitive,
       defaulted "left_wildcard" (.bool true) (.leaf (.bool pattern.leftWildcard)),
       defaulted "right_wildcard" (.bool true) (.leaf (.bool pattern.rightWildcard))]
  | .null negated =>
      [required "type" (.leaf (.text "null")), name,
       defaulted "negated" (.bool false) (.leaf (.bool negated)), entity]
  | .empty negated =>
      [required "type" (.leaf (.text "empty")), name,
       defaulted "negated" (.bool false) (.leaf (.bool negated)), entity]

def form (conditional : Conditional) : Form :=
  .object conditional.memberForms

theorem full_form (conditional : Conditional) : conditional.form.full = conditional.toJson := by
  rcases conditional with ⟨field, test⟩
  cases test
  all_goals
    simp [form, memberForms, toJson, full, fullMembers, required, defaulted, Owner.full_form,
      fullItems_map, Value.toJson, Value.itemsToJson_eq_map]

theorem ofJson?_object {conditional : Conditional} {kept : List (String × Json)} {type : String}
    (type_eq : (Json.object kept).field? "type" Json.text? = some type)
    (field_eq : Field.ofMembers? (.object kept) "name" "entity" = some conditional.field)
    (test_eq : testOfJson? type (.object kept) = some conditional.test) :
    ofJson? (.object kept) = some conditional := by
  simp [ofJson?, type_eq, field_eq, test_eq]

theorem decodes_form (conditional : Conditional) :
    Decodes ofJson? conditional.form conditional := by
  rcases conditional with ⟨field, test⟩
  cases test with
  | compare operator value caseSensitive =>
      apply decodes_object (by simp [memberForms])
      rintro kept ⟨type, name, operator, value, owner, caseSensitive⟩
      apply ofJson?_object (type.field? (decodes_text _)) (Field.ofMembers?_object name owner)
      simp only [testOfJson?, operator.field? (ComparisonOperator.decodes_form _),
        value.field? (Value.decodes_form _), caseSensitive.fieldOr? (decodes_bool _) rfl]
      rfl
  | compareField operator other caseSensitive =>
      apply decodes_object (by simp [memberForms])
      rintro kept ⟨type, name, operator, other, owner, otherOwner, caseSensitive⟩
      apply ofJson?_object (type.field? (decodes_text _)) (Field.ofMembers?_object name owner)
      simp only [testOfJson?, operator.field? (ComparisonOperator.decodes_form _),
        Field.ofMembers?_object other otherOwner, caseSensitive.fieldOr? (decodes_bool _) rfl]
      rfl
  | between low high =>
      apply decodes_object (by simp [memberForms])
      rintro kept ⟨type, name, low, high, owner⟩
      apply ofJson?_object (type.field? (decodes_text _)) (Field.ofMembers?_object name owner)
      simp only [testOfJson?, low.field? (Value.decodes_form _), high.field? (Value.decodes_form _)]
      rfl
  | among values caseSensitive =>
      apply decodes_object (by simp [memberForms])
      rintro kept ⟨type, name, values, owner, caseSensitive⟩
      apply ofJson?_object (type.field? (decodes_text _)) (Field.ofMembers?_object name owner)
      simp only [testOfJson?, values.field? (decodes_items fun value _ => value.decodes_form),
        caseSensitive.fieldOr? (decodes_bool _) rfl]
      rfl
  | like pattern caseSensitive =>
      apply decodes_object (by simp [memberForms])
      rintro kept ⟨type, name, text, owner, caseSensitive, left, right⟩
      apply ofJson?_object (type.field? (decodes_text _)) (Field.ofMembers?_object name owner)
      simp only [testOfJson?, text.field? (decodes_text _),
        caseSensitive.fieldOr? (decodes_bool _) rfl, left.fieldOr? (decodes_bool _) rfl,
        right.fieldOr? (decodes_bool _) rfl]
      rfl
  | null negated | empty negated =>
      apply decodes_object (by simp [memberForms])
      rintro kept ⟨type, name, negated, owner⟩
      apply ofJson?_object (type.field? (decodes_text _)) (Field.ofMembers?_object name owner)
      simp only [testOfJson?, negated.fieldOr? (decodes_bool _) rfl]
      rfl

theorem decimalFree_toJson {conditional : Conditional}
    (free : ∀ value ∈ conditional.values, value.FloatFree) : conditional.toJson.DecimalFree := by
  rcases conditional with ⟨⟨name, owner⟩, test⟩
  have owner_free := owner.decimalFree_toJson
  cases test with
  | compare operator value caseSensitive =>
      rw [values, List.forall_mem_singleton] at free
      exact ⟨trivial, trivial, operator.decimalFree_toJson, free.toJson, owner_free, trivial,
        trivial⟩
  | compareField operator other caseSensitive =>
      exact ⟨trivial, trivial, operator.decimalFree_toJson, trivial, owner_free,
        other.owner.decimalFree_toJson, trivial, trivial⟩
  | between low high =>
      rw [values, List.forall_mem_cons, List.forall_mem_singleton] at free
      exact ⟨trivial, trivial, free.1.toJson, free.2.toJson, owner_free, trivial⟩
  | among values caseSensitive =>
      have values_free : (Value.list values).FloatFree := (Value.allFloatFree_iff values).mpr free
      exact ⟨trivial, trivial, values_free.toJson, owner_free, trivial, trivial⟩
  | like pattern caseSensitive =>
      exact ⟨trivial, trivial, trivial, owner_free, trivial, trivial, trivial, trivial⟩
  | null negated | empty negated => exact ⟨trivial, trivial, trivial, owner_free, trivial⟩

end Conditional

namespace PersonalCriteria

def targetForm (target : Field) : Form :=
  .object
    [required "target_property" (.leaf (.text target.name)),
     defaulted "entity" .null target.owner.form]

theorem decodes_targetForm (target : Field) : Decodes targetOfJson? (targetForm target) target := by
  apply decodes_object (by simp)
  rintro kept ⟨name, owner⟩
  exact Field.ofMembers?_object name owner

def form (personal : PersonalCriteria) : Form :=
  .object
    [required "query" (.leaf (.text personal.query)),
     defaulted "properties" (.list []) <| .list <|
       personal.placeholders.map fun (placeholder, target) =>
         .list [.leaf (.text placeholder), targetForm target],
     defaulted "parameters" (.list []) <| .list <|
       personal.parameters.map fun (name, value) => .list [.leaf (.text name), .leaf value.toJson],
     defaulted "apply_in_count" (.bool true) (.leaf (.bool personal.appliesInCount))]

theorem full_form (personal : PersonalCriteria) : personal.form.full = personal.toJson := by
  simp [form, toJson, targetForm, targetToJson, full, fullItems, fullMembers, required, defaulted,
    fullItems_map, Owner.full_form]

theorem decodes_form (personal : PersonalCriteria) : Decodes ofJson? personal.form personal := by
  apply decodes_object (by simp)
  rintro kept ⟨query, placeholders, parameters, appliesInCount⟩
  have placeholders_read := placeholders.fieldOr?
    (decodes_items fun placeholder _ =>
      decodes_pair (decodes_text placeholder.1) (decodes_targetForm placeholder.2)) items?_nil
  have parameters_read := parameters.fieldOr?
    (decodes_items fun parameter _ =>
      decodes_pair (decodes_text parameter.1) parameter.2.decodes_form) items?_nil
  simp only [ofJson?, query.field? (decodes_text _), placeholders_read, parameters_read,
    appliesInCount.fieldOr? (decodes_bool _) rfl]
  rfl

theorem decimalFree_toJson {personal : PersonalCriteria}
    (free : ∀ parameter ∈ personal.parameters, parameter.2.FloatFree) :
    personal.toJson.DecimalFree := by
  refine ⟨trivial, ?_, ?_, trivial, trivial⟩
  · apply decimalFreeItems_map
    intro placeholder _
    exact ⟨trivial, ⟨trivial, placeholder.2.owner.decimalFree_toJson, trivial⟩, trivial⟩
  · apply decimalFreeItems_map
    intro parameter parameter_mem
    exact ⟨trivial, (free parameter parameter_mem).toJson, trivial⟩

end PersonalCriteria

namespace Criteria

def nodeForm (kind : String) (content : Form) : Form :=
  .object [required "kind" (.leaf (.text kind)), required "criteria" content]

mutual

def form : Criteria → Form
  | .conditional leaf => nodeForm "conditional" leaf.form
  | .not criteria => nodeForm "not" criteria.form
  | .group operator members =>
      nodeForm "group" <|
        .object
          [required "operator" (.leaf operator.toJson),
           required "criteria" (.list (memberForms members))]
  | .personal leaf => nodeForm "personal" leaf.form

def memberForms : List Criteria → List Form
  | [] => []
  | criteria :: rest => criteria.form :: memberForms rest

end

theorem memberForms_eq_map (members : List Criteria) : memberForms members = members.map form := by
  induction members with
  | nil => rfl
  | cons criteria rest ih => rw [memberForms, ih, List.map_cons]

mutual

theorem full_form (criteria : Criteria) : criteria.form.full = criteria.toJson := by
  cases criteria with
  | conditional leaf => rw [toJson, ← leaf.full_form]; rfl
  | not criteria => rw [toJson, ← full_form criteria]; rfl
  | group operator members => rw [toJson, ← fullItems_memberForms members]; rfl
  | personal leaf => rw [toJson, ← leaf.full_form]; rfl

theorem fullItems_memberForms (members : List Criteria) :
    fullItems (memberForms members) = membersToJson members := by
  match members with
  | [] => rfl
  | criteria :: rest =>
      rw [membersToJson, ← full_form criteria, ← fullItems_memberForms rest]
      rfl

end

theorem decodes_node {kind : String} {content : Form} {criteria : Criteria}
    (read : ∀ kept member, (Json.object kept).field? "kind" Json.text? = some kind →
      (Json.object kept).member? "criteria" = some member → content.Trims member.1 →
        ofJson? (.object kept) = some criteria) :
    Decodes ofJson? (nodeForm kind content) criteria := by
  apply decodes_object (by simp)
  rintro kept ⟨kind_holds, content_holds⟩
  rcases content_holds.exists_member with ⟨member, member_eq, trims⟩
  exact read kept member (kind_holds.field? (decodes_text kind)) member_eq trims

mutual

theorem decodes_form (criteria : Criteria) : Decodes ofJson? criteria.form criteria := by
  cases criteria with
  | conditional leaf =>
      apply decodes_node
      intro kept member kind_eq member_eq trims
      rw [ofJson?, kind_eq, member_eq]
      simp [leaf.decodes_form _ trims]
  | not criteria =>
      apply decodes_node
      intro kept member kind_eq member_eq trims
      rw [ofJson?, kind_eq, member_eq]
      simp [decodes_form criteria _ trims]
  | group operator members =>
      apply decodes_node
      rintro kept ⟨_, smaller⟩ kind_eq member_eq trims
      cases trims with
      | object trims =>
          have holds := trims.holds (by simp)
          rw [← List.forall_iff_forall_mem] at holds
          rcases holds with ⟨operator_holds, members_hold⟩
          rcases members_hold.exists_member with ⟨⟨_, list_smaller⟩, list_eq, list_trims⟩
          cases list_trims with
          | list items_trim =>
              rw [ofJson?, kind_eq, member_eq]
              simp [operator_holds.field? (LogicalOperator.decodes_form _), list_eq,
                membersOfJson?_of_trims members items_trim]
  | personal leaf =>
      apply decodes_node
      intro kept member kind_eq member_eq trims
      rw [ofJson?, kind_eq, member_eq]
      simp [leaf.decodes_form _ trims]

theorem membersOfJson?_of_trims (members : List Criteria) {documents : List Json}
    (trims : TrimsItems (memberForms members) documents) :
    membersOfJson? documents = some members := by
  match members with
  | [] =>
      cases trims
      rw [membersOfJson?]
  | criteria :: rest =>
      cases trims with
      | cons item_trims rest_trim =>
          rw [membersOfJson?, decodes_form criteria _ item_trims,
            membersOfJson?_of_trims rest rest_trim]
          rfl

end

mutual

theorem decimalFree_toJson (criteria : Criteria)
    (leaves_free : ∀ leaf ∈ criteria.leaves, ∀ value ∈ leaf.values, value.FloatFree)
    (fragments_free : ∀ fragment ∈ criteria.fragments, ∀ parameter ∈ fragment.parameters,
      parameter.2.FloatFree) :
    criteria.toJson.DecimalFree := by
  cases criteria with
  | conditional leaf =>
      have leaf_free := Conditional.decimalFree_toJson (leaves_free leaf (by simp [leaves]))
      exact ⟨trivial, leaf_free, trivial⟩
  | not criteria =>
      exact ⟨trivial, decimalFree_toJson criteria leaves_free fragments_free, trivial⟩
  | group operator members =>
      have members_free := decimalFree_membersToJson members leaves_free fragments_free
      exact ⟨trivial, ⟨operator.decimalFree_toJson, members_free, trivial⟩, trivial⟩
  | personal leaf =>
      have leaf_free :=
        PersonalCriteria.decimalFree_toJson (fragments_free leaf (by simp [fragments]))
      exact ⟨trivial, leaf_free, trivial⟩

theorem decimalFree_membersToJson (members : List Criteria)
    (leaves_free : ∀ leaf ∈ allLeaves members, ∀ value ∈ leaf.values, value.FloatFree)
    (fragments_free : ∀ fragment ∈ allFragments members, ∀ parameter ∈ fragment.parameters,
      parameter.2.FloatFree) :
    DecimalFreeItems (membersToJson members) := by
  match members with
  | [] => exact trivial
  | criteria :: rest =>
      rw [allLeaves, List.forall_mem_append] at leaves_free
      rw [allFragments, List.forall_mem_append] at fragments_free
      exact ⟨decimalFree_toJson criteria leaves_free.1 fragments_free.1,
        decimalFree_membersToJson rest leaves_free.2 fragments_free.2⟩

end

end Criteria

end ObjectQuery
