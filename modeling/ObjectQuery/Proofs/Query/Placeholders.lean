import ObjectQuery.Proofs.Condition.Placeholders
import ObjectQuery.Proofs.JoinOrder.Placement
import ObjectQuery.Proofs.Query.Bindings

/-!
# Placeholders of a statement

The placeholders in the text of a statement are the names of its parameters, and they come first in
the text in the order in which they were bound. Everything but its assignments and its conditions is
made of keywords and of names, and plain names bring no colons into it.
-/

namespace ObjectQuery

/-- The names that a FROM clause shows of an entity. -/
def Entity.IsPlain : Entity → Prop
  | .domain source => IsPlainName source.entityType.typeName ∧ IsPlainName source.aliasName
  | .join source => source.property.IsPlain ∧ IsPlainName source.aliasName
  | .fetch source => source.property.IsPlain

structure EntityType.IsPlain (root : EntityType) : Prop where
  logicalName : IsPlainName root.logicalName
  primaryKey : IsPlainName root.primaryKey

/-- A specification in which all names that a statement shows are plain. -/
structure SearchSpec.IsPlain (spec : SearchSpec) : Prop where
  leaves : ∀ leaf ∈ Criteria.allLeaves spec.criteria, leaf.IsPlain
  orders : ∀ order ∈ spec.orders, order.field.IsPlain
  entities : ∀ entity ∈ spec.entities, entity.IsPlain
  fetches : ∀ fetch ∈ spec.fetches, fetch.property.IsPlain

theorem isPlain_rootField {name : String} (plain : IsPlainName name) :
    Field.IsPlain { name := name } := by
  refine ⟨plain, ?_⟩
  intro c c_mem
  rw [show c = 'e' by simpa [Owner.aliasName, rootAlias] using c_mem]
  exact Or.inl rfl

theorem silent_rootAlias : Silent rootAlias := by
  decide

namespace SearchSpec

variable {spec : SearchSpec} {options : Options} {root : EntityType} {clause : FromClause}

theorem fromClause_ok (succeeds : (spec.fromClause options root).result = .ok clause) :
    clause = { root, sources := spec.entities.filterMap Entity.domain?
               joins := (spec.joinOrder options).placed, fetches := spec.fetches } := by
  simp only [fromClause, Compilation.result_bind_eq_ok_iff, Compilation.result_pure,
    Except.ok.injEq] at succeeds
  rcases succeeds with ⟨_, -, _, -, rfl⟩
  rfl

theorem mem_entities_of_mem_placed {join : JoinEntity}
    (placed : join ∈ (spec.joinOrder options).placed) : Entity.join join ∈ spec.entities := by
  have arranges := JoinOrder.arranges_ofJoins (spec.entities.filterMap Entity.join?)
    options.maxJoinPasses
  have listed := arranges.mem_iff.mpr (Or.inl placed)
  rcases List.mem_filterMap.mp listed with ⟨entity, entity_mem, entity_eq⟩
  cases entity with
  | join source =>
      simp only [Entity.join?, Option.ite_none_left_eq_some, Option.some.injEq] at entity_eq
      rw [← entity_eq.2]
      exact entity_mem
  | domain source => simp [Entity.join?] at entity_eq
  | fetch source => simp [Entity.join?] at entity_eq

theorem silent_fromClause (succeeds : (spec.fromClause options root).result = .ok clause)
    (root_plain : root.IsPlain) (plain : spec.IsPlain) : Silent clause.text := by
  rw [fromClause_ok succeeds]
  simp only [FromClause.text, silent_append]
  refine ⟨⟨⟨⟨⟨⟨by decide, root_plain.logicalName.silent⟩, by decide⟩, silent_rootAlias⟩, ?_⟩, ?_⟩,
    ?_⟩
  · apply Silent.join
    intro part part_mem
    rcases List.mem_map.mp part_mem with ⟨source, source_mem, rfl⟩
    rcases List.mem_filterMap.mp source_mem with ⟨entity, entity_mem, entity_eq⟩
    have entity_plain := plain.entities entity entity_mem
    cases entity with
    | domain other =>
        simp only [Entity.domain?, Option.some.injEq] at entity_eq
        subst other
        simp only [DomainEntity.text, silent_append]
        exact ⟨⟨⟨by decide, entity_plain.1.silent⟩, by decide⟩, entity_plain.2.silent⟩
    | join other => simp [Entity.domain?] at entity_eq
    | fetch other => simp [Entity.domain?] at entity_eq
  · apply Silent.join
    intro part part_mem
    rcases List.mem_map.mp part_mem with ⟨join, join_mem, rfl⟩
    have join_plain := plain.entities _ (mem_entities_of_mem_placed join_mem)
    simp only [JoinEntity.text, silent_append]
    refine ⟨⟨⟨⟨⟨by decide, ?_⟩, by decide⟩, join_plain.1.silent⟩, by decide⟩, join_plain.2.silent⟩
    cases join.operator <;> decide
  · apply Silent.join
    intro part part_mem
    rcases List.mem_map.mp part_mem with ⟨fetch, fetch_mem, rfl⟩
    simp only [FetchJoin.text, silent_append]
    refine ⟨⟨⟨⟨by decide, ?_⟩, by decide⟩, (plain.fetches fetch fetch_mem).silent⟩, by decide⟩
    cases fetch.operator <;> decide

theorem isPlain_countSpec (plain : spec.IsPlain)
    (no_fragments : Criteria.allFragments spec.criteria = []) :
    spec.countSpec.IsPlain ∧ Criteria.allFragments spec.countSpec.criteria = [] := by
  have criteria_eq : spec.countSpec.criteria = spec.criteria :=
    Criteria.filter_appliesInCount no_fragments
  refine ⟨⟨?_, plain.orders, plain.entities, by simp [countSpec]⟩, ?_⟩
  · rw [criteria_eq]
    exact plain.leaves
  · rw [criteria_eq]
    exact no_fragments

end SearchSpec

/-- The name that a projection shows. -/
def Projection.IsPlain : Projection → Prop
  | .root _ | .count => True
  | .aggregate _ field _ => IsPlainName field

theorem Projection.IsPlain.silent {projection : Projection} (plain : projection.IsPlain) :
    Silent projection.text := by
  cases projection with
  | root distinct => cases distinct <;> decide
  | count => decide
  | aggregate function field distinct =>
      have path_silent := (isPlain_rootField plain).silent
      have keyword_silent : Silent function.keyword := by cases function <;> decide
      cases distinct with
      | false => exact silent_callText keyword_silent path_silent
      | true => exact silent_callText keyword_silent (silent_callText (by decide) path_silent)

theorem Shows.orderBy {first : String} {names : List String} {orders : List Order}
    (shows : Shows first names) (plain : ∀ order ∈ orders, order.field.IsPlain) :
    Shows (first ++ Order.clauseText orders) names := by
  cases orders with
  | nil => simpa [Order.clauseText] using shows
  | cons order rest =>
      apply shows.close
      apply Divides.append (show Divides " ORDER BY " by decide)
      apply Silent.intercalate (by decide)
      intro part part_mem
      rcases List.mem_map.mp part_mem with ⟨listed, listed_mem, rfl⟩
      simp only [Order.text, silent_append]
      refine ⟨⟨(plain listed listed_mem).silent, by decide⟩, ?_⟩
      cases listed.direction <;> decide

theorem EntityType.isPlain_completeOrders {root : EntityType} {orders : List Order}
    (root_plain : root.IsPlain) (plain : ∀ order ∈ orders, order.field.IsPlain) :
    ∀ order ∈ root.completeOrders orders, order.field.IsPlain := by
  unfold completeOrders
  split
  · exact plain
  · simp only [List.forall_mem_append, List.forall_mem_singleton]
    exact ⟨plain, isPlain_rootField root_plain.primaryKey⟩

namespace Query

/-- The placeholders in the text of a query, each at its first occurrence. -/
def placeholders (query : Query) : List String :=
  (placeholderNames query.text.toList).eraseDups

variable {options : Options} {root : EntityType} {spec : SearchSpec} {projection : Projection}
  {orders : List Order} {statement : Select} {parameters : Parameters} {operation : Operation}
  {query made : Query}

theorem select_ok
    (selected : (select options root spec projection orders).result = .ok (statement, parameters)) :
    statement.projection = projection ∧ statement.orders = orders ∧
      (spec.fromClause options root).result = .ok statement.sources ∧
      Criteria.Binds options.emptyList {} spec.criteria statement.conditions parameters := by
  simp only [select, Compilation.result_bind_eq_ok_iff, Compilation.result_pure, Except.ok.injEq,
    Prod.mk.injEq] at selected
  rcases selected with ⟨sources, from_ok, ⟨conditions, bound⟩, bind_ok, rfl, rfl⟩
  exact ⟨rfl, rfl, from_ok, Criteria.binds_of_bindAll bind_ok⟩

theorem logged_ok (logs : (logged operation made).result = .ok query) : query = made := by
  simp only [logged, Compilation.result_bind_eq_ok_iff, Compilation.result_pure,
    Except.ok.injEq] at logs
  rcases logs with ⟨_, -, rfl⟩
  rfl

theorem placeholders_select
    (made : (do
      let (statement, parameters) ← select options root spec projection orders
      logged operation { text := statement.text, parameters }).result = .ok query)
    (root_plain : root.IsPlain) (plain : spec.IsPlain)
    (no_fragments : Criteria.allFragments spec.criteria = [])
    (projection_plain : projection.IsPlain) (orders_plain : ∀ order ∈ orders, order.field.IsPlain) :
    query.placeholders = query.parameters.names := by
  rcases Compilation.result_bind_eq_ok_iff.mp made with
    ⟨⟨statement, parameters⟩, selected, logs⟩
  rcases select_ok selected with ⟨rfl, rfl, from_ok, run⟩
  have sources_silent := SearchSpec.silent_fromClause from_ok root_plain plain
  have head_silent :
      Silent ("SELECT " ++ statement.projection.text ++ statement.sources.text) := by
    simp only [silent_append]
    exact ⟨⟨by decide, projection_plain.silent⟩, sources_silent⟩
  have narrowed_shows :=
    Condition.shows_append_whereText head_silent.shows (run.shows no_fragments plain.leaves)
  have text_shows := narrowed_shows.orderBy orders_plain
  rw [logged_ok logs, placeholders, Select.text, text_shows.placeholderNames_eq,
    run.names_eq no_fragments]
  rfl

theorem fields_bindAttributes (attributes : List (String × Value)) (parameters : Parameters) :
    (bindAttributes parameters attributes).1.map Assignment.field = attributes.map Prod.fst := by
  induction attributes generalizing parameters with
  | nil => rfl
  | cons first rest ih =>
      simp only [bindAttributes, List.map_cons, ih]

theorem names_bindAttributes (attributes : List (String × Value)) (parameters : Parameters) :
    (bindAttributes parameters attributes).2.names =
      (parameters.names ++
        (bindAttributes parameters attributes).1.map Assignment.parameter).eraseDups := by
  have bound := bindAttributes_eq_bindEach parameters attributes
  have tokens_eq := congrArg Prod.fst bound
  have after_eq := congrArg Prod.snd bound
  simp only at tokens_eq after_eq
  rw [after_eq, tokens_eq, Parameters.names_bindEach]

theorem shows_assignments {attributes : List (String × Value)}
    (plain : ∀ entry ∈ attributes, IsPlainName entry.1) (parameters : Parameters) :
    Shows (", ".intercalate ((bindAttributes parameters attributes).1.map Assignment.text))
      ((bindAttributes parameters attributes).1.map Assignment.parameter) := by
  have tokens_eq := congrArg Prod.fst (bindAttributes_eq_bindEach parameters attributes)
  rw [List.map_eq_flatMap (f := Assignment.parameter)]
  apply Shows.intercalate (by decide)
  intro assignment assignment_mem
  have field_plain : IsPlainName assignment.field := by
    have field_mem := List.mem_map_of_mem (f := Assignment.field) assignment_mem
    rw [fields_bindAttributes] at field_mem
    rcases List.mem_map.mp field_mem with ⟨entry, entry_mem, field_eq⟩
    rw [← field_eq]
    exact plain entry entry_mem
  have name_chars : ∀ c ∈ assignment.parameter.toList, isNameChar c = true := by
    have token_mem := List.mem_map_of_mem (f := Assignment.parameter) assignment_mem
    simp only at tokens_eq
    rw [tokens_eq] at token_mem
    apply Parameters.isNameChar_of_mem_bindEach _ token_mem
    intro request request_mem
    rcases List.mem_map.mp request_mem with ⟨entry, entry_mem, rfl⟩
    exact plain entry entry_mem
  have path_silent := (isPlain_rootField field_plain).silent
  have opened : Silent (Field.path { name := assignment.field } ++ " = ") := by
    simp only [silent_append]
    exact ⟨path_silent, by decide⟩
  exact (Shows.placeholder name_chars).prepend opened

theorem placeholders_update {attributes : List (String × Value)} {conditions : List Condition}
    (run : Criteria.Binds options.emptyList (bindAttributes {} attributes).2 spec.criteria
      conditions parameters)
    (root_plain : root.IsPlain)
    (leaves_plain : ∀ leaf ∈ Criteria.allLeaves spec.criteria, leaf.IsPlain)
    (no_fragments : Criteria.allFragments spec.criteria = [])
    (plain : ∀ entry ∈ attributes, IsPlainName entry.1) :
    placeholders
      { text := Update.text
          { root, assignments := (bindAttributes {} attributes).1, conditions }
        parameters } = parameters.names := by
  have head_silent : Silent ("UPDATE " ++ root.logicalName ++ " " ++ rootAlias ++ " SET ") := by
    simp only [silent_append]
    exact ⟨⟨⟨⟨by decide, root_plain.logicalName.silent⟩, by decide⟩, silent_rootAlias⟩, by decide⟩
  have assigned_shows := (shows_assignments plain {}).prepend head_silent
  have text_shows :=
    Condition.shows_append_whereText assigned_shows (run.shows no_fragments leaves_plain)
  rw [placeholders, Update.text, text_shows.placeholderNames_eq, run.names_eq no_fragments,
    names_bindAttributes, eraseDups_eraseDups_append]
  rfl

/-- Placeholders and parameters correspond. Whatever kind of query is made, the placeholders in its
text are the names of its parameters, in the order in which they were bound. -/
theorem placeholders_eq_names (options : Options) (root : EntityType) (spec : SearchSpec)
    (query : Query) (root_plain : root.IsPlain) (plain : spec.IsPlain)
    (no_fragments : Criteria.allFragments spec.criteria = []) :
    ((find options root spec).result = .ok query → query.placeholders = query.parameters.names) ∧
      ((count options root spec).result = .ok query →
        query.placeholders = query.parameters.names) ∧
      (∀ function field, IsPlainName field →
        (aggregate options root spec function field).result = .ok query →
          query.placeholders = query.parameters.names) ∧
      ∀ attributes, (∀ entry ∈ attributes, IsPlainName entry.1) →
        (update options root spec attributes).result = .ok query →
          query.placeholders = query.parameters.names := by
  refine ⟨?_, ?_, ?_, ?_⟩
  · intro found
    exact placeholders_select found root_plain plain no_fragments trivial
      (root.isPlain_completeOrders root_plain plain.orders)
  · intro counted
    unfold count at counted
    split at counted
    · exact placeholders_select counted root_plain plain no_fragments trivial (by simp)
    · rcases SearchSpec.isPlain_countSpec plain no_fragments with ⟨counted_plain, none_counted⟩
      exact placeholders_select counted root_plain counted_plain none_counted trivial (by simp)
  · intro function field field_plain aggregated
    exact placeholders_select aggregated root_plain plain no_fragments field_plain (by simp)
  · intro attributes attributes_plain updated
    simp only [update, Compilation.result_bind_eq_ok_iff] at updated
    rcases updated with ⟨⟨conditions, parameters⟩, bound, logs⟩
    rw [logged_ok logs]
    exact placeholders_update (Criteria.binds_of_bindAll bound) root_plain plain.leaves
      no_fragments attributes_plain

/-- An element comes before its collection, a range names one parameter twice, and an update
shares the name of its new value with a leaf. -/
theorem placeholders_eq_names_of_range :
    let range : Conditional := { field := { name := "a.b" }, test := .between .null .null }
    let element : Conditional := { field := { name := "c" }, test := .compare .memberOf .null }
    let spec : SearchSpec := { criteria := [.not (.group .or [.conditional range,
      .conditional element, .conditional range]), .conditional { range with test := .among [] }] }
    (∃ query, (find {} { typeName := "T" } spec).result = .ok query ∧
      query.placeholders = query.parameters.names) ∧
    ∃ query, (update {} { typeName := "T" } spec [("c", .null)]).result = .ok query ∧
      query.placeholders = query.parameters.names := by
  intro range element spec
  have root_plain : EntityType.IsPlain { typeName := "T" } := ⟨by decide, by decide⟩
  have plain : spec.IsPlain := by
    refine ⟨?_, by simp [spec], by simp [spec], by simp [spec]⟩
    change ∀ leaf ∈ [range, element, range, { range with test := .among [] }], leaf.IsPlain
    decide
  have no_fragments : Criteria.allFragments spec.criteria = [] := rfl
  have found : ∃ query, (find {} { typeName := "T" } spec).result = .ok query := by
    simp only [spec, range, element]
    exact ⟨_, rfl⟩
  have updated :
      ∃ query, (update {} { typeName := "T" } spec [("c", .null)]).result = .ok query := by
    simp only [spec, range, element]
    exact ⟨_, rfl⟩
  rcases found with ⟨found, found_ok⟩
  rcases updated with ⟨updated, updated_ok⟩
  have in_find := (placeholders_eq_names {} _ spec found root_plain plain no_fragments).1 found_ok
  have in_update := (placeholders_eq_names {} _ spec updated root_plain plain no_fragments).2.2.2
    [("c", .null)] (by decide) updated_ok
  exact ⟨⟨found, found_ok, in_find⟩, updated, updated_ok, in_update⟩

end Query

end ObjectQuery
