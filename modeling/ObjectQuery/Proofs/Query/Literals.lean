import ObjectQuery.Proofs.Criteria.Literals
import ObjectQuery.Query

/-!
# Literals stay out of statements

Two specifications without fragments that differ in the values of their leaves at most are refused
for the same reason, or become statements that cannot be told apart once their placeholders are
masked. A value can change which names are taken and which numbers are put behind them, so the two
runs bind different parameters, but each of them shows a name at the same places.
-/

namespace ObjectQuery.Query

/-- The same error, or two statements that only differ in their placeholders. -/
inductive AlikeOutcomes : Except CompileError Query → Except CompileError Query → Prop where
  | error {error : CompileError} : AlikeOutcomes (.error error) (.error error)
  | ok {query query' : Query} (same : ∀ mark, masked mark query.text = masked mark query'.text) :
      AlikeOutcomes (.ok query) (.ok query')

variable {options : Options} {root : EntityType} {spec : SearchSpec} {others : List Criteria}

theorem alikeOutcomes_select (alike : Criteria.Alike spec.criteria others)
    (plain : ∀ leaf ∈ Criteria.allLeaves spec.criteria, IsPlainName leaf.field.name)
    (projection : Projection) (orders : List Order) (operation : Operation) :
    AlikeOutcomes
      (do
        let (statement, parameters) ← select options root spec projection orders
        logged operation { text := statement.text, parameters }).result
      (do
        let (statement, parameters) ←
          select options root { spec with criteria := others } projection orders
        logged operation { text := statement.text, parameters }).result := by
  rcases alike.no_fragments with ⟨no_fragments, no_fragments'⟩
  rcases Criteria.bindAll_succeeds options.emptyList {} _ no_fragments with
    ⟨⟨conditions, parameters⟩, bound⟩
  rcases Criteria.bindAll_succeeds options.emptyList {} _ no_fragments' with
    ⟨⟨conditions', parameters'⟩, bound'⟩
  -- Sources, joins and fetches are the same on both sides, and so is what is wrong with them.
  have from_eq : SearchSpec.fromClause { spec with criteria := others } options root =
      spec.fromClause options root := rfl
  simp only [select, Compilation.bind_of_ok bound, Compilation.bind_of_ok bound', from_eq]
  cases from_result : (spec.fromClause options root).result with
  | error error =>
      simp only [Compilation.bind_of_error from_result]
      exact .error
  | ok clause =>
      simp only [Compilation.bind_of_ok from_result]
      have narrowed := Twins.whereText ((Criteria.binds_of_bindAll bound).twins alike
        (Criteria.binds_of_bindAll bound') plain)
      refine .ok ?_
      apply Twins.masked_eq
      exact ((Twins.refl _).append narrowed).append (.refl _)

theorem twins_assignments {attributes attributes' : List (String × Value)}
    (names_eq : attributes.map Prod.fst = attributes'.map Prod.fst)
    (plain : ∀ entry ∈ attributes, IsPlainName entry.1) (parameters parameters' : Parameters) :
    List.Forall₂ Twins ((bindAttributes parameters attributes).1.map Assignment.text)
      ((bindAttributes parameters' attributes').1.map Assignment.text) := by
  induction attributes generalizing attributes' parameters parameters' with
  | nil =>
      cases attributes' with
      | nil => exact .nil
      | cons first' rest' => simp at names_eq
  | cons first rest ih =>
      cases attributes' with
      | nil => simp at names_eq
      | cons first' rest' =>
          rcases first with ⟨field, value⟩
          rcases first' with ⟨field', value'⟩
          simp only [List.map_cons, List.cons.injEq] at names_eq
          rcases names_eq with ⟨rfl, rest_eq⟩
          rw [List.forall_mem_cons] at plain
          have token := Twins.placeholder
            (Parameters.isNameChar_of_mem_bind plain.1 parameters value value)
            (Parameters.isNameChar_of_mem_bind plain.1 parameters' value' value')
          exact .cons ((Twins.refl _).append token) (ih rest_eq plain.2 _ _)

theorem alikeOutcomes_update (alike : Criteria.Alike spec.criteria others)
    (plain : ∀ leaf ∈ Criteria.allLeaves spec.criteria, IsPlainName leaf.field.name)
    {attributes attributes' : List (String × Value)}
    (names_eq : attributes.map Prod.fst = attributes'.map Prod.fst)
    (attributes_plain : ∀ entry ∈ attributes, IsPlainName entry.1) :
    AlikeOutcomes (update options root spec attributes).result
      (update options root { spec with criteria := others } attributes').result := by
  rcases alike.no_fragments with ⟨no_fragments, no_fragments'⟩
  rcases Criteria.bindAll_succeeds options.emptyList (bindAttributes {} attributes).2 _
    no_fragments with ⟨⟨conditions, parameters⟩, bound⟩
  rcases Criteria.bindAll_succeeds options.emptyList (bindAttributes {} attributes').2 _
    no_fragments' with ⟨⟨conditions', parameters'⟩, bound'⟩
  simp only [update, Compilation.bind_of_ok bound, Compilation.bind_of_ok bound']
  have assigned := Twins.intercalate ", " (twins_assignments names_eq attributes_plain {} {})
  have narrowed := Twins.whereText ((Criteria.binds_of_bindAll bound).twins alike
    (Criteria.binds_of_bindAll bound') plain)
  refine .ok ?_
  apply Twins.masked_eq
  exact ((Twins.refl _).append assigned).append narrowed

/-- Values never reach the text of a statement. Whatever kind of query is made, two lists of
criteria without fragments that differ in their values at most have the same outcome, up to the
names of placeholders. -/
theorem literals_hidden (options : Options) (root : EntityType) (spec : SearchSpec)
    (others : List Criteria) (alike : Criteria.Alike spec.criteria others)
    (plain : ∀ leaf ∈ Criteria.allLeaves spec.criteria, IsPlainName leaf.field.name) :
    AlikeOutcomes (find options root spec).result
        (find options root { spec with criteria := others }).result ∧
      AlikeOutcomes (count options root spec).result
        (count options root { spec with criteria := others }).result ∧
      (∀ function field, AlikeOutcomes (aggregate options root spec function field).result
        (aggregate options root { spec with criteria := others } function field).result) ∧
      ∀ attributes attributes' : List (String × Value),
        attributes.map Prod.fst = attributes'.map Prod.fst →
          (∀ entry ∈ attributes, IsPlainName entry.1) →
            AlikeOutcomes (update options root spec attributes).result
              (update options root { spec with criteria := others } attributes').result := by
  refine ⟨?_, ?_, ?_, ?_⟩
  · exact alikeOutcomes_select alike plain _ _ _
  · rcases alike.no_fragments with ⟨no_fragments, no_fragments'⟩
    cases fetches_eq : spec.fetches.isEmpty with
    | true =>
        simp only [count, fetches_eq, if_true]
        exact alikeOutcomes_select alike plain _ _ _
    | false =>
        simp only [count, fetches_eq, Bool.false_eq_true, if_false, SearchSpec.countSpec,
          Criteria.filter_appliesInCount no_fragments, Criteria.filter_appliesInCount no_fragments']
        exact @alikeOutcomes_select options root { spec with fetches := [] } others alike plain
          _ _ _
  · intro function field
    exact alikeOutcomes_select alike plain _ _ _
  · intro attributes attributes' names_eq attributes_plain
    exact alikeOutcomes_update alike plain names_eq attributes_plain

/-- A text that is written like a condition, and a longer list with a placeholder in it, show no
more than other values do. -/
theorem literals_hidden_of_quotes :
    let criteria (name : Value) (ids : List Value) : List Criteria :=
      [.not (.group .or [.conditional ⟨{ name := "name" }, .compare .eq name false⟩,
        .conditional ⟨{ name := "group.id" }, .among (.null :: .null :: ids)⟩])]
    let spec : SearchSpec := { criteria := criteria (.text "Ann") [] }
    let others := criteria (.text "' OR '1' = '1") [.text ":name_"]
    ∃ query query', (find {} { typeName := "T" } spec).result = .ok query ∧
      (find {} { typeName := "T" } { spec with criteria := others }).result = .ok query' ∧
      masked "?" query.text = masked "?" query'.text := by
  intro criteria spec others
  have alike : Criteria.Alike spec.criteria others :=
    .not (.group (.conditional (.compare fun _ => rfl) (.conditional .amongMany .nil)) .nil) .nil
  have plain : ∀ leaf ∈ Criteria.allLeaves spec.criteria, IsPlainName leaf.field.name := by
    change ∀ leaf ∈ [_, _], _
    simp only [List.forall_mem_cons]
    refine ⟨?_, ?_, by simp⟩ <;> decide
  have outcomes := (literals_hidden {} { typeName := "T" } spec others alike plain).1
  have found : ∃ query, (find {} { typeName := "T" } spec).result = .ok query := by
    simp only [spec, criteria]
    exact ⟨_, rfl⟩
  have found' : ∃ query',
      (find {} { typeName := "T" } { spec with criteria := others }).result = .ok query' := by
    simp only [spec, others, criteria]
    exact ⟨_, rfl⟩
  rcases found with ⟨query, found⟩
  rcases found' with ⟨query', found'⟩
  rw [found, found'] at outcomes
  rcases outcomes with _ | same
  exact ⟨query, query', found, found', same "?"⟩

end ObjectQuery.Query
