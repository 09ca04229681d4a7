import ObjectQuery.Proofs.Criteria.Conflicts
import ObjectQuery.Proofs.Query.Placeholders
import ObjectQuery.Proofs.Statement.From

/-!
# Counting what is found

A count and a find of one specification walk over the same sources and criteria. If no fragment in
the list of criteria opted out of counting, they bind the same parameters or are refused for the
same reason, and fetches make no difference to the count. With such fragments, it only matters
whether there are fetches at all.
-/

namespace ObjectQuery

namespace SearchSpec

variable (spec : SearchSpec)

/-- No fragment in the list of criteria itself opted out of counting. -/
def CountsAll : Prop :=
  ∀ leaf, Criteria.personal leaf ∈ spec.criteria → leaf.appliesInCount = true

theorem countSpec_countSpec : spec.countSpec.countSpec = spec.countSpec := by
  simp [countSpec]

variable {spec}

theorem CountsAll.appliesInCount (counts_all : spec.CountsAll) {criteria : Criteria}
    (listed : criteria ∈ spec.criteria) : criteria.appliesInCount = true := by
  cases criteria with
  | personal leaf => exact counts_all leaf listed
  | conditional leaf => rfl
  | not criteria => rfl
  | group operator members => rfl

theorem CountsAll.countSpec_eq (counts_all : spec.CountsAll) :
    spec.countSpec = { spec with fetches := [] } := by
  have kept : spec.criteria.filter Criteria.appliesInCount = spec.criteria := by
    apply List.filter_eq_self.mpr
    intro criteria listed
    exact counts_all.appliesInCount listed
  simp [countSpec, kept]

/-- Fetches are the end of a FROM clause and have no part in its success. -/
theorem result_fromClause (spec : SearchSpec) (options : Options) (root : EntityType) :
    (spec.fromClause options root).result =
      (fromClause { spec with fetches := [] } options root).result.map
        fun clause => { clause with fetches := spec.fetches } := by
  have order_eq : joinOrder { spec with fetches := [] } options = spec.joinOrder options := rfl
  rw [fromClause_eq, fromClause_eq, order_eq]
  cases (settle options (spec.joinOrder options).waiting).result <;> rfl

end SearchSpec

namespace Query

variable (options : Options) (root : EntityType) (spec : SearchSpec)

theorem count_of_isEmpty (none_fetched : spec.fetches.isEmpty = true) :
    count options root spec = (do
      let (statement, parameters) ← select options root spec .count []
      logged .count { text := statement.text, parameters }) := by
  simp only [count, none_fetched, if_true]

theorem count_eq_count_countSpec (fetched : spec.fetches ≠ []) :
    count options root spec = count options root spec.countSpec := by
  have some_fetched : spec.fetches.isEmpty = false := by simpa using fetched
  rw [count_of_isEmpty options root spec.countSpec rfl]
  simp only [count, some_fetched, Bool.false_eq_true, if_false]

/-- Without fragments that opted out, a count is that of the specification without fetches. -/
theorem count_eq_of_countsAll {spec : SearchSpec} (counts_all : spec.CountsAll) :
    count options root spec = count options root { spec with fetches := [] } := by
  by_cases fetched : spec.fetches = []
  · rw [← fetched]
  · rw [count_eq_count_countSpec options root spec fetched, counts_all.countSpec_eq]

/-- What is selected is put together from the clauses without fetches and from the criteria. -/
theorem result_selected (projection : Projection) (orders : List Order) (operation : Operation) :
    (do
      let (statement, parameters) ← select options root spec projection orders
      logged operation { text := statement.text, parameters }).result = (do
      let clause ← (SearchSpec.fromClause { spec with fetches := [] } options root).result
      let (conditions, parameters) ←
        (Criteria.bindAll options.emptyList {} spec.criteria).result
      let sources := { clause with fetches := spec.fetches }
      return { text := Select.text { projection, sources, conditions, orders }, parameters }) := by
  simp only [select, Compilation.result_bind, spec.result_fromClause]
  cases (SearchSpec.fromClause { spec with fetches := [] } options root).result with
  | error error => rfl
  | ok clause =>
      cases (Criteria.bindAll options.emptyList {} spec.criteria).result with
      | error error => rfl
      | ok outcome => rfl

/-- A count and a find are refused for the same reason, or both are made, and then they bind the
same parameters and the count is put together from the clauses without fetches. -/
inductive Agree (options : Options) (root : EntityType) (spec : SearchSpec) : Prop where
  | refused {error : CompileError} (count_refused : (count options root spec).result = .error error)
      (find_refused : (find options root spec).result = .error error)
  | made {counted found conditions : Query} {sources : String}
      (count_made : (count options root spec).result = .ok counted)
      (find_made : (find options root spec).result = .ok found)
      (sources_made : (fromText options root { spec with fetches := [] }).result = .ok sources)
      (conditions_made : (whereClause options spec).result = .ok conditions)
      (parameters_eq : counted.parameters = found.parameters)
      (text_eq : counted.text = "SELECT COUNT(e)" ++ sources ++ conditions.text)

theorem agree_of_countsAll {spec : SearchSpec} (counts_all : spec.CountsAll) :
    Agree options root spec := by
  have count_eq := result_selected options root { spec with fetches := [] } .count [] .count
  have find_eq := result_selected options root spec (.root spec.distinct)
    (root.completeOrders spec.orders) .find
  rw [← count_of_isEmpty options root _ rfl, ← count_eq_of_countsAll options root counts_all]
    at count_eq
  cases from_result : (SearchSpec.fromClause { spec with fetches := [] } options root).result with
  | error error =>
      simp only [from_result] at count_eq find_eq
      exact .refused count_eq find_eq
  | ok clause =>
      cases bound : (Criteria.bindAll options.emptyList {} spec.criteria).result with
      | error error =>
          simp only [from_result, bound] at count_eq find_eq
          exact .refused count_eq find_eq
      | ok outcome =>
          have sources_made :
              (fromText options root { spec with fetches := [] }).result = .ok clause.text := by
            rw [fromText, Compilation.bind_of_ok from_result]
            rfl
          have conditions_made : (whereClause options spec).result =
              .ok { text := Condition.whereText outcome.1, parameters := outcome.2 } := by
            rw [whereClause, Compilation.bind_of_ok bound]
            rfl
          simp only [from_result, bound] at count_eq find_eq
          refine .made count_eq find_eq sources_made conditions_made rfl ?_
          rw [SearchSpec.fromClause_ok from_result]
          exact String.append_empty

/-- A count agrees with the find of its specification if no fragment in the list of criteria opted
out of counting, whatever is fetched. In any case it is the count of the specification that is
derived for counting, as soon as something is fetched, and what is fetched does not matter. -/
theorem count_agrees_with_find :
    (spec.CountsAll →
      (∀ fetches, count options root { spec with fetches } = count options root spec) ∧
      (∀ error, (count options root spec).result = .error error ↔
        (find options root spec).result = .error error) ∧
      ∀ counted, (count options root spec).result = .ok counted →
        ∃ found sources conditions, (find options root spec).result = .ok found ∧
          (fromText options root { spec with fetches := [] }).result = .ok sources ∧
          (whereClause options spec).result = .ok conditions ∧
          counted.parameters = found.parameters ∧
          counted.text = "SELECT COUNT(e)" ++ sources ++ conditions.text) ∧
    (spec.fetches ≠ [] → count options root spec = count options root spec.countSpec) ∧
    spec.countSpec.countSpec = spec.countSpec ∧
    ∀ fetches, (fetches = [] ↔ spec.fetches = []) →
      count options root { spec with fetches } = count options root spec := by
  refine ⟨?_, count_eq_count_countSpec options root spec, spec.countSpec_countSpec, ?_⟩
  · intro counts_all
    have agree := agree_of_countsAll options root counts_all
    refine ⟨?_, ?_, ?_⟩
    · intro fetches
      have counts_all' : SearchSpec.CountsAll { spec with fetches } := counts_all
      rw [count_eq_of_countsAll options root counts_all',
        count_eq_of_countsAll options root counts_all]
    · intro error
      cases agree with
      | refused count_refused find_refused => rw [count_refused, find_refused]
      | made count_made find_made => simp [count_made, find_made]
    · intro counted counted_made
      cases agree with
      | refused count_refused find_refused => simp [count_refused] at counted_made
      | made count_made find_made sources_made conditions_made parameters_eq text_eq =>
          rw [count_made, Except.ok.injEq] at counted_made
          subst counted_made
          exact ⟨_, _, _, find_made, sources_made, conditions_made, parameters_eq, text_eq⟩
  · intro fetches both
    by_cases fetched : spec.fetches = []
    · rw [both.mpr fetched, ← fetched]
    · have fetched' : fetches ≠ [] := fun none_fetched => fetched (both.mp none_fetched)
      rw [count_eq_count_countSpec options root { spec with fetches } fetched',
        count_eq_count_countSpec options root spec fetched]
      rfl

/-- A join without a parent is left out, and a fragment that opted out stays within its negation. -/
theorem count_agrees_with_find_of_fetch :
    let lost : JoinEntity :=
      { operator := .left, name := "roles", aliasName := "r"
        parent := .fetch .leftFetch "groups" .root none }
    let active : PersonalCriteria :=
      { query := "active = :yes", placeholders := [("active", { name := "live" })]
        parameters := [("yes", .bool true)] }
    let spec : SearchSpec := {
      criteria := [.personal active, .not (.personal { query := "1 = 2", appliesInCount := false })]
      entities := [.join lost, .domain { entityType := { typeName := "Role" }, aliasName := "o" }]
      fetches := [{ operator := .leftFetch, name := "roles" }] }
    let options : Options := { joinResolution := .lenient }
    let others : List FetchJoin := [{ operator := .innerFetch, name := "groups" }]
    spec.CountsAll ∧ spec.fetches ≠ [] ∧ (others = [] ↔ spec.fetches = []) ∧
      count options { typeName := "T" } spec =
        count options { typeName := "T" } { spec with fetches := others } ∧
      count options { typeName := "T" } spec = count options { typeName := "T" } spec.countSpec ∧
      ∃ counted found, (count options { typeName := "T" } spec).result = .ok counted ∧
        (find options { typeName := "T" } spec).result = .ok found ∧
        counted.parameters = found.parameters ∧ counted.parameters.names = ["yes"] ∧
        counted.text =
          "SELECT COUNT(e) FROM T AS e, Role o WHERE e.live = :yes AND NOT (1 = 2)" := by
  intro lost active spec options others
  have counts_all : spec.CountsAll := by
    intro leaf listed
    simp only [spec, List.mem_cons, Criteria.personal.injEq, reduceCtorEq, List.not_mem_nil,
      or_false] at listed
    rw [listed]
  have fetched : spec.fetches ≠ [] := List.cons_ne_nil _ _
  have both : others = [] ↔ spec.fetches = [] := by simp [others, spec]
  rcases count_agrees_with_find options { typeName := "T" } spec with
    ⟨agrees, derived, -, same_fetched⟩
  have made : ∃ counted, (count options { typeName := "T" } spec).result = .ok counted ∧
      counted.parameters.names = ["yes"] ∧ counted.text =
        "SELECT COUNT(e) FROM T AS e, Role o WHERE e.live = :yes AND NOT (1 = 2)" := by
    simp only [spec, active, lost, options]
    exact ⟨_, rfl, rfl, rfl⟩
  rcases made with ⟨counted, counted_made, names_eq, text_eq⟩
  rcases (agrees counts_all).2.2 counted counted_made with
    ⟨found, _, _, find_made, -, -, parameters_eq, -⟩
  exact ⟨counts_all, fetched, both, (same_fetched others both).symm, derived fetched, counted,
    found, counted_made, find_made, parameters_eq, names_eq, text_eq⟩

end Query

end ObjectQuery
