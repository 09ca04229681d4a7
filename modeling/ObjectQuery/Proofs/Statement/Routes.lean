import ObjectQuery.Proofs.JoinOrder.Placement
import ObjectQuery.Proofs.Statement.From

/-!
# Where entities end up

Each entity that is listed with a specification takes one of five ways: to the sources of the FROM
clause, to its joins, to the joins that are left over, or, if it fetches, into the log as one of two
events. No entity takes two ways and none gets lost, in either resolution of joins. How entities of
different kinds are mixed in the list makes no difference to the clause.
-/

namespace ObjectQuery

/-- The ways that the entities of a list take, those on one way in their order in the list. -/
structure Routes where
  sources : List DomainEntity := []
  placed : List JoinEntity := []
  leftOver : List JoinEntity := []
  events : List LogEvent := []

namespace Routes

/-- Each entity of a list takes one way. Joins proper are placed or left over; joins that fetch and
fetches are noted by an event that names them. -/
inductive Cover : Routes → List Entity → Prop where
  | nil : Cover {} []
  | source {routes : Routes} {rest : List Entity} (source : DomainEntity)
      (tail : Cover routes rest) :
      Cover { routes with sources := source :: routes.sources } (.domain source :: rest)
  | placed {routes : Routes} {rest : List Entity} {join : JoinEntity}
      (proper : join.operator.isFetch = false) (tail : Cover routes rest) :
      Cover { routes with placed := join :: routes.placed } (.join join :: rest)
  | leftOver {routes : Routes} {rest : List Entity} {join : JoinEntity}
      (proper : join.operator.isFetch = false) (tail : Cover routes rest) :
      Cover { routes with leftOver := join :: routes.leftOver } (.join join :: rest)
  | fetchingJoin {routes : Routes} {rest : List Entity} {join : JoinEntity}
      (fetching : join.operator.isFetch = true) (tail : Cover routes rest) :
      Cover { routes with events := .fetchingJoin join.aliasName :: routes.events }
        (.join join :: rest)
  | strayFetch {routes : Routes} {rest : List Entity} (fetch : FetchJoin)
      (tail : Cover routes rest) :
      Cover { routes with events := .strayFetch fetch.name :: routes.events }
        (.fetch fetch :: rest)

/-- Whichever joins proper of a list are left over, there are ways for all of its entities. -/
theorem exists_cover {entities : List Entity} {waiting : List JoinEntity}
    (remaining : waiting.Sublist (entities.filterMap Entity.join?)) :
    ∃ routes : Routes, routes.Cover entities ∧
      routes.sources = entities.filterMap Entity.domain? ∧ routes.leftOver = waiting ∧
      routes.events = entities.filterMap Entity.stray? ∧
      (routes.placed ++ waiting).Perm (entities.filterMap Entity.join?) := by
  induction entities generalizing waiting with
  | nil =>
      have none_waiting : waiting = [] := List.sublist_nil.mp remaining
      exact ⟨{}, .nil, rfl, none_waiting.symm, rfl, by simp [none_waiting]⟩
  | cons entity rest ih =>
      cases entity with
      | domain source =>
          rcases ih remaining with ⟨routes, cover, sources_eq, left_eq, events_eq, perm⟩
          exact ⟨_, .source source cover, congrArg (source :: ·) sources_eq, left_eq, events_eq, perm⟩
      | fetch fetch =>
          rcases ih remaining with ⟨routes, cover, sources_eq, left_eq, events_eq, perm⟩
          exact ⟨_, .strayFetch fetch cover, sources_eq, left_eq, congrArg (_ :: ·) events_eq, perm⟩
      | join join =>
          cases fetching : join.operator.isFetch with
          | true =>
              have no_part : (Entity.join join).join? = none := by simp [Entity.join?, fetching]
              have noted : (Entity.join join).stray? = some (.fetchingJoin join.aliasName) := by
                simp [Entity.stray?, fetching]
              rw [List.filterMap_cons_none no_part] at remaining ⊢
              rw [List.filterMap_cons_some noted]
              rcases ih remaining with ⟨routes, cover, sources_eq, left_eq, events_eq, perm⟩
              exact ⟨_, .fetchingJoin fetching cover, sources_eq, left_eq,
                congrArg (_ :: ·) events_eq, perm⟩
          | false =>
              have has_part : (Entity.join join).join? = some join := by
                simp [Entity.join?, fetching]
              have unnoted : (Entity.join join).stray? = none := by simp [Entity.stray?, fetching]
              rw [List.filterMap_cons_some has_part] at remaining ⊢
              rw [List.filterMap_cons_none unnoted]
              -- It is left over if it is the first join that waits.
              cases remaining with
              | cons _ remaining =>
                  rcases ih remaining with ⟨routes, cover, sources_eq, left_eq, events_eq, perm⟩
                  exact ⟨_, .placed fetching cover, sources_eq, left_eq, events_eq, perm.cons join⟩
              | cons_cons _ remaining =>
                  rcases ih remaining with ⟨routes, cover, sources_eq, left_eq, events_eq, perm⟩
                  exact ⟨_, .leftOver fetching cover, sources_eq, congrArg (join :: ·) left_eq,
                    events_eq, List.perm_middle.trans (perm.cons join)⟩

end Routes

/-- A FROM clause has the sources and the joins that took these ways, and the fetches behind them. A
source and a join bring their alias into its text, a fetch does not. -/
structure FromClause.Renders (clause : FromClause) (root : EntityType) (routes : Routes)
    (fetches : List FetchJoin) : Prop where
  sources_eq : clause.sources = routes.sources
  joins_perm : clause.joins.Perm routes.placed
  fetches_eq : clause.fetches = fetches
  text_eq : clause.text = " FROM " ++ root.logicalName ++ " AS " ++ rootAlias ++
    String.join (routes.sources.map fun source =>
      ", " ++ source.entityType.typeName ++ " " ++ source.aliasName) ++
    String.join (clause.joins.map fun join =>
      " " ++ join.operator.keyword ++ " " ++ (join.parent.aliasName ++ "." ++ join.name) ++ " " ++
        join.aliasName) ++
    String.join (fetches.map fun fetch =>
      " " ++ fetch.operator.keyword ++ " " ++ (fetch.parent.aliasName ++ "." ++ fetch.name) ++ " ")

namespace SearchSpec

/-- What becomes of a FROM clause once the entities have taken their ways. If joins are left over,
their aliases are either what it is refused for or what is noted last. -/
inductive Accounts (spec : SearchSpec) (options : Options) (root : EntityType) (routes : Routes) :
    Compilation FromClause → Prop where
  | complete {clause : FromClause} (none_left : routes.leftOver = [])
      (renders : clause.Renders root routes spec.fetches) :
      Accounts spec options root routes { log := routes.events, result := .ok clause }
  | refused (strict : options.joinResolution = .strict) (some_left : routes.leftOver ≠ []) :
      Accounts spec options root routes {
        log := routes.events
        result := .error (.unresolvedJoins (routes.leftOver.map JoinEntity.aliasName)
          options.maxJoinPasses) }
  | dropped {clause : FromClause} (lenient : options.joinResolution = .lenient)
      (some_left : routes.leftOver ≠ []) (renders : clause.Renders root routes spec.fetches) :
      Accounts spec options root routes {
        log := routes.events ++ [.droppedJoins (routes.leftOver.map JoinEntity.aliasName)
          options.maxJoinPasses]
        result := .ok clause }

variable (options : Options) (root : EntityType) (spec : SearchSpec)

theorem exists_accounts :
    ∃ routes : Routes, routes.Cover spec.entities ∧
      routes.leftOver = (spec.joinOrder options).waiting ∧
      spec.Accounts options root routes (spec.fromClause options root) := by
  have arranges := JoinOrder.arranges_ofJoins (spec.entities.filterMap Entity.join?)
    options.maxJoinPasses
  rcases Routes.exists_cover arranges.sublist with
    ⟨routes, cover, sources_eq, left_eq, events_eq, perm⟩
  have left_eq : routes.leftOver = (spec.joinOrder options).waiting := left_eq
  have placed_perm : (spec.joinOrder options).placed.Perm routes.placed :=
    (List.perm_append_right_iff _).mp (arranges.perm.trans perm.symm)
  have renders : FromClause.Renders
      { root, sources := spec.entities.filterMap Entity.domain?
        joins := (spec.joinOrder options).placed, fetches := spec.fetches } root routes
      spec.fetches := by
    refine ⟨sources_eq.symm, placed_perm, rfl, ?_⟩
    rw [sources_eq]
    rfl
  refine ⟨routes, cover, left_eq, ?_⟩
  rw [fromClause_eq, ← events_eq, ← left_eq]
  by_cases none_left : routes.leftOver = []
  · rw [none_left, settle_nil, List.append_nil]
    exact .complete none_left renders
  · cases resolution : options.joinResolution with
    | strict =>
        rw [settle_of_strict resolution none_left, List.append_nil]
        exact .refused resolution none_left
    | lenient =>
        rw [settle_of_lenient resolution none_left]
        exact .dropped resolution none_left renders

/-- The FROM clause accounts for every entity that is listed. Each takes one of five ways. The joins
that still wait once joins are ordered are left over, and they decide whether there is a clause; if
there is one, it renders the others and the fetches. Lists in which the entities beside the root and the joins proper stand in the same order
give the same clause or the same error. -/
theorem fromClause_accounts_for_entities (options : Options) (root : EntityType)
    (spec : SearchSpec) :
    (∃ routes : Routes, routes.Cover spec.entities ∧
      routes.leftOver = (spec.joinOrder options).waiting ∧
      spec.Accounts options root routes (spec.fromClause options root)) ∧
      ∀ other : SearchSpec,
        other.entities.filterMap Entity.domain? = spec.entities.filterMap Entity.domain? →
        other.entities.filterMap Entity.join? = spec.entities.filterMap Entity.join? →
        other.fetches = spec.fetches →
          (other.fromClause options root).result = (spec.fromClause options root).result := by
  refine ⟨exists_accounts options root spec, ?_⟩
  intro other domains_eq joins_eq fetches_eq
  have order_eq : other.joinOrder options = spec.joinOrder options := by
    rw [joinOrder, joins_eq]
    rfl
  rw [fromClause_eq, fromClause_eq, order_eq, domains_eq, fetches_eq]

/-- All five ways in one list: a child that one sweep leaves over, a source, the parent, a join that
fetches and a fetch. Mixed in another way and without those that fetch, the clause is the same. -/
theorem fromClause_accounts_for_entities_of_mixed :
    let source : DomainEntity := { entityType := { typeName := "Role" }, aliasName := "r" }
    let parent : JoinEntity :=
      { operator := .inner, name := "groups", parent := .domain source, aliasName := "g" }
    let child : JoinEntity :=
      { operator := .left, name := "owner", parent := parent.toOwner, aliasName := "o" }
    let fetching : JoinEntity := { operator := .leftFetch, name := "notes", aliasName := "n" }
    let fetch : FetchJoin := { operator := .innerFetch, name := "tags", aliasName := some "t" }
    let spec : SearchSpec := {
      entities := [.join child, .domain source, .join fetching, .join parent, .fetch fetch]
      fetches := [fetch] }
    let other : SearchSpec := {
      entities := [.join child, .join parent, .domain source]
      fetches := [fetch] }
    let options : Options := { maxJoinPasses := 1, joinResolution := .lenient }
    let root : EntityType := { typeName := "T" }
    other.entities.filterMap Entity.domain? = spec.entities.filterMap Entity.domain? ∧
      other.entities.filterMap Entity.join? = spec.entities.filterMap Entity.join? ∧
      other.fetches = spec.fetches ∧
      (other.fromClause options root).result = (spec.fromClause options root).result ∧
      (spec.fromClause options root).log =
        [.fetchingJoin "n", .strayFetch "tags", .droppedJoins ["o"] 1] ∧
      ∃ clause, (spec.fromClause options root).result = .ok clause ∧
        clause.text = " FROM T AS e, Role r INNER JOIN r.groups g JOIN FETCH e.tags " := by
  intro source parent child fetching fetch spec other options root
  refine ⟨rfl, rfl, rfl, ?_, rfl, _, rfl, ?_⟩
  · exact (fromClause_accounts_for_entities options root spec).2 other rfl rfl rfl
  · decide

end SearchSpec

end ObjectQuery
