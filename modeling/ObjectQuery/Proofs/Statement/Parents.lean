import ObjectQuery.Proofs.Query.Scope

/-!
# Parents in FROM clauses

Joins and fetches are qualified by the aliases of their parents. A parent is written out where it is
used and need not be listed. A join under another join always stands behind it, but nobody asks
whether the entity beside the root that a join hangs on has a part in the clause, nor whether the
parent of a fetch has one. Apart from these, every qualifier has been introduced.
-/

namespace ObjectQuery

namespace FromClause

/-- An alias is that of the root, of a source beside it, or of one of these joins. -/
def Introduces (clause : FromClause) (joins : List JoinEntity) (aliasName : String) : Prop :=
  aliasName = rootAlias ∨ (∃ source ∈ clause.sources, aliasName = source.aliasName) ∨
    ∃ join ∈ joins, aliasName = join.aliasName

instance (clause : FromClause) (joins : List JoinEntity) (aliasName : String) :
    Decidable (clause.Introduces joins aliasName) :=
  inferInstanceAs (Decidable (_ ∨ _ ∨ _))

/-- An owner has a part in a clause: it is the root, a source beside it or a join that is placed. A
fetch without an alias is taken for the root. -/
def HasPart (clause : FromClause) : Owner → Prop
  | .root => True
  | .domain source => source ∈ clause.sources
  | .join operator name parent aliasName => { operator, name, parent, aliasName } ∈ clause.joins
  | .fetch _ _ _ aliasName => aliasName = none

variable {clause : FromClause} {placed : List JoinEntity}

theorem introduces_of_hasPart {owner : Owner} (has_part : clause.HasPart owner) :
    clause.Introduces clause.joins owner.aliasName := by
  cases owner with
  | root => exact Or.inl rfl
  | domain source => exact Or.inr (Or.inl ⟨source, has_part, rfl⟩)
  | join operator name parent aliasName => exact Or.inr (Or.inr ⟨_, has_part, rfl⟩)
  | fetch operator name parent aliasName =>
      left
      rw [show aliasName = none from has_part]
      rfl

/-- A join that is ready is qualified by an alias that the joins before it introduce, unless it hangs
on an entity beside the root that has no part in the clause. -/
theorem introduces_of_isReady {join : JoinEntity} (ready : join.isReady placed = true)
    (listed : ∀ source, join.parent = .domain source → source ∈ clause.sources) :
    clause.Introduces placed join.parent.aliasName := by
  cases parent_eq : join.parent with
  | root => exact Or.inl rfl
  | domain source => exact Or.inr (Or.inl ⟨source, listed source parent_eq, rfl⟩)
  | join operator name parent aliasName =>
      have parent_mem : { operator, name, parent, aliasName } ∈ placed :=
        JoinEntity.mem_of_isReady ready parent_eq
      exact Or.inr (Or.inr ⟨_, parent_mem, rfl⟩)
  | fetch operator name parent aliasName => simp [JoinEntity.isReady, parent_eq] at ready

end FromClause

namespace SearchSpec

variable {spec : SearchSpec} {options : Options} {root : EntityType} {clause : FromClause}

theorem mem_sources_iff (succeeds : (spec.fromClause options root).result = .ok clause)
    (source : DomainEntity) : source ∈ clause.sources ↔ .domain source ∈ spec.entities := by
  rw [fromClause_ok succeeds, List.mem_filterMap]
  constructor
  · rintro ⟨entity, entity_mem, entity_eq⟩
    cases entity with
    | domain other =>
        simp only [Entity.domain?, Option.some.injEq] at entity_eq
        rwa [← entity_eq]
    | join other => simp [Entity.domain?] at entity_eq
    | fetch other => simp [Entity.domain?] at entity_eq
  · intro listed
    exact ⟨_, listed, rfl⟩

/-- What qualifies a join or a fetch of a FROM clause has been introduced by then, be joins left over
or not: for a join, unless it hangs on an entity beside the root that is not listed, and for a
fetch, if its parent has a part in the clause. -/
theorem parents_introduced (options : Options) (root : EntityType) (spec : SearchSpec)
    (clause : FromClause) (succeeds : (spec.fromClause options root).result = .ok clause) :
    (Query.fromText options root spec).result = .ok clause.text ∧
      Mentions clause.text clause.mentions ∧
      (∀ source, source ∈ clause.sources ↔ .domain source ∈ spec.entities) ∧
      (∀ before join after, clause.joins = before ++ join :: after →
        (∀ source, join.parent = .domain source → .domain source ∈ spec.entities) →
          clause.Introduces before join.parent.aliasName) ∧
      ∀ fetch ∈ clause.fetches, clause.HasPart fetch.parent →
        clause.Introduces clause.joins fetch.parent.aliasName := by
  refine ⟨?_, clause.mentions_text, mem_sources_iff succeeds, ?_, ?_⟩
  · rw [Query.fromText, Compilation.result_bind, succeeds]
    rfl
  · intro before join after split listed
    have arranges := JoinOrder.arranges_ofJoins (spec.entities.filterMap Entity.join?)
      options.maxJoinPasses
    have joins_eq : clause.joins = (spec.joinOrder options).placed := by
      rw [fromClause_ok succeeds]
    have ready := arranges.sound before join after (joins_eq.symm.trans split)
    apply FromClause.introduces_of_isReady ready
    intro source parent_eq
    exact (mem_sources_iff succeeds source).mpr (listed source parent_eq)
  · intro fetch _ has_part
    exact FromClause.introduces_of_hasPart has_part

/-- A join behind its parent, which hangs on a listed source, and a fetch below it; a third join is
left out. -/
theorem parents_introduced_of_listed :
    let source : DomainEntity := { entityType := { typeName := "Role" }, aliasName := "r" }
    let parent : JoinEntity :=
      { operator := .inner, name := "groups", parent := .domain source, aliasName := "g" }
    let child : JoinEntity :=
      { operator := .left, name := "owner", parent := parent.toOwner, aliasName := "o" }
    let absent : JoinEntity := { operator := .left, name := "absent", aliasName := "x" }
    let stray : JoinEntity :=
      { operator := .left, name := "tags", parent := absent.toOwner, aliasName := "t" }
    let fetch : FetchJoin := { operator := .leftFetch, name := "tags", parent := child.toOwner }
    let spec : SearchSpec :=
      { entities := [.join child, .join stray, .join parent, .domain source], fetches := [fetch] }
    ∃ clause, (spec.fromClause { joinResolution := .lenient } { typeName := "T" }).result =
        .ok clause ∧
      clause.joins = [parent] ++ child :: [] ∧ fetch ∈ clause.fetches ∧
      clause.Introduces [] parent.parent.aliasName ∧
      clause.Introduces [parent] child.parent.aliasName ∧
      clause.Introduces clause.joins fetch.parent.aliasName := by
  intro source parent child absent stray fetch spec
  have succeeds : (spec.fromClause { joinResolution := .lenient } { typeName := "T" }).result =
      .ok { root := { typeName := "T" }, sources := [source], joins := [parent, child],
            fetches := [fetch] } := by
    rfl
  have introduced := parents_introduced { joinResolution := .lenient } { typeName := "T" } spec _
    succeeds
  refine ⟨_, succeeds, rfl, List.mem_cons_self, ?_, ?_, ?_⟩
  · apply introduced.2.2.2.1 [] parent [child] rfl
    rintro other ⟨⟩
    decide
  · apply introduced.2.2.2.1 [parent] child [] rfl
    rintro other ⟨⟩
  · apply introduced.2.2.2.2 fetch List.mem_cons_self
    exact List.mem_cons_of_mem _ List.mem_cons_self

/-- A join and a fetch below an entity that is not listed, a fetch below a join that is not listed, and
one below a fetch with an alias: nothing introduces what qualifies them. -/
theorem parents_not_introduced :
    let source : DomainEntity := { entityType := { typeName := "Role" }, aliasName := "r" }
    let join : JoinEntity :=
      { operator := .inner, name := "groups", parent := .domain source, aliasName := "g" }
    let absent : JoinEntity := { operator := .left, name := "absent", aliasName := "x" }
    let beside : FetchJoin := { operator := .leftFetch, name := "rights", parent := .domain source }
    let below : FetchJoin := { operator := .leftFetch, name := "tags", parent := absent.toOwner }
    let nested : FetchJoin :=
      { operator := .innerFetch, name := "owner",
        parent := .fetch .leftFetch "roles" .root (some "f") }
    let spec : SearchSpec := { entities := [.join join], fetches := [beside, below, nested] }
    ∃ clause, (spec.fromClause {} { typeName := "T" }).result = .ok clause ∧
      clause.text = " FROM T AS e INNER JOIN r.groups g LEFT JOIN FETCH r.rights " ++
        " LEFT JOIN FETCH x.tags  JOIN FETCH f.owner " ∧
      clause.joins = [] ++ join :: [] ∧ ¬clause.Introduces [] join.parent.aliasName ∧
      clause.fetches = [beside, below, nested] ∧
      ∀ fetch ∈ clause.fetches, ¬clause.Introduces clause.joins fetch.parent.aliasName := by
  refine ⟨_, rfl, ?_, rfl, ?_, rfl, ?_⟩ <;> decide

end SearchSpec

end ObjectQuery
