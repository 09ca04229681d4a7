import Mathlib.Data.List.Induction
import ObjectQuery.Proofs.Criteria.Mentions
import ObjectQuery.Proofs.Query.Conflicts
import ObjectQuery.Proofs.Query.Placeholders

/-!
# Aliases in scope

A statement names fields by the aliases of their owners, and the FROM clause is where aliases are
introduced. If every owner is listed with the specification, and joins must not be left over, then a
statement that is found names no field before the alias of its owner is known.
-/

namespace ObjectQuery

def DomainEntity.mentions (source : DomainEntity) : List Mention :=
  [.verbatim source.entityType.typeName, .introduced source.aliasName]

/-- A join is navigated along a property and introduces an alias. -/
def JoinEntity.mentions (join : JoinEntity) : List Mention :=
  [.path join.property, .introduced join.aliasName]

theorem DomainEntity.mentions_text (source : DomainEntity) :
    Mentions source.text source.mentions :=
  ((Mentions.ofVerbatim source.entityType.typeName).words (by decide)).followed (by decide)
    |>.append (.ofAlias source.aliasName)

theorem JoinOperator.noPath_keyword (operator : JoinOperator) :
    NoPath (" " ++ operator.keyword ++ " ") := by
  cases operator <;> decide

theorem JoinEntity.mentions_text (join : JoinEntity) : Mentions join.text join.mentions :=
  ((Mentions.ofPath join.property).words join.operator.noPath_keyword).followed (by decide)
    |>.append (.ofAlias join.aliasName)

theorem JoinEntity.introduced_mem {join : JoinEntity} {joins : List JoinEntity}
    (join_mem : join ∈ joins) :
    .introduced join.aliasName ∈ joins.flatMap JoinEntity.mentions :=
  List.mem_flatMap.mpr ⟨join, join_mem, List.mem_cons_of_mem _ List.mem_cons_self⟩

theorem FetchJoin.mentions_text (fetch : FetchJoin) :
    Mentions fetch.text [.path fetch.property] :=
  ((Mentions.ofPath fetch.property).words fetch.operator.noPath_keyword).followed (by decide)

theorem Order.mentions_text (order : Order) : Mentions order.text [.path order.field] := by
  have no_path : NoPath order.direction.keyword := by cases order.direction <;> decide
  exact ((Mentions.ofPath order.field).followed (by decide)).followed no_path

theorem Order.mentions_clauseText (orders : List Order) :
    Mentions (Order.clauseText orders) (orders.map fun order => .path order.field) := by
  have each : List.Forall₂ Mentions (orders.map Order.text)
      (orders.map fun order => [.path order.field]) := by
    rw [List.forall₂_map_left_iff, List.forall₂_map_right_iff, List.forall₂_same]
    intro order _
    exact order.mentions_text
  have divider : NoPath ", " := by decide
  have mentioned := Mentions.intercalate divider each
  rw [← List.flatMap_def, ← List.map_eq_flatMap] at mentioned
  unfold Order.clauseText
  split
  · next none =>
      rw [List.isEmpty_iff] at none
      subst none
      exact .empty
  · exact mentioned.words (by decide)

namespace FromClause

variable (clause : FromClause)

/-- The root and the sources beside it. -/
def sourceMentions : List Mention :=
  [.verbatim clause.root.logicalName, .introduced rootAlias] ++
    clause.sources.flatMap DomainEntity.mentions

/-- What a clause mentions: sources, joins and fetches, in the order of its text. -/
def mentions : List Mention :=
  clause.sourceMentions ++ clause.joins.flatMap JoinEntity.mentions ++
    clause.fetches.map fun fetch => .path fetch.property

theorem root_mem_sourceMentions : .introduced rootAlias ∈ clause.sourceMentions :=
  List.mem_cons_of_mem _ List.mem_cons_self

theorem mentions_text : Mentions clause.text clause.mentions := by
  have root_mentions := ((Mentions.ofVerbatim clause.root.logicalName).words
    (show NoPath " FROM " by decide)).followed (show NoPath " AS " by decide)
      |>.append (.ofAlias rootAlias)
  have sources_mention := Mentions.join DomainEntity.mentions_text clause.sources
  have joins_mention := Mentions.join JoinEntity.mentions_text clause.joins
  have fetches_mention := Mentions.join FetchJoin.mentions_text clause.fetches
  have mentioned :=
    ((root_mentions.append sources_mention).append joins_mention).append fetches_mention
  rw [← List.map_eq_flatMap] at mentioned
  exact mentioned

end FromClause

namespace SearchSpec

variable {spec : SearchSpec} {options : Options} {root : EntityType} {clause : FromClause}

/-- An owner is the root, or it is listed as a source beside the root or as a join proper. -/
def Lists (spec : SearchSpec) (owner : Owner) : Prop :=
  ∀ entity, owner.toEntity? = some entity →
    entity ∈ spec.entities ∧ (entity.domain?.isSome ∨ entity.join?.isSome)

/-- The owners that a specification refers to are listed with it. -/
structure ListsOwners (spec : SearchSpec) : Prop where
  leaves : ∀ leaf ∈ Criteria.allLeaves spec.criteria, ∀ field ∈ leaf.fields, spec.Lists field.owner
  fragments : ∀ leaf ∈ Criteria.allFragments spec.criteria, ∀ placeholder ∈ leaf.placeholders,
    spec.Lists placeholder.2.owner
  orders : ∀ order ∈ spec.orders, spec.Lists order.field.owner
  fetches : ∀ fetch ∈ spec.fetches, spec.Lists fetch.parent
  joins : ∀ join ∈ spec.entities.filterMap Entity.join?, ∀ source, join.parent = .domain source →
    spec.Lists join.parent

/-- The owners of the fields that conditions and orders name are listed. -/
theorem ListsOwners.mentioned (listed : spec.ListsOwners) (root : EntityType) (options : Options) :
    ∀ field, .path field ∈ Criteria.allMentions options.emptyList spec.criteria ++
      (root.completeOrders spec.orders).map (fun order => .path order.field) →
        spec.Lists field.owner := by
  intro field field_mem
  rcases List.mem_append.mp field_mem with in_criteria | in_orders
  · exact Criteria.forall_path_mem_allMentions _ listed.leaves listed.fragments field in_criteria
  · rcases List.mem_map.mp in_orders with ⟨order, order_mem, ⟨⟩⟩
    unfold EntityType.completeOrders at order_mem
    split at order_mem
    · exact listed.orders order order_mem
    · rcases List.mem_append.mp order_mem with given | tiebreaker
      · exact listed.orders order given
      · rw [List.mem_singleton.mp tiebreaker]
        rintro entity ⟨⟩

theorem waiting_eq_nil (strict : options.joinResolution = .strict)
    (succeeds : (spec.fromClause options root).result = .ok clause) :
    (spec.joinOrder options).waiting = [] := by
  by_contra waiting
  exact (exists_fromClause_ok_iff root).mp ⟨clause, succeeds⟩ _ ⟨strict, waiting, rfl⟩

theorem mem_sourceMentions {source : DomainEntity}
    (succeeds : (spec.fromClause options root).result = .ok clause)
    (listed : spec.Lists (.domain source)) :
    .introduced source.aliasName ∈ clause.sourceMentions := by
  have source_mem : source ∈ spec.entities.filterMap Entity.domain? :=
    List.mem_filterMap.mpr ⟨_, (listed _ rfl).1, rfl⟩
  rw [fromClause_ok succeeds]
  apply List.mem_append_right
  exact List.mem_flatMap.mpr ⟨source, source_mem, List.mem_cons_of_mem _ List.mem_cons_self⟩

theorem mem_joins {join : JoinEntity} (strict : options.joinResolution = .strict)
    (succeeds : (spec.fromClause options root).result = .ok clause)
    (listed : spec.Lists join.toOwner) : join ∈ clause.joins := by
  rcases listed _ rfl with ⟨entity_mem, proper⟩
  have join_mem : join ∈ spec.entities.filterMap Entity.join? := by
    refine List.mem_filterMap.mpr ⟨_, entity_mem, ?_⟩
    simpa [Entity.domain?, Entity.join?] using proper
  have arranges := JoinOrder.arranges_ofJoins (spec.entities.filterMap Entity.join?)
    options.maxJoinPasses
  rw [fromClause_ok succeeds]
  refine (arranges.mem_iff.mp join_mem).resolve_right ?_
  rw [← joinOrder, waiting_eq_nil strict succeeds]
  exact List.not_mem_nil

/-- The alias of an owner that is listed is introduced, before the first fetch. -/
theorem introduced_of_lists {owner : Owner} (strict : options.joinResolution = .strict)
    (succeeds : (spec.fromClause options root).result = .ok clause) (listed : spec.Lists owner) :
    .introduced owner.aliasName ∈
      clause.sourceMentions ++ clause.joins.flatMap JoinEntity.mentions := by
  cases owner with
  | root => exact List.mem_append_left _ clause.root_mem_sourceMentions
  | domain source => exact List.mem_append_left _ (mem_sourceMentions succeeds listed)
  | join operator name parent aliasName =>
      have join_mem : { operator, name, parent, aliasName } ∈ clause.joins :=
        mem_joins strict succeeds listed
      exact List.mem_append_right _ (JoinEntity.introduced_mem join_mem)
  | fetch operator name parent aliasName =>
      have proper := (listed _ rfl).2
      simp [Entity.domain?, Entity.join?] at proper

end SearchSpec

section Joins

variable {known : List Mention} {placed : List JoinEntity}

theorem introduced_of_isReady {join : JoinEntity} (ready : join.isReady placed = true)
    (root_known : .introduced rootAlias ∈ known)
    (source_known : ∀ source, join.parent = .domain source →
      .introduced source.aliasName ∈ known) :
    .introduced join.parent.aliasName ∈ known ++ placed.flatMap JoinEntity.mentions := by
  cases parent_eq : join.parent with
  | root => exact List.mem_append_left _ root_known
  | domain source => exact List.mem_append_left _ (source_known source parent_eq)
  | join operator name parent aliasName =>
      have parent_mem : { operator, name, parent, aliasName } ∈ placed :=
        JoinEntity.mem_of_isReady ready parent_eq
      exact List.mem_append_right _ (JoinEntity.introduced_mem parent_mem)
  | fetch operator name parent aliasName => simp [JoinEntity.isReady, parent_eq] at ready

/-- Joins that are each ready after those before them navigate from aliases that are known. -/
theorem InScope.joins (in_scope : InScope known) (sound : JoinOrder.Sound placed)
    (root_known : .introduced rootAlias ∈ known)
    (sources_known : ∀ join ∈ placed, ∀ source, join.parent = .domain source →
      .introduced source.aliasName ∈ known) :
    InScope (known ++ placed.flatMap JoinEntity.mentions) := by
  induction placed using List.reverseRecOn with
  | nil => simpa using in_scope
  | append_singleton before join ih =>
      rw [List.forall_mem_append, List.forall_mem_singleton] at sources_known
      have before_sound : JoinOrder.Sound before := by
        intro earlier other later split
        apply sound earlier other (later ++ [join])
        simp [split]
      have ready : join.isReady before = true := sound before join [] rfl
      have parent_known := introduced_of_isReady ready root_known sources_known.2
      rw [List.flatMap_append, List.flatMap_singleton, ← List.append_assoc]
      apply (ih before_sound sources_known.1).append
      intro field field_mem
      simp only [JoinEntity.mentions, List.mem_cons, Mention.path.injEq, reduceCtorEq,
        List.not_mem_nil, or_false] at field_mem
      rw [field_mem]
      exact parent_known

end Joins

namespace SearchSpec

variable {spec : SearchSpec} {options : Options} {root : EntityType} {clause : FromClause}

theorem inScope_fromClause (strict : options.joinResolution = .strict) (listed : spec.ListsOwners)
    (succeeds : (spec.fromClause options root).result = .ok clause) : InScope clause.mentions := by
  have arranges := JoinOrder.arranges_ofJoins (spec.entities.filterMap Entity.join?)
    options.maxJoinPasses
  have clause_eq := fromClause_ok succeeds
  have joins_sound : JoinOrder.Sound clause.joins := by
    rw [clause_eq]
    exact arranges.sound
  have sources_known : ∀ join ∈ clause.joins, ∀ source, join.parent = .domain source →
      .introduced source.aliasName ∈ clause.sourceMentions := by
    intro join join_mem source parent_eq
    rw [clause_eq] at join_mem
    have join_listed := arranges.mem_iff.mpr (Or.inl join_mem)
    have parent_listed := listed.joins join join_listed source parent_eq
    rw [parent_eq] at parent_listed
    exact mem_sourceMentions succeeds parent_listed
  have sources_in_scope : InScope clause.sourceMentions := by
    rw [← List.nil_append clause.sourceMentions]
    apply InScope.nil.append
    simp [FromClause.sourceMentions, DomainEntity.mentions]
  have joins_in_scope :=
    sources_in_scope.joins joins_sound clause.root_mem_sourceMentions sources_known
  apply joins_in_scope.append
  intro field field_mem
  rcases List.mem_map.mp field_mem with ⟨fetch, fetch_mem, ⟨⟩⟩
  rw [clause_eq] at fetch_mem
  exact introduced_of_lists strict succeeds (listed.fetches fetch fetch_mem)

end SearchSpec

namespace Query

/-- A query that is found with joins resolved names each field by the alias of the root or by one
that its FROM clause has introduced before. -/
theorem aliases_in_scope (options : Options) (root : EntityType) (spec : SearchSpec) (query : Query)
    (strict : options.joinResolution = .strict) (listed : spec.ListsOwners)
    (found : (find options root spec).result = .ok query) :
    ∃ clause, (spec.fromClause options root).result = .ok clause ∧
      let mentions := clause.mentions ++ (Criteria.allMentions options.emptyList spec.criteria ++
        (root.completeOrders spec.orders).map fun order => .path order.field)
      Mentions query.text mentions ∧ InScope mentions := by
  rcases Compilation.result_bind_eq_ok_iff.mp found with
    ⟨⟨statement, parameters⟩, selected, logs⟩
  rcases select_ok selected with ⟨projection_eq, orders_eq, from_ok, run⟩
  refine ⟨statement.sources, from_ok, ?_, ?_⟩
  · have no_path : NoPath ("SELECT " ++ statement.projection.text) := by
      rw [projection_eq]
      cases spec.distinct <;> decide
    have mentioned := ((statement.sources.mentions_text.words no_path).append
      run.mentions_whereText).append (Order.mentions_clauseText statement.orders)
    rw [logged_ok logs, ← orders_eq, ← List.append_assoc]
    exact mentioned
  · apply (SearchSpec.inScope_fromClause strict listed from_ok).append
    intro field field_mem
    apply List.mem_append_left
    exact SearchSpec.introduced_of_lists strict from_ok
      (listed.mentioned root options field field_mem)

/-- Joins listed before their parents, a source beside the root, a fetch below a join, and a
fragment with a placeholder. -/
theorem aliases_in_scope_of_joins :
    let source : DomainEntity := { entityType := { typeName := "Role" }, aliasName := "r" }
    let parent : JoinEntity :=
      { operator := .inner, name := "groups", parent := .domain source, aliasName := "g" }
    let child : JoinEntity :=
      { operator := .left, name := "owner", parent := parent.toOwner, aliasName := "o" }
    let id : Field := { name := "id", owner := .domain source }
    let size : Field := { name := "size", owner := parent.toOwner }
    let name : Field := { name := "name", owner := child.toOwner }
    let fragment : PersonalCriteria := { query := "$size > 3", placeholders := [("$size", size)] }
    let spec : SearchSpec := {
      criteria := [.conditional ⟨{ name := "role" }, .compareField .eq id⟩,
        .not (.personal fragment), .conditional ⟨name, .null⟩]
      orders := [{ field := name }]
      entities := [.join child, .join parent, .domain source]
      fetches := [{ operator := .leftFetch, name := "tags", parent := child.toOwner }] }
    ∃ query clause mentions, (find {} { typeName := "T" } spec).result = .ok query ∧
      (spec.fromClause {} { typeName := "T" }).result = .ok clause ∧
      mentions = clause.mentions ++ ([{ name := "role" }, id, size].map .path ++
        [.verbatim " ", .verbatim ">", .verbatim " ", .verbatim "3"] ++
        [name, name, { name := "id" }].map .path) ∧
      Mentions query.text mentions ∧ InScope mentions := by
  intro source parent child id size name fragment spec
  have root_listed : spec.Lists .root := by
    rintro entity ⟨⟩
  have source_listed : spec.Lists (.domain source) := by
    rintro entity ⟨⟩
    decide
  have parent_listed : spec.Lists parent.toOwner := by
    rintro entity ⟨⟩
    decide
  have child_listed : spec.Lists child.toOwner := by
    rintro entity ⟨⟩
    decide
  have listed : spec.ListsOwners := by
    refine ⟨?_, ?_, ?_, ?_, ?_⟩
    · change ∀ leaf ∈ [_, _], ∀ field ∈ Conditional.fields leaf, _
      simpa [Conditional.fields, id, name] using ⟨⟨root_listed, source_listed⟩, child_listed⟩
    · change ∀ leaf ∈ [fragment], _
      simpa [fragment, size] using parent_listed
    · simpa [spec, name] using child_listed
    · simpa [spec] using child_listed
    · change ∀ join ∈ [child, parent], _
      rw [List.forall_mem_cons, List.forall_mem_singleton]
      refine ⟨?_, ?_⟩
      · rintro other ⟨⟩
      · intro other _
        exact source_listed
  have found : ∃ query, (find {} { typeName := "T" } spec).result = .ok query := by
    simp only [spec, source, parent, child, fragment, id, size, name]
    exact ⟨_, rfl⟩
  rcases found with ⟨query, found⟩
  rcases aliases_in_scope {} _ spec query rfl listed found with
    ⟨clause, from_ok, mentioned, in_scope⟩
  refine ⟨query, clause, _, found, from_ok, ?_, mentioned, in_scope⟩
  congr 1
  decide

end Query

end ObjectQuery
