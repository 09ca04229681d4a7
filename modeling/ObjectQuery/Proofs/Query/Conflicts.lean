import ObjectQuery.Proofs.Criteria.Conflicts
import ObjectQuery.Proofs.Statement.From
import ObjectQuery.Query

/-!
# Why there is no query

A query is refused for two reasons. Joins may be left over where that is not allowed, which is found
out first, and the walk over the criteria may meet a conflict. Nothing else fails, and an update has
no joins to order.
-/

namespace ObjectQuery

namespace SearchSpec

variable {spec : SearchSpec} {options : Options} {root : EntityType} {error : CompileError}

/-- Joins are left over, and they must not be. -/
structure Unresolved (spec : SearchSpec) (options : Options) (error : CompileError) : Prop where
  strict : options.joinResolution = .strict
  waiting : (spec.joinOrder options).waiting ≠ []
  error_eq : error = .unresolvedJoins ((spec.joinOrder options).waiting.map JoinEntity.aliasName)
    options.maxJoinPasses

theorem settle_eq_error_iff {waiting : List JoinEntity} :
    (settle options waiting).result = .error error ↔
      options.joinResolution = .strict ∧ waiting ≠ [] ∧
        error = .unresolvedJoins (waiting.map JoinEntity.aliasName) options.maxJoinPasses := by
  by_cases none_left : waiting = []
  · simp [none_left, settle_nil]
  · cases resolution : options.joinResolution with
    | strict => simp [settle_of_strict resolution none_left, none_left, eq_comm]
    | lenient => simp [settle_of_lenient resolution none_left]

theorem fromClause_eq_error_iff :
    (spec.fromClause options root).result = .error error ↔ spec.Unresolved options error := by
  simp only [fromClause, Compilation.result_bind_eq_error_iff, Compilation.result_emit,
    Compilation.result_pure, settle_eq_error_iff, reduceCtorEq, and_false, exists_const, or_false,
    false_or, true_and]
  constructor
  · rintro ⟨strict, waiting, error_eq⟩
    exact ⟨strict, waiting, error_eq⟩
  · rintro ⟨strict, waiting, error_eq⟩
    exact ⟨strict, waiting, error_eq⟩

theorem exists_fromClause_ok_iff (root : EntityType) :
    (∃ clause, (spec.fromClause options root).result = .ok clause) ↔
      ∀ error, ¬spec.Unresolved options error := by
  have fails_iff (error : CompileError) :
      (spec.fromClause options root).result = .error error ↔ spec.Unresolved options error :=
    fromClause_eq_error_iff
  simp only [← fails_iff]
  cases (spec.fromClause options root).result with
  | ok clause => simp
  | error error => simp

/-- Why nothing is selected: joins that are left over, or else the first conflict of the
criteria. -/
def Refuses (spec : SearchSpec) (options : Options) (error : CompileError) : Prop :=
  spec.Unresolved options error ∨
    (∀ other, ¬spec.Unresolved options other) ∧
      Criteria.FirstConflict {} (Criteria.allSteps spec.criteria) error

end SearchSpec

theorem Criteria.not_firstConflict {criteria : List Criteria}
    (no_fragments : allFragments criteria = []) (start : Parameters) (error : CompileError) :
    ¬FirstConflict start (allSteps criteria) error := by
  intro conflict
  rcases bindAll_succeeds .alwaysFalse start criteria no_fragments with ⟨outcome, succeeds⟩
  have fails := (bindAll_eq_error_iff .alwaysFalse).mpr conflict
  rw [succeeds] at fails
  cases fails

namespace Query

variable {options : Options} {root : EntityType} {spec : SearchSpec} {error : CompileError}

theorem select_eq_error_iff {projection : Projection} {orders : List Order} :
    (select options root spec projection orders).result = .error error ↔
      spec.Refuses options error := by
  simp only [select, Compilation.result_bind_eq_error_iff, Compilation.result_pure, reduceCtorEq,
    and_false, exists_false, or_false, SearchSpec.fromClause_eq_error_iff,
    Criteria.bindAll_eq_error_iff, exists_and_right, SearchSpec.exists_fromClause_ok_iff]
  rfl

theorem not_logged_eq_error (operation : Operation) (query : Query) :
    (logged operation query).result ≠ .error error := by
  have succeeds : (logged operation query).result = .ok query := rfl
  rw [succeeds]
  intro fails
  cases fails

/-- A query is refused exactly if joins are left over that must not be, or else the walk over its
criteria meets a conflict, and the error is that of the first one. An update walks on from what its
new values have bound. Criteria without fragments meet no conflict. -/
theorem fails_iff_firstConflict (options : Options) (root : EntityType) (spec : SearchSpec)
    (error : CompileError) :
    (∀ start criteria, (Criteria.bindAll options.emptyList start criteria).result = .error error ↔
        Criteria.FirstConflict start (Criteria.allSteps criteria) error) ∧
      ((whereClause options spec).result = .error error ↔
        Criteria.FirstConflict {} (Criteria.allSteps spec.criteria) error) ∧
      ((find options root spec).result = .error error ↔ spec.Refuses options error) ∧
      ((count options root spec).result = .error error ↔
        (if spec.fetches.isEmpty then spec else spec.countSpec).Refuses options error) ∧
      (∀ function field, (aggregate options root spec function field).result = .error error ↔
        spec.Refuses options error) ∧
      (∀ attributes, (update options root spec attributes).result = .error error ↔
        Criteria.FirstConflict (bindAttributes {} attributes).2 (Criteria.allSteps spec.criteria)
          error) ∧
      ∀ start criteria, Criteria.allFragments criteria = [] →
        ¬Criteria.FirstConflict start (Criteria.allSteps criteria) error := by
  refine ⟨?_, ?_, ?_, ?_, ?_, ?_, ?_⟩
  · intro start criteria
    exact Criteria.bindAll_eq_error_iff options.emptyList
  · simp only [whereClause, Compilation.result_bind_eq_error_iff, Compilation.result_pure,
      reduceCtorEq, and_false, exists_false, or_false, Criteria.bindAll_eq_error_iff]
  · simp only [find, Compilation.result_bind_eq_error_iff, not_logged_eq_error, and_false,
      exists_false, or_false, select_eq_error_iff]
  · simp only [count, Compilation.result_bind_eq_error_iff, not_logged_eq_error, and_false,
      exists_false, or_false, select_eq_error_iff]
  · intro function field
    simp only [aggregate, Compilation.result_bind_eq_error_iff, not_logged_eq_error, and_false,
      exists_false, or_false, select_eq_error_iff]
  · intro attributes
    simp only [update, Compilation.result_bind_eq_error_iff, not_logged_eq_error, and_false,
      exists_false, or_false, Criteria.bindAll_eq_error_iff]
  · intro start criteria no_fragments
    exact Criteria.not_firstConflict no_fragments start error

/-- Two fragments that ask for one name disagree, the second of them within a negation. -/
example :
    let low : PersonalCriteria := { query := "e.age > :min", parameters := [("min", .int 1)] }
    let high : PersonalCriteria := { query := "e.rank > :min", parameters := [("min", .int 99)] }
    (whereClause {} { criteria := [.personal low, .not (.group .or [.personal high])] }).result =
      .error (.conflictingParameter "min" (.int 1) (.int 99)) := by
  rfl

end Query

end ObjectQuery
