import ObjectQuery.Statement.From

/-!
# The outcome of a FROM clause

What a FROM clause is made of does not depend on the joins that are left over. They decide whether
there is a clause at all, and what is noted last.
-/

namespace ObjectQuery.SearchSpec

section Settling

variable {options : Options} {waiting : List JoinEntity}

theorem settle_nil (options : Options) : settle options [] = { log := [], result := .ok () } :=
  rfl

theorem settle_of_strict (strict : options.joinResolution = .strict) (some_left : waiting ≠ []) :
    settle options waiting = {
      log := []
      result := .error (.unresolvedJoins (waiting.map JoinEntity.aliasName)
        options.maxJoinPasses) } := by
  rw [settle, if_neg (by simpa using some_left), strict]
  rfl

theorem settle_of_lenient (lenient : options.joinResolution = .lenient)
    (some_left : waiting ≠ []) :
    settle options waiting = {
      log := [.droppedJoins (waiting.map JoinEntity.aliasName) options.maxJoinPasses]
      result := .ok () } := by
  rw [settle, if_neg (by simpa using some_left), lenient]
  rfl

end Settling

/-- The clause, given what is done about the joins that are left over. -/
theorem fromClause_eq (spec : SearchSpec) (options : Options) (root : EntityType) :
    spec.fromClause options root = {
      log := spec.entities.filterMap Entity.stray? ++
        (settle options (spec.joinOrder options).waiting).log
      result := (settle options (spec.joinOrder options).waiting).result.map fun _ =>
        { root, sources := spec.entities.filterMap Entity.domain?
          joins := (spec.joinOrder options).placed, fetches := spec.fetches } } := by
  have emitted (events : List LogEvent) (next : Unit → Compilation FromClause) :
      Compilation.emit events >>= next =
        { log := events ++ (next ()).log, result := (next ()).result } := rfl
  rw [fromClause, emitted]
  cases settled : (settle options (spec.joinOrder options).waiting).result with
  | ok u => simp [Compilation.bind_of_ok settled, Except.map]
  | error error => simp [Compilation.bind_of_error settled, Except.map]

end ObjectQuery.SearchSpec
