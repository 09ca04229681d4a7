import ObjectQuery.Proofs.JoinOrder.Occurrences
import ObjectQuery.Proofs.Query.Conflicts
import ObjectQuery.Proofs.Query.Placeholders

/-!
# Joins that are left out

Where joins may be left over, a query is the one that is made without them: taking the occurrences
that are left over out of the specification changes neither the clauses nor the first conflict, and
then no join is left over at all.
-/

namespace ObjectQuery

/-- A join proper, with its place among entities. -/
def Entity.numberedJoin? : Entity × ℕ → Option (JoinEntity × ℕ)
  | (entity, place) => entity.join?.map fun join => (join, place)

namespace Entity

theorem map_fst_numberedJoin? (entries : List (Entity × ℕ)) :
    (entries.filterMap numberedJoin?).map Prod.fst = (entries.map Prod.fst).filterMap join? := by
  rw [List.map_filterMap, List.filterMap_map]
  apply List.filterMap_congr
  rintro ⟨entity, place⟩ _
  simp only [numberedJoin?, Option.map_map, Function.comp_apply]
  cases entity.join? <;> rfl

theorem map_snd_numberedJoin?_sublist (entries : List (Entity × ℕ)) :
    ((entries.filterMap numberedJoin?).map Prod.snd).Sublist (entries.map Prod.snd) := by
  induction entries with
  | nil => exact List.Sublist.refl _
  | cons entry rest ih =>
      rcases entry with ⟨entity, place⟩
      cases join_eq : entity.join? with
      | none =>
          rw [List.filterMap_cons_none (by simp [numberedJoin?, join_eq])]
          exact ih.cons place
      | some join =>
          rw [List.filterMap_cons_some (b := (join, place)) (by simp [numberedJoin?, join_eq])]
          exact ih.cons_cons place

theorem filterMap_numberedJoin?_filter (entries : List (Entity × ℕ)) (keep : ℕ → Bool) :
    (entries.filter fun entry => keep entry.2).filterMap numberedJoin? =
      (entries.filterMap numberedJoin?).filter fun occurrence => keep occurrence.2 := by
  rw [List.filterMap_filter, List.filter_filterMap]
  apply List.filterMap_congr
  rintro ⟨entity, place⟩ _
  cases join_eq : entity.join? <;> simp [numberedJoin?, join_eq, Option.filter]

end Entity

namespace SearchSpec

variable (spec : SearchSpec) (passes : ℕ)

/-- The joins proper of a specification, with their places among its entities. -/
def numberedJoins : List (JoinEntity × ℕ) :=
  spec.entities.zipIdx.filterMap Entity.numberedJoin?

/-- The occurrences of joins that so many sweeps leave over. -/
def leftOver : List (JoinEntity × ℕ) :=
  (JoinOrder.Occurrences.ofJoins spec.numberedJoins passes).waiting

/-- The entities without the occurrences of joins that so many sweeps leave over, each with its
place. -/
def keptEntities : List (Entity × ℕ) :=
  spec.entities.zipIdx.filter fun entry => entry.2 ∉ (spec.leftOver passes).map Prod.snd

/-- The specification without the occurrences of joins that so many sweeps leave over. -/
def prune : SearchSpec :=
  { spec with entities := (spec.keptEntities passes).map Prod.fst }

theorem map_fst_numberedJoins :
    spec.numberedJoins.map Prod.fst = spec.entities.filterMap Entity.join? := by
  rw [numberedJoins, Entity.map_fst_numberedJoin?, List.zipIdx_map_fst]

/-- No two joins have one place. -/
theorem nodup_numberedJoins : (spec.numberedJoins.map Prod.snd).Nodup := by
  apply (Entity.map_snd_numberedJoin?_sublist spec.entities.zipIdx).nodup
  rw [List.zipIdx_map_snd]
  exact List.nodup_range'

/-- Numbered joins are ordered as the joins are. -/
theorem toOrder_numberedJoins (options : Options) :
    (JoinOrder.Occurrences.ofJoins spec.numberedJoins options.maxJoinPasses).toOrder =
      spec.joinOrder options := by
  rw [joinOrder, ← spec.map_fst_numberedJoins]
  exact JoinOrder.Occurrences.toOrder_extend _ _

theorem map_fst_leftOver (options : Options) :
    (spec.leftOver options.maxJoinPasses).map Prod.fst = (spec.joinOrder options).waiting :=
  congrArg JoinOrder.waiting (spec.toOrder_numberedJoins options)

theorem joins_prune :
    (spec.prune passes).entities.filterMap Entity.join? =
      (spec.numberedJoins.filter fun occurrence =>
        occurrence.2 ∉ (spec.leftOver passes).map Prod.snd).map Prod.fst := by
  rw [prune, ← Entity.map_fst_numberedJoin?, keptEntities]
  rw [Entity.filterMap_numberedJoin?_filter _
    fun place => place ∉ (spec.leftOver passes).map Prod.snd]
  rfl

/-- Without the joins that are left over, the others are placed as before. -/
theorem joinOrder_prune (options options' : Options)
    (passes_eq : options'.maxJoinPasses = options.maxJoinPasses) :
    (spec.prune options.maxJoinPasses).joinOrder options' =
      { placed := (spec.joinOrder options).placed } := by
  have filtered := JoinOrder.Occurrences.ofJoins_filter options.maxJoinPasses
    spec.nodup_numberedJoins
  have ordered := congrArg JoinOrder.Occurrences.toOrder filtered
  rw [JoinOrder.Occurrences.ofJoins, JoinOrder.Occurrences.toOrder_extend] at ordered
  rw [joinOrder, joins_prune, passes_eq, ← spec.toOrder_numberedJoins options]
  exact ordered

/-- One sweep places the second of two equal joins, since their parent stands between them. -/
example :
    let parent : JoinEntity := { operator := .left, name := "roles", aliasName := "r" }
    let child : JoinEntity :=
      { operator := .left, name := "owner", parent := parent.toOwner, aliasName := "o" }
    let spec : SearchSpec := { entities := [.join child, .join parent, .join child] }
    spec.leftOver 1 = [(child, 0)] ∧
      (spec.prune 1).joinOrder { maxJoinPasses := 1 } = { placed := [parent, child] } := by
  decide

theorem leftOver_subset : spec.leftOver passes ⊆ spec.numberedJoins := by
  intro occurrence occurrence_mem
  apply (JoinOrder.Occurrences.extend_perm { waiting := spec.numberedJoins } passes).subset
  exact List.mem_append_right _ occurrence_mem

/-- What is left over at some place is a join, so nothing else is taken out. -/
theorem domain?_eq_none_of_leftOver {entity : Entity} {place : ℕ}
    (listed : (entity, place) ∈ spec.entities.zipIdx)
    (left_over : place ∈ (spec.leftOver passes).map Prod.snd) : entity.domain? = none := by
  rcases List.mem_map.mp left_over with ⟨⟨join, _⟩, occurrence_mem, rfl⟩
  have numbered := spec.leftOver_subset passes occurrence_mem
  rcases List.mem_filterMap.mp numbered with ⟨⟨other, _⟩, other_listed, other_eq⟩
  rcases Option.map_eq_some_iff.mp other_eq with ⟨_, other_join, ⟨⟩⟩
  have same : entity = other := by
    rw [List.mk_mem_zipIdx_iff_getElem?] at listed other_listed
    exact Option.some.inj (listed.symm.trans other_listed)
  subst other
  cases entity with
  | domain source => simp [Entity.join?] at other_join
  | join source => rfl
  | fetch source => rfl

/-- What stands beside the root is never left over. -/
theorem domains_prune :
    (spec.prune passes).entities.filterMap Entity.domain? =
      spec.entities.filterMap Entity.domain? := by
  rw [prune, keptEntities, List.filterMap_map, List.filterMap_filter]
  conv => rhs; rw [← List.zipIdx_map_fst 0 spec.entities, List.filterMap_map]
  apply List.filterMap_congr
  rintro ⟨entity, place⟩ listed
  by_cases left_over : place ∈ (spec.leftOver passes).map Prod.snd
  · simp [left_over, spec.domain?_eq_none_of_leftOver passes listed left_over]
  · simp [left_over]

theorem not_unresolved_prune (options : Options) (error : CompileError) :
    ¬(spec.prune options.maxJoinPasses).Unresolved options error := by
  rintro ⟨-, waiting, -⟩
  apply waiting
  rw [spec.joinOrder_prune options options rfl]

/-- With joins left over, the FROM clause is the one of the specification without them. -/
theorem result_fromClause_prune (options : Options) (root : EntityType) :
    (spec.fromClause { options with joinResolution := .lenient } root).result =
      ((spec.prune options.maxJoinPasses).fromClause
        { options with joinResolution := .strict } root).result := by
  have lenient_ok :=
    (@exists_fromClause_ok_iff spec { options with joinResolution := .lenient } root).mpr
      (by rintro error ⟨⟨⟩, -, -⟩)
  have strict_ok := (exists_fromClause_ok_iff root).mpr
    (spec.not_unresolved_prune { options with joinResolution := .strict })
  rcases lenient_ok with ⟨clause, lenient_ok⟩
  rcases strict_ok with ⟨clause', strict_ok⟩
  rw [lenient_ok, strict_ok, fromClause_ok lenient_ok, fromClause_ok strict_ok, domains_prune,
    spec.joinOrder_prune { options with joinResolution := .lenient }
      { options with joinResolution := .strict } rfl]
  rfl

end SearchSpec

theorem Criteria.FirstConflict.ne_unresolvedJoins {start : Parameters} {steps : List Step}
    {error : CompileError} (conflict : FirstConflict start steps error) (aliasNames : List String)
    (passes : ℕ) : error ≠ .unresolvedJoins aliasNames passes := by
  induction conflict with
  | here raises =>
      cases raises
      simp
  | later passes behind ih => exact ih

namespace Query

variable (options : Options) (root : EntityType) (spec : SearchSpec)

theorem result_select_prune (projection : Projection) (orders : List Order) :
    (select { options with joinResolution := .lenient } root spec projection orders).result =
      (select { options with joinResolution := .strict } root (spec.prune options.maxJoinPasses)
        projection orders).result := by
  simp only [select, Compilation.result_bind, spec.result_fromClause_prune options root]
  rfl

theorem result_select_prune_ne (projection : Projection) (orders : List Order)
    (aliasNames : List String) (passes : ℕ) :
    (select options root (spec.prune options.maxJoinPasses) projection orders).result ≠
      .error (.unresolvedJoins aliasNames passes) := by
  rw [ne_eq, select_eq_error_iff]
  rintro (unresolved | ⟨-, conflict⟩)
  · exact spec.not_unresolved_prune options _ unresolved
  · exact conflict.ne_unresolvedJoins aliasNames passes rfl

/-- A statement that is made is only noted, which does not fail. -/
theorem logged_ne {made : Compilation (Select × Parameters)} {error : CompileError}
    (not_failed : made.result ≠ .error error) (operation : Operation) :
    (do
      let (statement, parameters) ← made
      logged operation { text := statement.text, parameters }).result ≠ .error error := by
  rw [ne_eq, Compilation.result_bind_eq_error_iff]
  simpa only [not_logged_eq_error, and_false, exists_false, or_false] using not_failed

/-- A query that leaves joins out is the strict query without the occurrences that are left over, be
it with a result or with the first conflict, and there no join is left over. -/
theorem lenient_eq_strict_prune :
    let lenient : Options := { options with joinResolution := .lenient }
    let strict : Options := { options with joinResolution := .strict }
    let pruned := spec.prune options.maxJoinPasses
    (spec.leftOver options.maxJoinPasses).map Prod.fst = (spec.joinOrder lenient).waiting ∧
      (find lenient root spec).result = (find strict root pruned).result ∧
      (count lenient root spec).result = (count strict root pruned).result ∧
      (∀ function field, (aggregate lenient root spec function field).result =
        (aggregate strict root pruned function field).result) ∧
      (fromText lenient root spec).result = (fromText strict root pruned).result ∧
      ∀ aliasNames passes,
        (find strict root pruned).result ≠ .error (.unresolvedJoins aliasNames passes) ∧
        (count strict root pruned).result ≠ .error (.unresolvedJoins aliasNames passes) ∧
        (∀ function field, (aggregate strict root pruned function field).result ≠
          .error (.unresolvedJoins aliasNames passes)) ∧
        (fromText strict root pruned).result ≠ .error (.unresolvedJoins aliasNames passes) := by
  intro lenient strict pruned
  -- Counting leaves the entities as they are, so it does not matter which comes first.
  have counted_eq : (if pruned.fetches.isEmpty then pruned else pruned.countSpec) =
      (if spec.fetches.isEmpty then spec else spec.countSpec).prune options.maxJoinPasses := by
    change (if spec.fetches.isEmpty then pruned else pruned.countSpec) = _
    split <;> rfl
  refine ⟨spec.map_fst_leftOver lenient, ?_, ?_, ?_, ?_, ?_⟩
  · simp only [find, Compilation.result_bind]
    rw [result_select_prune]
    rfl
  · simp only [count, Compilation.result_bind]
    rw [result_select_prune, counted_eq]
  · intro function field
    simp only [aggregate, Compilation.result_bind]
    rw [result_select_prune]
    rfl
  · simp only [fromText, Compilation.result_bind]
    rw [SearchSpec.result_fromClause_prune]
  · intro aliasNames passes
    refine ⟨?_, ?_, ?_, ?_⟩
    · exact logged_ne (result_select_prune_ne strict root spec _ _ aliasNames passes) .find
    · rw [count, counted_eq]
      exact logged_ne (result_select_prune_ne strict root _ _ _ aliasNames passes) .count
    · intro function field
      exact logged_ne (result_select_prune_ne strict root spec _ _ aliasNames passes) .aggregate
    · rw [ne_eq, fromText, Compilation.result_bind_eq_error_iff]
      simp only [Compilation.result_pure, reduceCtorEq, and_false, exists_false, or_false,
        SearchSpec.fromClause_eq_error_iff]
      exact spec.not_unresolved_prune strict _

end Query

end ObjectQuery
