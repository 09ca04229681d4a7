import ObjectQuery.Proofs.Criteria.Run
import ObjectQuery.Query

/-!
# Fragments that opt out of counting

A fragment that opted out has no part in the count of a specification with fetches if it stands in
the list of criteria itself. Within a negation or a group nobody looks for it, so it stays.
-/

namespace ObjectQuery

namespace Criteria

/-- The fragments within a negation or a group, at any depth. -/
def innerFragments : Criteria → List PersonalCriteria
  | .conditional _ | .personal _ => []
  | .not criteria => criteria.fragments
  | .group _ members => allFragments members

/-- Two lists of criteria that are the same but for fragments in them that opted out of counting. -/
inductive AgreeInCount : List Criteria → List Criteria → Prop where
  | nil : AgreeInCount [] []
  | cons (criteria : Criteria) {rest rest' : List Criteria} (tail : AgreeInCount rest rest') :
      AgreeInCount (criteria :: rest) (criteria :: rest')
  | left {leaf : PersonalCriteria} {rest rest' : List Criteria}
      (opted_out : leaf.appliesInCount = false) (tail : AgreeInCount rest rest') :
      AgreeInCount (.personal leaf :: rest) rest'
  | right {leaf : PersonalCriteria} {rest rest' : List Criteria}
      (opted_out : leaf.appliesInCount = false) (tail : AgreeInCount rest rest') :
      AgreeInCount rest (.personal leaf :: rest')

/-- What is counted of two such lists is the same. -/
theorem AgreeInCount.filter_eq {criteria others : List Criteria}
    (agree : AgreeInCount criteria others) :
    criteria.filter appliesInCount = others.filter appliesInCount := by
  induction agree with
  | nil => rfl
  | cons criteria tail ih => rw [List.filter_cons, List.filter_cons, ih]
  | left opted_out tail ih =>
      rw [List.filter_cons_of_neg (by simp [appliesInCount, opted_out]), ih]
  | right opted_out tail ih =>
      rw [List.filter_cons_of_neg (by simp [appliesInCount, opted_out]), ih]

theorem mem_allFragments {leaf : PersonalCriteria} {criteria : List Criteria} :
    leaf ∈ allFragments criteria ↔ ∃ member ∈ criteria, leaf ∈ member.fragments := by
  induction criteria with
  | nil => simp [allFragments]
  | cons first rest ih => simp [allFragments, ih]

/-- All fragments of criteria that are counted apply if those within them do. -/
theorem forall_fragments_iff {criteria : Criteria} (applies : criteria.appliesInCount = true) :
    (∀ leaf ∈ criteria.fragments, leaf.appliesInCount = true) ↔
      ∀ leaf ∈ criteria.innerFragments, leaf.appliesInCount = true := by
  cases criteria with
  | conditional leaf => rfl
  | not criteria => rfl
  | group operator members => rfl
  | personal leaf => simpa [fragments, innerFragments, appliesInCount] using applies

theorem innerFragments_of_not_applies {criteria : Criteria}
    (opted_out : ¬criteria.appliesInCount = true) : criteria.innerFragments = [] := by
  cases criteria with
  | personal leaf => rfl
  | _ => simp [appliesInCount] at opted_out

end Criteria

namespace SearchSpec

variable (spec : SearchSpec)

/-- All fragments that are counted apply in counts exactly if all those within a negation or a group
of the specification do. -/
theorem forall_fragments_countSpec_iff :
    (∀ leaf ∈ Criteria.allFragments spec.countSpec.criteria, leaf.appliesInCount = true) ↔
      ∀ criteria ∈ spec.criteria, ∀ leaf ∈ criteria.innerFragments,
        leaf.appliesInCount = true := by
  constructor
  · intro all_apply criteria criteria_mem
    by_cases applies : criteria.appliesInCount = true
    · rw [← Criteria.forall_fragments_iff applies]
      intro leaf leaf_mem
      apply all_apply leaf
      exact Criteria.mem_allFragments.mpr
        ⟨criteria, List.mem_filter.mpr ⟨criteria_mem, applies⟩, leaf_mem⟩
    · simp [Criteria.innerFragments_of_not_applies applies]
  · intro inner_apply leaf leaf_mem
    rcases Criteria.mem_allFragments.mp leaf_mem with ⟨criteria, counted, leaf_mem⟩
    rcases List.mem_filter.mp counted with ⟨criteria_mem, applies⟩
    exact (Criteria.forall_fragments_iff applies).mpr (inner_apply criteria criteria_mem) leaf
      leaf_mem

end SearchSpec

namespace Query

/-- A fragment that opted out has no part in a count unless it stands within a negation or a group.
The specification that is counted has none exactly if none stands there, and with fetches the count
stays the same, text, parameters and errors, whatever such fragments stand in the list of criteria
or are taken out of it. -/
theorem count_ignores_outermost_optOuts (options : Options) (root : EntityType)
    (spec : SearchSpec) :
    ((∀ leaf ∈ Criteria.allFragments spec.countSpec.criteria, leaf.appliesInCount = true) ↔
        ∀ criteria ∈ spec.criteria, ∀ leaf ∈ criteria.innerFragments,
          leaf.appliesInCount = true) ∧
      (spec.fetches ≠ [] → ∀ others, Criteria.AgreeInCount spec.criteria others →
        count options root { spec with criteria := others } = count options root spec) := by
  refine ⟨spec.forall_fragments_countSpec_iff, ?_⟩
  intro fetches others agree
  have some_fetches : spec.fetches.isEmpty = false := by
    rw [← Bool.not_eq_true, List.isEmpty_iff]
    exact fetches
  have counted_eq : SearchSpec.countSpec { spec with criteria := others } = spec.countSpec := by
    simp only [SearchSpec.countSpec, agree.filter_eq]
  simp only [count, some_fetches, Bool.false_eq_true, if_false, counted_eq]

/-- A fragment that opted out would be in conflict with another one, were it counted. -/
theorem count_ignores_outermost_optOuts_of_conflict :
    let active : PersonalCriteria :=
      { query := "e.active = :limit", parameters := [("limit", .bool true)] }
    let optedOut : PersonalCriteria :=
      { query := "e.score > :limit", parameters := [("limit", .int 5)], appliesInCount := false }
    let spec : SearchSpec := {
      criteria := [.personal optedOut, .not (.personal active)]
      fetches := [{ operator := .leftFetch, name := "roles" }] }
    let others : List Criteria := [.not (.personal active)]
    spec.fetches ≠ [] ∧ Criteria.AgreeInCount spec.criteria others ∧
      (∀ leaf ∈ Criteria.allFragments spec.countSpec.criteria, leaf.appliesInCount = true) ∧
      count {} { typeName := "T" } { spec with criteria := others } =
        count {} { typeName := "T" } spec ∧
      ∃ query, (count {} { typeName := "T" } spec).result = .ok query ∧
        query.text = "SELECT COUNT(e) FROM T AS e WHERE NOT (e.active = :limit)" ∧
        query.parameters.names = ["limit"] := by
  intro active optedOut spec others
  have fetches : spec.fetches ≠ [] := by simp [spec]
  have agree : Criteria.AgreeInCount spec.criteria others := .left rfl (.cons _ .nil)
  have inner_apply : ∀ criteria ∈ spec.criteria, ∀ leaf ∈ criteria.innerFragments,
      leaf.appliesInCount = true := by
    simp [spec, active, Criteria.innerFragments, Criteria.fragments]
  have ignored := count_ignores_outermost_optOuts {} { typeName := "T" } spec
  refine ⟨fetches, agree, ignored.1.mpr inner_apply, ignored.2 fetches others agree, ?_⟩
  simp only [spec, active, optedOut]
  exact ⟨_, rfl, rfl, rfl⟩

/-- Within a group of its own, a fragment that opted out is counted, with its parameter. -/
theorem countSpec_keeps_inner_optOut :
    let optedOut : PersonalCriteria :=
      { query := "e.score > :limit", parameters := [("limit", .int 5)], appliesInCount := false }
    let spec : SearchSpec := {
      criteria := [.group .and [.personal optedOut, .conditional ⟨{ name := "name" }, .null⟩]]
      fetches := [{ operator := .leftFetch, name := "roles" }] }
    optedOut ∈ Criteria.allFragments spec.countSpec.criteria ∧ optedOut.appliesInCount = false ∧
      ∃ query, (count {} { typeName := "T" } spec).result = .ok query ∧
        query.text = "SELECT COUNT(e) FROM T AS e WHERE (e.score > :limit AND e.name IS NULL)" ∧
        query.parameters.names = ["limit"] := by
  refine ⟨List.mem_cons_self, rfl, _, rfl, rfl, rfl⟩

end Query

end ObjectQuery
