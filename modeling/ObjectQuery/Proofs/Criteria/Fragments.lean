import ObjectQuery.Proofs.Condition.Grafting
import ObjectQuery.Proofs.Criteria.Conflicts

/-!
# Fragments among criteria

A fragment is pasted into the text as it is written. It keeps its meaning within a negation and
among alternatives. It also does as a part of a conjunction if no OR stands outside of its
parentheses; an OR that does would divide the conjunction around it, since only groups are put into
parentheses.
-/

namespace ObjectQuery

/-- Whether an OR stands outside of all parentheses in the text of a fragment. -/
def PersonalCriteria.hasOuterOr (leaf : PersonalCriteria) : Bool :=
  (Reading.items (Reading.words leaf.text.toList)).any (Reading.hasOuterOr 0)

namespace IsMember

variable {operator outer : LogicalOperator} {texts : List String} {meanings : List Meaning}

/-- A group of one member is that member, and a larger one is put into parentheses. -/
theorem groupText (alone : texts.length ≤ 1 → List.Forall₂ (IsMember outer) texts meanings)
    (several : 2 ≤ texts.length → List.Forall₂ (IsMember operator) texts meanings) :
    IsMember outer (groupText operator texts)
      fun truth => operator.holds (meanings.map fun meaning => meaning truth) := by
  match texts with
  | [] =>
      rcases alone (Nat.zero_le 1) with _ | _
      exact (Means.group operator .nil).isMember outer
  | [text] =>
      rcases alone (Nat.le_refl 1) with _ | ⟨member, _ | _⟩
      simpa [ObjectQuery.groupText] using member
  | first :: second :: rest =>
      have members := several (by simp)
      exact (IsMember.intercalate members (List.cons_ne_nil _ _)).enclosed.isMember outer

/-- A single text is read as it is, and several texts as members of a conjunction. -/
theorem read_all (nonempty : texts ≠ [])
    (alone : texts.length ≤ 1 → List.Forall₂ (IsMember .or) texts meanings)
    (several : 2 ≤ texts.length → List.Forall₂ (IsMember .and) texts meanings) :
    ∃ reading, Reading.ofText? (" AND ".intercalate texts) = some reading ∧
      ∀ truth, reading.eval truth = meanings.all fun meaning => meaning truth := by
  match texts with
  | [] => exact absurd rfl nonempty
  | [text] =>
      rcases alone (Nat.le_refl 1) with _ | ⟨member, _ | _⟩
      rcases member.ofText? with ⟨reading, read, value_eq⟩
      exact ⟨reading, by simpa using read, by simpa using value_eq⟩
  | first :: second :: rest => exact read_conjunction (several (by simp)) nonempty

end IsMember

namespace Criteria

/-- Whether an OR stands outside of all parentheses in what criteria become. A group of one member
is written as that member. -/
def hasOuterOr : Criteria → Bool
  | .personal leaf => leaf.hasOuterOr
  | .group _ [member] => member.hasOuterOr
  | .conditional _ | .not _ | .group _ _ => false

mutual

/-- Wherever several criteria are members of a conjunction, no OR of a fragment stands open. -/
def Guarded : Criteria → Prop
  | .conditional _ | .personal _ => True
  | .not criteria => criteria.Guarded
  | .group operator members =>
      (operator = .and → 2 ≤ members.length → ∀ member ∈ members, member.hasOuterOr = false) ∧
        AllGuarded members

def AllGuarded : List Criteria → Prop
  | [] => True
  | criteria :: rest => criteria.Guarded ∧ AllGuarded rest

end

/-- The parameters once a walk has gone over criteria. -/
def after (criteria : Criteria) (parameters : Parameters) : Parameters :=
  criteria.steps.foldl Step.after parameters

mutual

/-- What criteria mean where these parameters are bound already. A fragment means what its own text
says. -/
def wholeMeaning (parameters : Parameters) : Criteria → Meaning
  | .conditional leaf => leaf.meaning parameters
  | .not criteria => fun truth => !criteria.wholeMeaning parameters truth
  | .group operator members => fun truth =>
      operator.holds ((wholeMeanings parameters members).map fun meaning => meaning truth)
  | .personal leaf => fun truth => (Reading.ofText? leaf.text).any (Reading.eval truth)

/-- What several criteria mean, each where the walk has gone over those before it. -/
def wholeMeanings (parameters : Parameters) : List Criteria → List Meaning
  | [] => []
  | criteria :: rest =>
      criteria.wholeMeaning parameters :: wholeMeanings (criteria.after parameters) rest

end

theorem Step.foldl_after_eq {steps : List Step} {before after : Parameters}
    (run_eq : steps.foldlM run before = .ok after) : steps.foldl Step.after before = after := by
  induction steps generalizing before with
  | nil =>
      cases run_eq
      rfl
  | cons step rest ih =>
      rw [List.foldlM_cons] at run_eq
      have passes : ∀ error, ¬step.Raises before error := by
        intro error raises
        rw [run_of_raises raises] at run_eq
        cases run_eq
      rw [run_of_not_raises passes] at run_eq
      exact ih run_eq

variable {emptyList : EmptyList} {before after : Parameters} {criteria : List Criteria}
  {conditions : List Condition}

theorem after_conditional (leaf : Conditional) (emptyList : EmptyList) (parameters : Parameters) :
    (Criteria.conditional leaf).after parameters = (leaf.bind emptyList parameters).2 := by
  rw [leaf.parameters_bind]
  exact Step.foldl_after_eq (Step.foldlM_run_stores leaf.requests)

theorem after_personal {leaf : PersonalCriteria} (bound : (leaf.bind before).result = .ok after) :
    (Criteria.personal leaf).after before = after := by
  have walked := map_result_bind .alwaysFalse before (.personal leaf)
  rw [bind, Compilation.result_bind, bound] at walked
  exact Step.foldl_after_eq walked.symm

/-- A run leaves the parameters behind that the walk does. -/
theorem Binds.after_eq (run : Binds emptyList before criteria conditions after) :
    (allSteps criteria).foldl Step.after before = after := by
  have walk (first : Criteria) (rest : List Criteria) (start : Parameters) :
      (allSteps (first :: rest)).foldl Step.after start =
        (allSteps rest).foldl Step.after (first.after start) := by
    rw [allSteps, List.foldl_append]
    rfl
  induction run with
  | nil => rfl
  | conditional tail ih => rw [walk, after_conditional, ih]
  | @not before between after criteria condition rest conditions inner tail ih_inner ih_tail =>
      have negated_eq : (Criteria.not criteria).after before = between := by
        rw [← ih_inner, walk]
        rfl
      rw [walk, negated_eq, ih_tail]
  | @group before between after operator members rest memberConditions conditions inner tail
      ih_inner ih_tail =>
      have group_eq : (Criteria.group operator members).after before = between := ih_inner
      rw [walk, group_eq, ih_tail]
  | personal bound tail ih => rw [walk, after_personal bound, ih]

/-- Along a run, each condition is a member of any group that its criteria may stand in. -/
theorem Binds.areMembers (run : Binds .alwaysFalse before criteria conditions after)
    (plain : ∀ leaf ∈ allLeaves criteria, leaf.IsPlain)
    (legible : ∀ leaf ∈ allFragments criteria, (Reading.ofText? leaf.text).isSome)
    (guarded : AllGuarded criteria) (operator : LogicalOperator)
    (inside : operator = .and → ∀ member ∈ criteria, member.hasOuterOr = false) :
    List.Forall₂ (IsMember operator) (conditions.map Condition.text)
      (wholeMeanings before criteria) := by
  induction run generalizing operator with
  | nil => exact .nil
  | @conditional before after leaf rest conditions tail ih =>
      simp only [allLeaves, leaves, List.cons_append, List.nil_append,
        List.forall_mem_cons] at plain inside
      have reads := Predicate.readsAs (leaf.bind_isPlain plain.1 .alwaysFalse before)
        (leaf.bind_isLegible before)
      have means := Means.atom reads (leaf.eval_boundText before)
      rw [wholeMeanings, after_conditional leaf .alwaysFalse]
      exact .cons (means.isMember operator)
        (ih plain.2 legible guarded.2 operator fun is_and => (inside is_and).2)
  | @not before between after criteria condition rest conditions inner tail ih_inner ih_tail =>
      simp only [allLeaves, leaves, allFragments, fragments, List.forall_mem_append,
        List.forall_mem_cons] at plain legible inside
      have inner_members := ih_inner (by simpa [allLeaves] using plain.1)
        (by simpa [allFragments] using legible.1) ⟨guarded.1, trivial⟩ .or (by simp)
      have tail_members := ih_tail plain.2 legible.2 guarded.2 operator
        fun is_and => (inside is_and).2
      rcases inner_members with _ | ⟨negated, -⟩
      have negated_eq : (Criteria.not criteria).after before = between := by
        rw [← inner.after_eq, allSteps, allSteps, List.append_nil]
        rfl
      rw [wholeMeanings, negated_eq]
      exact .cons (negated.negated.isMember operator) tail_members
  | @group before between after groupOperator members rest memberConditions conditions inner tail
      ih_inner ih_tail =>
      simp only [allLeaves, leaves, allFragments, fragments, List.forall_mem_append,
        List.forall_mem_cons] at plain legible inside
      have tail_members := ih_tail plain.2 legible.2 guarded.2 operator
        fun is_and => (inside is_and).2
      have length_eq : (memberConditions.map Condition.text).length = members.length := by
        rw [List.length_map, inner.length_eq]
      have group_eq : (Criteria.group groupOperator members).after before = between :=
        inner.after_eq
      rw [wholeMeanings, group_eq]
      refine .cons ?_ tail_members
      rw [Condition.text, Condition.memberTexts_eq_map]
      apply IsMember.groupText
      · intro alone
        rw [length_eq] at alone
        apply ih_inner plain.1 legible.1 guarded.1.2 operator
        intro is_and
        rcases members with _ | ⟨member, _ | ⟨second, others⟩⟩
        · exact List.forall_mem_nil _
        · exact List.forall_mem_singleton.mpr (inside is_and).1
        · simp at alone
      · intro several
        rw [length_eq] at several
        exact ih_inner plain.1 legible.1 guarded.1.2 groupOperator fun is_and =>
          guarded.1.1 is_and several
  | @personal before between after leaf rest conditions bound tail ih =>
      simp only [allFragments, fragments, List.cons_append, List.nil_append,
        List.forall_mem_cons] at legible inside
      rcases Option.isSome_iff_exists.mp legible.1 with ⟨reading, read⟩
      rcases Option.bind_eq_some_iff.mp read with ⟨items, items_eq, -⟩
      have member := IsMember.of_text items_eq read operator fun is_and => by
        have leaf_inside := (inside is_and).1
        simpa [Criteria.hasOuterOr, PersonalCriteria.hasOuterOr, items_eq] using leaf_inside
      have meaning_eq : (Criteria.personal leaf).wholeMeaning before =
          fun truth => reading.eval truth := by
        funext truth
        rw [wholeMeaning, read]
        rfl
      rw [wholeMeanings, after_personal bound, meaning_eq]
      exact .cons member (ih plain legible.2 guarded.2 operator fun is_and => (inside is_and).2)

/-- Criteria become conditions whose text, behind the keyword, is read as their conjunction, in
which each fragment means what its own text says, as long as no OR of a fragment stands open within
a conjunction of several. -/
theorem whereText_means_whole (start final : Parameters) (criteria : List Criteria)
    (conditions : List Condition) (nonempty : criteria ≠ [])
    (bound : (bindAll .alwaysFalse start criteria).result = .ok (conditions, final))
    (plain : ∀ leaf ∈ allLeaves criteria, leaf.IsPlain)
    (legible : ∀ leaf ∈ allFragments criteria, (Reading.ofText? leaf.text).isSome)
    (guarded : (group .and criteria).Guarded) :
    ∃ body reading, Condition.whereText conditions = " WHERE " ++ body ∧
      Reading.ofText? body = some reading ∧
      ∀ truth, reading.eval truth =
        (wholeMeanings start criteria).all fun meaning => meaning truth := by
  have run := binds_of_bindAll bound
  have length_eq : (conditions.map Condition.text).length = criteria.length := by
    rw [List.length_map, run.length_eq]
  have conditions_ne : conditions ≠ [] := by
    rintro rfl
    cases run
    exact nonempty rfl
  have members := run.areMembers plain legible guarded.2
  have texts_ne : conditions.map Condition.text ≠ [] := by simpa using conditions_ne
  have alone : (conditions.map Condition.text).length ≤ 1 →
      List.Forall₂ (IsMember .or) (conditions.map Condition.text) (wholeMeanings start criteria) :=
    fun _ => members .or (by simp)
  have several : 2 ≤ (conditions.map Condition.text).length →
      List.Forall₂ (IsMember .and) (conditions.map Condition.text) (wholeMeanings start criteria) :=
    fun several => members .and fun _ => guarded.1 rfl (length_eq ▸ several)
  rcases IsMember.read_all texts_ne alone several with ⟨reading, read, value_eq⟩
  refine ⟨" AND ".intercalate (conditions.map Condition.text), reading, ?_, read, value_eq⟩
  rw [Condition.whereText, if_neg (by simpa using conditions_ne), Condition.memberTexts_eq_map]

/-- A fragment with an OR in a negation, among alternatives and as a group by itself, and one in
parentheses in a conjunction. -/
theorem whereText_means_whole_of_guarded :
    let leaf : Criteria := .conditional ⟨{ name := "a" }, .null⟩
    let both : PersonalCriteria := { query := "e.b = 1 AND (e.c = 1 OR e.d = 1)" }
    let either : PersonalCriteria := { query := "e.f = 1 OR e.g = 1" }
    let criteria : List Criteria := [leaf, .personal both, .not (.personal either),
      .group .or [.personal either, leaf, .group .and [.personal either]]]
    ∃ conditions final body reading,
      (bindAll .alwaysFalse {} criteria).result = .ok (conditions, final) ∧
        Condition.whereText conditions = " WHERE " ++ body ∧
        Reading.ofText? body = some reading ∧
        reading.eval (fun text => text ∈ ["e.a IS NULL", "e.b = 1", "e.d = 1"]) = true ∧
        reading.eval (fun text => text ∈ ["e.a IS NULL", "e.b = 1", "e.d = 1", "e.g = 1"]) =
          false := by
  intro leaf both either criteria
  have plain : ∀ leaf ∈ allLeaves criteria, leaf.IsPlain := by
    change ∀ leaf ∈ [_, _], Conditional.IsPlain leaf
    decide
  have legible : ∀ leaf ∈ allFragments criteria, (Reading.ofText? leaf.text).isSome := by
    change ∀ leaf ∈ [both, either, either, either], (Reading.ofText? leaf.text).isSome
    decide
  have both_closed : both.hasOuterOr = false := by decide
  have guarded : (group .and criteria).Guarded := by
    simp [criteria, leaf, Guarded, AllGuarded, hasOuterOr, both_closed]
  have bound : ∃ outcome, (bindAll .alwaysFalse {} criteria).result = .ok outcome := ⟨_, rfl⟩
  rcases bound with ⟨⟨conditions, final⟩, bound⟩
  rcases whereText_means_whole {} final criteria conditions (List.cons_ne_nil _ _) bound plain
    legible guarded with ⟨body, reading, text_eq, read, value_eq⟩
  refine ⟨conditions, final, body, reading, bound, text_eq, read, ?_, ?_⟩
  · rw [value_eq]
    decide
  · rw [value_eq]
    decide

/-- Behind a leaf, a fragment with an OR is not one operand: what stands before it only holds for
the first of its alternatives. -/
theorem whereText_splits_fragment :
    let leaf : Criteria := .conditional ⟨{ name := "a" }, .null⟩
    let either : Criteria := .personal { query := "e.b = 1 OR e.c = 1" }
    ∃ conditions final reading,
      (bindAll .alwaysFalse {} [leaf, either]).result = .ok (conditions, final) ∧
        Condition.whereText conditions = " WHERE e.a IS NULL AND e.b = 1 OR e.c = 1" ∧
        Reading.ofText? "e.a IS NULL AND e.b = 1 OR e.c = 1" = some reading ∧
        reading.eval (fun text => text = "e.c = 1") = true ∧
        ((wholeMeanings {} [leaf, either]).all fun meaning =>
          meaning fun text => text = "e.c = 1") = false := by
  refine ⟨_, _, _, rfl, ?_, rfl, ?_, ?_⟩
  · decide
  · decide
  · decide

end Criteria

end ObjectQuery
