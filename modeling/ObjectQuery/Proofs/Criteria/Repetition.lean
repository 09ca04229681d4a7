import ObjectQuery.Proofs.Query.Bindings

/-!
# Repeated criteria

What was bound once is found again. Binding criteria a second time, however much was bound in
between, gives the same condition and adds nothing, provided that their values are equal to
themselves, as all values are that hold no float without a number.
-/

namespace ObjectQuery

namespace Value

mutual

/-- No float in a value is NaN. -/
def NanFree : Value → Prop
  | .float x => Binary.ofFloat x ≠ .nan
  | .list items => AllNanFree items
  | .null | .bool _ | .int _ | .text _ => True

def AllNanFree : List Value → Prop
  | [] => True
  | item :: rest => item.NanFree ∧ AllNanFree rest

end

mutual

theorem equal_self {value : Value} (nan_free : value.NanFree) : value.equal value = true := by
  cases value with
  | null => rfl
  | bool b => simp [equal]
  | int i => simp [equal]
  | float x => exact (Binary.equal_self _).mpr nan_free
  | text s => simp [equal]
  | list items => exact equalItems_self nan_free

theorem equalItems_self {items : List Value} (nan_free : AllNanFree items) :
    equalItems items items = true := by
  cases items with
  | nil => rfl
  | cons item rest =>
      rw [equalItems, Bool.and_eq_true]
      exact ⟨equal_self nan_free.1, equalItems_self nan_free.2⟩

end

theorem allNanFree_iff (items : List Value) :
    AllNanFree items ↔ ∀ item ∈ items, item.NanFree := by
  induction items with
  | nil => simp [AllNanFree]
  | cons item rest ih => rw [AllNanFree, ih, List.forall_mem_cons]

theorem nanFree_toUpper (value : Value) : value.toUpper.NanFree := by
  cases value <;> exact trivial

theorem NanFree.upperUnless {value : Value} (nan_free : value.NanFree) (kept : Bool) :
    (if kept then value else value.toUpper).NanFree := by
  cases kept with
  | false => exact value.nanFree_toUpper
  | true => exact nan_free

end Value

theorem Parameters.bindEach_again {before later : Parameters} {requests : List Request}
    (nan_free : ∀ request ∈ requests, request.value.NanFree)
    (extended : (before.bindEach requests).2.entries <+: later.entries) :
    later.bindEach requests = ((before.bindEach requests).1, later) := by
  induction requests generalizing before with
  | nil => rfl
  | cons request rest ih =>
      rw [List.forall_mem_cons] at nan_free
      have first_again :=
        bind_again (Value.equal_self nan_free.1) ((prefix_bindEach rest).trans extended)
      have rest_again := ih nan_free.2 extended
      simp only [bindEach, first_again, rest_again]

namespace Conditional

/-- The literal values that a leaf asks about. -/
def values (leaf : Conditional) : List Value :=
  match leaf.test with
  | .compare _ value _ => [value]
  | .between low high => [low, high]
  | .among values _ => values
  | .like pattern _ => [.text pattern.text]
  | .compareField _ _ _ | .null _ | .empty _ => []

theorem nanFree_requests {leaf : Conditional} (nan_free : ∀ value ∈ leaf.values, value.NanFree) :
    ∀ request ∈ leaf.requests, request.value.NanFree := by
  rcases leaf with ⟨field, test⟩
  cases test with
  | compare operator value caseSensitive =>
      cases value with
      | text content => cases caseSensitive <;> simp [requests, Value.NanFree]
      | _ => simpa [requests, values] using nan_free
  | compareField operator other caseSensitive => simp [requests]
  | between low high => simpa [requests, values] using nan_free
  | among values caseSensitive =>
      rcases values with _ | ⟨first, _ | ⟨second, others⟩⟩
      · simp [requests]
      · simp only [Conditional.values, List.forall_mem_singleton] at nan_free
        simp only [requests, List.forall_mem_singleton]
        exact nan_free.upperUnless _
      · simp only [requests, List.forall_mem_singleton, Value.NanFree, Value.allNanFree_iff]
        split
        · exact nan_free
        · rw [List.forall_mem_map]
          intro value _
          exact value.nanFree_toUpper
  | like pattern caseSensitive => simp [requests, Value.NanFree]
  | null negated => simp [requests]
  | empty negated => simp [requests]

/-- The predicate of a leaf depends on what is bound through its names only. -/
theorem bind_eq_of_placeholders_eq {leaf : Conditional} {emptyList : EmptyList}
    {parameters parameters' : Parameters}
    (names_eq : (leaf.bind emptyList parameters).1.placeholders =
      (leaf.bind emptyList parameters').1.placeholders) :
    (leaf.bind emptyList parameters).1 = (leaf.bind emptyList parameters').1 := by
  rcases leaf with ⟨field, test⟩
  cases test with
  | compare operator value caseSensitive =>
      cases operator <;>
        simpa [bind, subject, Predicate.placeholders, Operand.placeholders] using names_eq
  | compareField operator other caseSensitive => rfl
  | between low high =>
      simpa [bind, subject, Predicate.placeholders, Operand.placeholders] using names_eq
  | among values caseSensitive =>
      rcases values with _ | ⟨first, _ | ⟨second, others⟩⟩
      · cases emptyList <;> rfl
      · simpa [bind, subject, Predicate.placeholders, Operand.placeholders] using names_eq
      · simpa [bind, subject, Predicate.placeholders, Operand.placeholders] using names_eq
  | like pattern caseSensitive =>
      simpa [bind, subject, Predicate.placeholders, Operand.placeholders] using names_eq
  | null negated => rfl
  | empty negated => rfl

/-- A leaf has the same predicate again, and nothing is added for it. -/
theorem bind_again {leaf : Conditional} {emptyList : EmptyList} {before later : Parameters}
    (nan_free : ∀ value ∈ leaf.values, value.NanFree)
    (extended : (leaf.bind emptyList before).2.entries <+: later.entries) :
    leaf.bind emptyList later = ((leaf.bind emptyList before).1, later) := by
  rw [leaf.parameters_bind] at extended
  have bound := leaf.bind_eq_bindEach emptyList later
  rw [Parameters.bindEach_again (nanFree_requests nan_free) extended] at bound
  apply Prod.ext
  · apply bind_eq_of_placeholders_eq
    rw [leaf.placeholders_bind emptyList before]
    exact (Prod.ext_iff.mp bound).1
  · exact (Prod.ext_iff.mp bound).2

end Conditional

namespace PersonalCriteria

variable {personal : PersonalCriteria} {before after later : Parameters}

/-- A declared parameter that its name stands for already changes nothing. -/
theorem bindParameter_of_reads {declared : String × Value} (nan_free : declared.2.NanFree)
    (reads : personal.Marks declared.1 → later.Reads declared.1 declared.2) :
    (personal.bindParameter later declared).result = .ok later := by
  rcases declared with ⟨name, value⟩
  by_cases mentioned : personal.mentions name = true
  · rcases reads ((mentions_iff_marks name).mp mentioned) with ⟨bound, found, same⟩
    have equal : (bound == value) = true := by
      rcases same with rfl | same
      · exact Value.equal_self nan_free
      · exact same
    simp [bindParameter, mentioned, found, equal]
  · simp only [bindParameter, mentioned, Bool.false_eq_true, if_false]
    rfl

/-- A fragment that was bound is bound again without a conflict, and nothing is added for it. -/
theorem bind_again (nan_free : ∀ declared ∈ personal.parameters, declared.2.NanFree)
    (bound : (personal.bind before).result = .ok after)
    (extended : after.entries <+: later.entries) : (personal.bind later).result = .ok later := by
  have reads := (foldlM_bindParameter_ok bound).2
  have again : ∀ declarations ⊆ personal.parameters,
      (declarations.foldlM personal.bindParameter later).result = .ok later := by
    intro declarations subset
    induction declarations with
    | nil => rfl
    | cons declared rest ih =>
        rw [List.cons_subset] at subset
        rw [List.foldlM_cons, Compilation.result_bind_eq_ok_iff]
        refine ⟨later, ?_, ih subset.2⟩
        apply bindParameter_of_reads (nan_free declared subset.1)
        intro marks
        exact (reads declared subset.1 marks).extended extended
  exact again personal.parameters (List.Subset.refl _)

end PersonalCriteria

namespace Criteria

/-- No literal value in criteria has a float in it that is NaN. -/
structure NanFree (criteria : List Criteria) : Prop where
  leaves : ∀ leaf ∈ allLeaves criteria, ∀ value ∈ leaf.values, value.NanFree
  fragments : ∀ fragment ∈ allFragments criteria, ∀ declared ∈ fragment.parameters,
    declared.2.NanFree

variable {emptyList : EmptyList} {before after later : Parameters} {criteria : List Criteria}
  {conditions : List Condition}

/-- A run can be made again, however the parameters have grown since. -/
theorem Binds.again (run : Binds emptyList before criteria conditions after)
    (nan_free : NanFree criteria) (extended : after.entries <+: later.entries) :
    Binds emptyList later criteria conditions later := by
  rcases nan_free with ⟨leaves_free, fragments_free⟩
  induction run with
  | nil => exact .nil
  | @conditional before after leaf rest conditions tail ih =>
      simp only [allLeaves, leaves, List.cons_append, List.nil_append,
        List.forall_mem_cons] at leaves_free
      have leaf_again := Conditional.bind_again leaves_free.1 (tail.extends.trans extended)
      have tail_again := ih extended leaves_free.2 fragments_free
      rw [← congrArg Prod.fst leaf_again]
      apply Binds.conditional
      rwa [leaf_again]
  | not inner tail ih_inner ih_tail =>
      simp only [allLeaves, leaves, allFragments, fragments,
        List.forall_mem_append] at leaves_free fragments_free
      refine .not ?_ (ih_tail extended leaves_free.2 fragments_free.2)
      apply ih_inner (tail.extends.trans extended)
      · simpa [allLeaves] using leaves_free.1
      · simpa [allFragments] using fragments_free.1
  | group inner tail ih_inner ih_tail =>
      simp only [allLeaves, leaves, allFragments, fragments,
        List.forall_mem_append] at leaves_free fragments_free
      refine .group ?_ (ih_tail extended leaves_free.2 fragments_free.2)
      exact ih_inner (tail.extends.trans extended) leaves_free.1 fragments_free.1
  | personal bound tail ih =>
      simp only [allFragments, fragments, List.cons_append, List.nil_append,
        List.forall_mem_cons] at fragments_free
      refine .personal ?_ (ih extended leaves_free fragments_free.2)
      exact PersonalCriteria.bind_again fragments_free.1 bound (tail.extends.trans extended)

/-- Criteria have the same condition each time, and only the first time binds anything. It does not
matter what was bound in between, and criteria that stand in a list can be put behind themselves
again: all conditions of the list stay as they are, and so do its parameters. -/
theorem bind_repeated (emptyList : EmptyList) (criteria : Criteria)
    (nan_free : NanFree [criteria]) :
    (∀ start condition after further conditions final,
      (criteria.bind emptyList start).result = .ok (condition, after) →
      (bindAll emptyList after further).result = .ok (conditions, final) →
        (criteria.bind emptyList final).result = .ok (condition, final)) ∧
    ∀ start front middle back conditions final,
      (bindAll emptyList start (front ++ criteria :: (middle ++ back))).result =
          .ok (conditions, final) →
        ∃ frontConditions condition middleConditions backConditions,
          frontConditions.length = front.length ∧ middleConditions.length = middle.length ∧
          conditions = frontConditions ++ condition :: (middleConditions ++ backConditions) ∧
          (bindAll emptyList start (front ++ criteria :: (middle ++ criteria :: back))).result =
            .ok (frontConditions ++ condition :: (middleConditions ++ condition :: backConditions),
              final) := by
  constructor
  · intro start condition after further conditions final first_bound further_bound
    have run := binds_cons_of_bind first_bound .nil
    have extended := (binds_of_bindAll further_bound).extends
    exact result_bind_of_bindAll (run.again nan_free extended).result_bindAll
  · intro start front middle back conditions final bound
    rcases binds_append_iff.mp (binds_of_bindAll bound) with
      ⟨frontConditions, behind, before, rfl, front_run, behind_run⟩
    rw [← List.singleton_append] at behind_run
    rcases binds_append_iff.mp behind_run with ⟨first, others, after, rfl, first_run, others_run⟩
    rcases List.length_eq_one_iff.mp first_run.length_eq with ⟨condition, rfl⟩
    rcases binds_append_iff.mp others_run with
      ⟨middleConditions, backConditions, between, rfl, middle_run, back_run⟩
    have repeated := first_run.again nan_free middle_run.extends
    refine ⟨frontConditions, condition, middleConditions, backConditions, front_run.length_eq,
      middle_run.length_eq, rfl, ?_⟩
    apply Binds.result_bindAll
    have behind_again := binds_append_iff.mpr ⟨_, _, _, rfl, repeated, back_run⟩
    have others_again := binds_append_iff.mpr ⟨_, _, _, rfl, middle_run, behind_again⟩
    have all_again := binds_append_iff.mpr ⟨_, _, _, rfl, first_run, others_again⟩
    exact binds_append_iff.mpr ⟨_, _, _, rfl, front_run, all_again⟩

/-- A leaf whose ideal name is taken gets its numbered name again, although a fragment has bound the
next number in between. -/
theorem bind_repeated_of_collision :
    let start : Parameters := Parameters.add {} "age_" (.int 5)
    let criteria : Criteria :=
      .group .or [.conditional ⟨{ name := "age" }, .compare .eq .null⟩,
        .not (.personal { query := "e.rank IN :ranks", parameters := [("ranks", .list [.int 1])] })]
    let further : Criteria :=
      .personal { query := "e.size = :age__2", parameters := [("age__2", .int 7)] }
    NanFree [criteria] ∧ ∃ condition after conditions final,
      (criteria.bind .alwaysFalse start).result = .ok (condition, after) ∧
      (bindAll .alwaysFalse after [further]).result = .ok (conditions, final) ∧
      condition.text = "(e.age = :age__1 OR NOT (e.rank IN :ranks))" ∧
      final.names = ["age_", "age__1", "ranks", "age__2"] ∧
      (criteria.bind .alwaysFalse final).result = .ok (condition, final) := by
  intro start criteria further
  have nan_free : NanFree [criteria] := by
    refine ⟨?_, ?_⟩
    · intro leaf leaf_mem
      rw [List.mem_singleton.mp (show leaf ∈ [_] from leaf_mem)]
      simp [Conditional.values, Value.NanFree]
    · intro fragment fragment_mem
      rw [List.mem_singleton.mp (show fragment ∈ [_] from fragment_mem)]
      simp [Value.NanFree, Value.AllNanFree]
  have bound : ∃ condition after, (criteria.bind .alwaysFalse start).result =
      .ok (condition, after) ∧ condition.text = "(e.age = :age__1 OR NOT (e.rank IN :ranks))" ∧
      ∃ conditions final, (bindAll .alwaysFalse after [further]).result = .ok (conditions, final) ∧
        final.names = ["age_", "age__1", "ranks", "age__2"] := by
    simp only [start, criteria, further]
    exact ⟨_, _, rfl, rfl, _, _, rfl, rfl⟩
  rcases bound with
    ⟨condition, after, first_bound, text_eq, conditions, final, further_bound, names_eq⟩
  exact ⟨nan_free, condition, after, conditions, final, first_bound, further_bound, text_eq,
    names_eq, (bind_repeated .alwaysFalse criteria nan_free).1 start condition after [further]
      conditions final first_bound further_bound⟩

end Criteria

end ObjectQuery
