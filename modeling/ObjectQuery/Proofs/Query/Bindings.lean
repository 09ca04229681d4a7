import ObjectQuery.Proofs.Criteria.Run
import ObjectQuery.Query

/-!
# What a statement binds

Parameters only grow while a statement is made. A name that was given out for a value stands for
that value in the parameters that the statement ends up with, whatever is bound afterwards, and so
does the name of a fragment's parameter that the fragment's text refers to.
-/

namespace ObjectQuery

theorem Fragment.occursIn_iff (pattern text : List Char) :
    Fragment.occursIn pattern text = true ↔ pattern <:+: text := by
  induction text with
  | nil => simp [occursIn]
  | cons c rest ih =>
      rw [occursIn, Bool.or_eq_true, List.isPrefixOf_iff_prefix, ih, List.infix_cons_iff]

namespace PersonalCriteria

variable {personal : PersonalCriteria} {before after : Parameters}

/-- The text of a fragment holds the marker of a parameter. -/
def Marks (personal : PersonalCriteria) (name : String) : Prop :=
  (placeholderText name).toList <:+: personal.text.toList

theorem mentions_iff_marks (name : String) :
    personal.mentions name = true ↔ personal.Marks name := by
  rw [mentions, Fragment.occursIn_iff, Marks, placeholderText, String.toList_append]
  rfl

theorem bindParameter_ok {declared : String × Value}
    (bound : (personal.bindParameter before declared).result = .ok after) :
    before.entries <+: after.entries ∧
      (personal.Marks declared.1 → after.Reads declared.1 declared.2) := by
  rcases declared with ⟨name, value⟩
  by_cases mentioned : personal.mentions name = true
  · simp only [bindParameter, mentioned, if_true] at bound
    cases found : before.get? name with
    | none =>
        simp only [found, Compilation.result_pure, Except.ok.injEq] at bound
        subst after
        refine ⟨Parameters.prefix_add name value, fun _ => ?_⟩
        exact Parameters.reads_add (by simp [Parameters.admits, found])
    | some held =>
        simp only [found] at bound
        split at bound
        · next same =>
            simp only [Compilation.result_pure, Except.ok.injEq] at bound
            subst after
            exact ⟨List.prefix_refl _, fun _ => ⟨held, found, Or.inr same⟩⟩
        · simp [Compilation.fail] at bound
  · simp only [bindParameter, mentioned, Bool.false_eq_true, if_false,
      Compilation.result_bind_eq_ok_iff, Compilation.result_pure, Except.ok.injEq] at bound
    rcases bound with ⟨_, -, rfl⟩
    refine ⟨List.prefix_refl _, fun marks => ?_⟩
    exact absurd ((mentions_iff_marks name).mpr marks) mentioned

theorem foldlM_bindParameter_ok {declarations : List (String × Value)}
    (bound : (declarations.foldlM personal.bindParameter before).result = .ok after) :
    before.entries <+: after.entries ∧ ∀ declared ∈ declarations,
      personal.Marks declared.1 → after.Reads declared.1 declared.2 := by
  induction declarations generalizing before with
  | nil =>
      simp only [List.foldlM_nil, Compilation.result_pure, Except.ok.injEq] at bound
      subst after
      exact ⟨List.prefix_refl _, by simp⟩
  | cons first rest ih =>
      simp only [List.foldlM_cons, Compilation.result_bind_eq_ok_iff] at bound
      rcases bound with ⟨between, first_bound, rest_bound⟩
      rcases bindParameter_ok first_bound with ⟨first_extended, first_reads⟩
      rcases ih rest_bound with ⟨rest_extended, rest_read⟩
      refine ⟨first_extended.trans rest_extended, ?_⟩
      intro declared declared_mem marks
      rcases List.mem_cons.mp declared_mem with rfl | later
      · exact (first_reads marks).extended rest_extended
      · exact rest_read declared later marks

end PersonalCriteria

namespace Criteria

variable {emptyList : EmptyList} {before after : Parameters} {criteria : List Criteria}
  {conditions : List Condition}

theorem Binds.extends (run : Binds emptyList before criteria conditions after) :
    before.entries <+: after.entries := by
  induction run with
  | nil => exact List.prefix_refl _
  | @conditional before after leaf rest conditions tail ih =>
      rw [leaf.parameters_bind] at ih
      exact (Parameters.prefix_bindEach leaf.requests).trans ih
  | not inner tail ih_inner ih_tail => exact ih_inner.trans ih_tail
  | group inner tail ih_inner ih_tail => exact ih_inner.trans ih_tail
  | personal bound tail ih =>
      exact (PersonalCriteria.foldlM_bindParameter_ok bound).1.trans ih

end Criteria

/-- The placeholders of a predicate stand for what a leaf stores, in order. -/
def Predicate.Stores (parameters : Parameters) (predicate : Predicate) (leaf : Conditional) :
    Prop :=
  List.Forall₂ (fun name request => parameters.Reads name request.value)
    predicate.placeholders leaf.requests

theorem forall₂_stores_extended {before after : Parameters} {predicates : List Predicate}
    {leaves : List Conditional} (extended : before.entries <+: after.entries)
    (stored : List.Forall₂ (Predicate.Stores before) predicates leaves) :
    List.Forall₂ (Predicate.Stores after) predicates leaves := by
  apply stored.imp
  intro predicate leaf stores
  apply stores.imp
  intro name request reads
  exact reads.extended extended

namespace Criteria

variable {emptyList : EmptyList} {before after : Parameters} {criteria : List Criteria}
  {conditions : List Condition}

theorem Binds.stores (run : Binds emptyList before criteria conditions after) :
    List.Forall₂ (Predicate.Stores after) (Condition.allPredicates conditions)
      (allLeaves criteria) := by
  induction run with
  | nil => exact .nil
  | @conditional before after leaf rest conditions tail ih =>
      -- The leaf's names are read in the end, after all that is bound behind it.
      refine .cons ?_ ih
      apply (leaf.reads_bind emptyList before).imp
      intro name request reads
      exact reads.extended tail.extends
  | not inner tail ih_inner ih_tail =>
      simp only [Condition.allPredicates, allLeaves, List.append_nil] at ih_inner
      exact List.rel_append (forall₂_stores_extended tail.extends ih_inner) ih_tail
  | group inner tail ih_inner ih_tail =>
      exact List.rel_append (forall₂_stores_extended tail.extends ih_inner) ih_tail
  | personal bound tail ih => exact ih

theorem Binds.reads_marked (run : Binds emptyList before criteria conditions after) :
    ∀ fragment ∈ allFragments criteria, ∀ declared ∈ fragment.parameters,
      fragment.Marks declared.1 → after.Reads declared.1 declared.2 := by
  induction run with
  | nil => simp [allFragments]
  | conditional tail ih => exact ih
  | not inner tail ih_inner ih_tail =>
      simp only [allFragments, List.append_nil] at ih_inner
      intro fragment fragment_mem declared declared_mem marks
      rcases List.mem_append.mp fragment_mem with inside | later
      · exact (ih_inner fragment inside declared declared_mem marks).extended tail.extends
      · exact ih_tail fragment later declared declared_mem marks
  | group inner tail ih_inner ih_tail =>
      intro fragment fragment_mem declared declared_mem marks
      rcases List.mem_append.mp fragment_mem with inside | later
      · exact (ih_inner fragment inside declared declared_mem marks).extended tail.extends
      · exact ih_tail fragment later declared declared_mem marks
  | personal bound tail ih =>
      intro fragment fragment_mem declared declared_mem marks
      rcases List.mem_cons.mp fragment_mem with rfl | later
      · have reads := (PersonalCriteria.foldlM_bindParameter_ok bound).2
        exact (reads declared declared_mem marks).extended tail.extends
      · exact ih fragment later declared declared_mem marks

end Criteria

namespace Query

/-- What an update asks to bind: each new value, under a name made from its field. -/
def attributeRequests (attributes : List (String × Value)) : List Parameters.Request :=
  attributes.map fun (field, value) => ⟨field, value, value⟩

variable (parameters : Parameters) (attributes : List (String × Value))

theorem bindAttributes_eq_bindEach :
    ((bindAttributes parameters attributes).1.map Assignment.parameter,
      (bindAttributes parameters attributes).2) =
        parameters.bindEach (attributeRequests attributes) := by
  induction attributes generalizing parameters with
  | nil => rfl
  | cons first rest ih =>
      have rest_eq := ih (parameters.bind first.1 first.2 first.2).2
      simp only [attributeRequests, List.map_cons, Parameters.bindEach] at rest_eq ⊢
      rw [← rest_eq]
      rfl

theorem prefix_bindAttributes :
    parameters.entries <+: (bindAttributes parameters attributes).2.entries := by
  have bound := congrArg Prod.snd (bindAttributes_eq_bindEach parameters attributes)
  rw [show (bindAttributes parameters attributes).2 = _ from bound]
  exact Parameters.prefix_bindEach _

theorem reads_bindAttributes :
    List.Forall₂ (fun assignment (entry : String × Value) => assignment.field = entry.1 ∧
        (bindAttributes parameters attributes).2.Reads assignment.parameter entry.2)
      (bindAttributes parameters attributes).1 attributes := by
  induction attributes generalizing parameters with
  | nil => exact .nil
  | cons first rest ih =>
      refine .cons ⟨rfl, ?_⟩ (ih _)
      exact (Parameters.reads_bind first.1 first.2 first.2).extended (prefix_bindAttributes _ rest)

/-- Nothing that is bound is lost. What is bound at the start stays, the names stay distinct, and in
the end every name stands for the value it was given out for, be it by an assignment, a leaf or a
fragment. -/
theorem bindings_kept (options : Options) (start : Parameters) (criteria : List Criteria)
    {conditions : List Condition} {final : Parameters}
    (bound : (Criteria.bindAll options.emptyList (bindAttributes start attributes).2
      criteria).result = .ok (conditions, final)) :
    start.entries <+: final.entries ∧ final.names.Nodup ∧
      List.Forall₂ (fun assignment (entry : String × Value) => assignment.field = entry.1 ∧
          final.Reads assignment.parameter entry.2)
        (bindAttributes start attributes).1 attributes ∧
      List.Forall₂ (Predicate.Stores final) (Condition.allPredicates conditions)
        (Criteria.allLeaves criteria) ∧
      ∀ fragment ∈ Criteria.allFragments criteria, ∀ declared ∈ fragment.parameters,
        fragment.Marks declared.1 → final.Reads declared.1 declared.2 := by
  have run := Criteria.binds_of_bindAll bound
  refine ⟨(prefix_bindAttributes start attributes).trans run.extends, final.distinct, ?_,
    run.stores, run.reads_marked⟩
  apply (reads_bindAttributes start attributes).imp
  rintro assignment entry ⟨field_eq, reads⟩
  exact ⟨field_eq, reads.extended run.extends⟩

/-- Two fragments share a parameter, and a leaf behind them shares the value of an update. A pattern
that says how a text ends is stored in upper case, with its wildcard. -/
theorem bindings_kept_shared_values :
    let shared : List (String × Value) := [("min", .int 18), ("unused", .null)]
    let range : Conditional := { field := { name := "age" }, test := .between .null (.text "b") }
    let ends : Conditional :=
      { field := { name := "name" }, test := .like { text := "son", rightWildcard := false } }
    let criteria : List Criteria :=
      [.group .or [.personal { query := "e.age > :min", parameters := shared },
        .not (.personal { query := "e.rank > :min", parameters := shared })], .conditional range,
        .not (.conditional ends)]
    ∃ conditions final, (Criteria.bindAll .alwaysFalse (bindAttributes {} [("age", .null)]).2
        criteria).result = .ok (conditions, final) ∧
      final.names.Nodup ∧
      List.Forall₂ (Predicate.Stores final) (Condition.allPredicates conditions) [range, ends] ∧
      (∃ predicate ∈ Condition.allPredicates conditions, ∃ token,
        predicate.placeholders = [token] ∧ final.Reads token (.text "%SON")) ∧
      final.Reads "min" (.int 18) := by
  intro shared range ends criteria
  have bound : ∃ outcome, (Criteria.bindAll .alwaysFalse (bindAttributes {} [("age", .null)]).2
      criteria).result = .ok outcome := by
    simp only [criteria, shared, range, ends]
    exact ⟨_, rfl⟩
  rcases bound with ⟨⟨conditions, final⟩, succeeds⟩
  rcases bindings_kept [("age", .null)] {} {} criteria succeeds with
    ⟨-, distinct, -, stored, marked⟩
  have pattern_eq : "%" ++ Uppercase.ofText "son" = "%SON" := by decide
  refine ⟨conditions, final, succeeds, distinct, stored, ?_, ?_⟩
  · rcases List.forall₂_cons_right_iff.mp stored with ⟨_, _, -, behind, predicates_eq⟩
    rcases List.forall₂_cons_right_iff.mp behind with ⟨predicate, _, stores, -, rfl⟩
    rcases exists_eq_singleton_of_forall₂ stores with ⟨token, tokens_eq, reads⟩
    refine ⟨predicate, ?_, token, tokens_eq, pattern_eq ▸ reads⟩
    rw [predicates_eq]
    exact List.mem_cons_of_mem _ List.mem_cons_self
  · refine marked { query := "e.rank > :min", parameters := shared } ?_ ("min", .int 18) ?_ ?_
    · exact List.mem_cons_of_mem _ List.mem_cons_self
    · exact List.mem_cons_self
    · simp only [← PersonalCriteria.mentions_iff_marks, shared]
      rfl

end Query

end ObjectQuery
