import ObjectQuery.Condition.Binding
import ObjectQuery.Proofs.Parameters.Binding

/-!
# Runs of binding

Binding goes through criteria from left to right and hands the parameters on from leaf to leaf. A
run that ends in conditions is a derivation of `Criteria.Binds`, with one rule for each kind of
criteria. What a whole run does to the parameters is then proved by induction over the derivation,
from what a single leaf does: it binds the values in `Conditional.requests`, and its predicate has
their names for placeholders.
-/

namespace ObjectQuery

def Operand.placeholders : Operand → List String
  | .field _ _ => []
  | .placeholder name => [name]

/-- The names of the parameters in a predicate, from left to right. -/
def Predicate.placeholders : Predicate → List String
  | .binary left _ right => left.placeholders ++ right.placeholders
  | .between subject low high => subject.placeholders ++ [low, high]
  | .amongListed subject list => subject.placeholders ++ [list]
  | .amongNothing subject => subject.placeholders
  | .unary subject _ => subject.placeholders
  | .never => []

theorem exists_eq_singleton_of_forall₂ {α : Type} {stands : String → α → Prop}
    {names : List String} {item : α} (each : List.Forall₂ stands names [item]) :
    ∃ name, names = [name] ∧ stands name item := by
  rcases List.forall₂_cons_right_iff.mp each with ⟨name, others, holds, no_more, names_eq⟩
  rw [List.forall₂_nil_right_iff.mp no_more] at names_eq
  exact ⟨name, names_eq, holds⟩

def Operand.fields : Operand → List Field
  | .field subject _ => [subject]
  | .placeholder _ => []

/-- The fields in a predicate, from left to right. -/
def Predicate.fields : Predicate → List Field
  | .binary left _ right => left.fields ++ right.fields
  | .between subject _ _ | .amongListed subject _ | .amongNothing subject | .unary subject _ =>
      subject.fields
  | .never => []

/-- A text with a percent sign on each side on which the pattern lets anything stand. -/
def LikePattern.withWildcards (pattern : LikePattern) (text : String) : String :=
  match pattern.leftWildcard, pattern.rightWildcard with
  | true, true => "%" ++ text ++ "%"
  | true, false => "%" ++ text
  | false, true => text ++ "%"
  | false, false => text

theorem LikePattern.wrap_eq_withWildcards (pattern : LikePattern) (text : String) :
    pattern.wrap text = pattern.withWildcards text := by
  rcases pattern with ⟨_, left, right⟩
  cases left <;> cases right <;> simp [wrap, withWildcards]

namespace Condition

mutual

/-- The predicates of a condition, from left to right. -/
def predicates : Condition → List Predicate
  | .predicate leaf => [leaf]
  | .not condition => condition.predicates
  | .group _ members => allPredicates members
  | .fragment _ => []

def allPredicates : List Condition → List Predicate
  | [] => []
  | condition :: rest => condition.predicates ++ allPredicates rest

end

theorem memberTexts_eq_map (conditions : List Condition) :
    memberTexts conditions = conditions.map text := by
  induction conditions with
  | nil => rfl
  | cons condition rest ih => rw [memberTexts, ih, List.map_cons]

theorem allPredicates_eq_flatMap (conditions : List Condition) :
    allPredicates conditions = conditions.flatMap predicates := by
  induction conditions with
  | nil => rfl
  | cons condition rest ih => rw [allPredicates, ih, List.flatMap_cons]

/-- The names of the parameters in a condition, from left to right. -/
def placeholders (condition : Condition) : List String :=
  condition.predicates.flatMap Predicate.placeholders

theorem placeholders_group (operator : LogicalOperator) (members : List Condition) :
    (group operator members).placeholders = members.flatMap placeholders := by
  simp only [placeholders, predicates, allPredicates_eq_flatMap, List.flatMap_assoc]
  rfl

end Condition

namespace Conditional

/-- The fields that a leaf asks about. -/
def fields (leaf : Conditional) : List Field :=
  match leaf.test with
  | .compareField _ other _ => [leaf.field, other]
  | .compare _ _ _ | .between _ _ | .among _ _ | .like _ _ | .null _ | .empty _ => [leaf.field]

/-- The values that a leaf stores. Where case does not matter, a text is in upper case, and so is
everything in a list. A pattern has its wildcards, and a list of one value is that value. Keys are
the literals as they were given. -/
def requests (leaf : Conditional) : List Parameters.Request :=
  let field := leaf.field.name
  match leaf.test with
  | .compare _ (.text content) false =>
      [⟨field, .text content, .text (Uppercase.ofText content)⟩]
  | .compare _ value _ => [⟨field, value, value⟩]
  | .compareField _ _ _ => []
  | .between low high => [⟨field, low, low⟩, ⟨field, high, high⟩]
  | .among [] _ => []
  | .among [value] caseSensitive =>
      [⟨field, .list [value], if caseSensitive then value else value.toUpper⟩]
  | .among values caseSensitive =>
      [⟨field, .list values, .list (if caseSensitive then values else values.map Value.toUpper)⟩]
  | .like pattern caseSensitive =>
      [⟨field, .text pattern.text, .text (pattern.withWildcards
        (if caseSensitive then pattern.text else Uppercase.ofText pattern.text))⟩]
  | .null _ | .empty _ => []

/-- A leaf binds what it stores, and its predicate has the names in their order. -/
theorem bind_eq_bindEach (leaf : Conditional) (emptyList : EmptyList) (parameters : Parameters) :
    ((leaf.bind emptyList parameters).1.placeholders, (leaf.bind emptyList parameters).2) =
      parameters.bindEach leaf.requests := by
  rcases leaf with ⟨field, test⟩
  cases test with
  | compare operator value caseSensitive =>
      have requests_eq : requests ⟨field, .compare operator value caseSensitive⟩ =
          [⟨field.name, value, value.foldUnless (!(!caseSensitive && value.isText))⟩] := by
        cases value <;> cases caseSensitive <;> rfl
      rw [requests_eq]
      cases operator <;> rfl
  | compareField operator other caseSensitive => rfl
  | between low high => rfl
  | among values caseSensitive =>
      match values with
      | [] => cases emptyList <;> rfl
      | [value] => rfl
      | first :: second :: others =>
          cases caseSensitive with
          | false => rfl
          | true =>
              have stored_eq :
                  (first :: second :: others).map (fun value => value.foldUnless true) =
                    first :: second :: others := List.map_id _
              simp only [bind, requests, stored_eq]
              rfl
  | like pattern caseSensitive =>
      simp only [bind, requests, LikePattern.boundText, LikePattern.wrap_eq_withWildcards]
      rfl
  | null negated => rfl
  | empty negated => rfl

theorem placeholders_bind (leaf : Conditional) (emptyList : EmptyList) (parameters : Parameters) :
    (leaf.bind emptyList parameters).1.placeholders = (parameters.bindEach leaf.requests).1 :=
  congrArg Prod.fst (leaf.bind_eq_bindEach emptyList parameters)

theorem fields_bind_subset (leaf : Conditional) (emptyList : EmptyList) (parameters : Parameters) :
    (leaf.bind emptyList parameters).1.fields ⊆ leaf.fields := by
  rcases leaf with ⟨field, test⟩
  cases test with
  | compare operator value caseSensitive => cases operator <;> exact List.Subset.refl _
  | compareField operator other caseSensitive => exact List.Subset.refl _
  | between low high => exact List.Subset.refl _
  | among values caseSensitive =>
      match values with
      | [] =>
          cases emptyList with
          | alwaysFalse => exact List.nil_subset _
          | nothing => exact List.Subset.refl _
      | [value] => exact List.Subset.refl _
      | first :: second :: others => exact List.Subset.refl _
  | like pattern caseSensitive => exact List.Subset.refl _
  | null negated => exact List.Subset.refl _
  | empty negated => exact List.Subset.refl _

theorem parameters_bind (leaf : Conditional) (emptyList : EmptyList) (parameters : Parameters) :
    (leaf.bind emptyList parameters).2 = (parameters.bindEach leaf.requests).2 :=
  congrArg Prod.snd (leaf.bind_eq_bindEach emptyList parameters)

theorem names_bind (leaf : Conditional) (emptyList : EmptyList) (parameters : Parameters) :
    (leaf.bind emptyList parameters).2.names =
      (parameters.names ++ (leaf.bind emptyList parameters).1.placeholders).eraseDups := by
  rw [leaf.placeholders_bind, leaf.parameters_bind]
  exact Parameters.names_bindEach leaf.requests

theorem reads_bind (leaf : Conditional) (emptyList : EmptyList) (parameters : Parameters) :
    List.Forall₂ (fun name request => (leaf.bind emptyList parameters).2.Reads name request.value)
      (leaf.bind emptyList parameters).1.placeholders leaf.requests := by
  rw [leaf.placeholders_bind, leaf.parameters_bind]
  exact Parameters.reads_bindEach leaf.requests

end Conditional

namespace Criteria

mutual

/-- The questions that criteria ask about fields, from left to right. -/
def leaves : Criteria → List Conditional
  | .conditional leaf => [leaf]
  | .not criteria => criteria.leaves
  | .group _ members => allLeaves members
  | .personal _ => []

def allLeaves : List Criteria → List Conditional
  | [] => []
  | criteria :: rest => criteria.leaves ++ allLeaves rest

end

mutual

/-- The fragments of text in criteria, at any depth, from left to right. -/
def fragments : Criteria → List PersonalCriteria
  | .conditional _ => []
  | .not criteria => criteria.fragments
  | .group _ members => allFragments members
  | .personal leaf => [leaf]

def allFragments : List Criteria → List PersonalCriteria
  | [] => []
  | criteria :: rest => criteria.fragments ++ allFragments rest

end

theorem filter_appliesInCount {criteria : List Criteria}
    (no_fragments : allFragments criteria = []) :
    criteria.filter appliesInCount = criteria := by
  induction criteria with
  | nil => rfl
  | cons first rest ih =>
      simp only [allFragments, List.append_eq_nil_iff] at no_fragments
      have first_applies : first.appliesInCount = true := by
        cases first with
        | personal leaf => simp [fragments] at no_fragments
        | _ => rfl
      rw [List.filter_cons_of_pos first_applies, ih no_fragments.2]

/-- From some parameters, criteria become conditions and leave other parameters behind. -/
inductive Binds (emptyList : EmptyList) :
    Parameters → List Criteria → List Condition → Parameters → Prop where
  | nil {parameters : Parameters} : Binds emptyList parameters [] [] parameters
  | conditional {before after : Parameters} {leaf : Conditional} {rest : List Criteria}
      {conditions : List Condition}
      (tail : Binds emptyList (leaf.bind emptyList before).2 rest conditions after) :
      Binds emptyList before (.conditional leaf :: rest)
        (.predicate (leaf.bind emptyList before).1 :: conditions) after
  | not {before between after : Parameters} {criteria : Criteria} {condition : Condition}
      {rest : List Criteria} {conditions : List Condition}
      (inner : Binds emptyList before [criteria] [condition] between)
      (tail : Binds emptyList between rest conditions after) :
      Binds emptyList before (.not criteria :: rest) (.not condition :: conditions) after
  | group {before between after : Parameters} {operator : LogicalOperator}
      {members rest : List Criteria} {memberConditions conditions : List Condition}
      (inner : Binds emptyList before members memberConditions between)
      (tail : Binds emptyList between rest conditions after) :
      Binds emptyList before (.group operator members :: rest)
        (.group operator memberConditions :: conditions) after
  | personal {before between after : Parameters} {leaf : PersonalCriteria} {rest : List Criteria}
      {conditions : List Condition} (bound : (leaf.bind before).result = .ok between)
      (tail : Binds emptyList between rest conditions after) :
      Binds emptyList before (.personal leaf :: rest) (.fragment leaf.text :: conditions) after

mutual

/-- A criteria that becomes a condition can be put in front of a run. -/
theorem binds_cons_of_bind {emptyList : EmptyList} {before between after : Parameters}
    {criteria : Criteria} {condition : Condition} {rest : List Criteria}
    {conditions : List Condition}
    (bound : (criteria.bind emptyList before).result = .ok (condition, between))
    (tail : Binds emptyList between rest conditions after) :
    Binds emptyList before (criteria :: rest) (condition :: conditions) after := by
  cases criteria with
  | conditional leaf =>
      simp only [bind, Compilation.result_bind_eq_ok_iff, Compilation.result_emit,
        Compilation.result_pure, Except.ok.injEq, Prod.mk.injEq] at bound
      rcases bound with ⟨_, -, rfl, rfl⟩
      exact .conditional tail
  | not criteria =>
      simp only [bind, Compilation.result_bind_eq_ok_iff, Compilation.result_pure,
        Except.ok.injEq, Prod.mk.injEq] at bound
      rcases bound with ⟨⟨inner, middle⟩, inner_bound, rfl, rfl⟩
      exact .not (binds_cons_of_bind inner_bound .nil) tail
  | group operator members =>
      simp only [bind, Compilation.result_bind_eq_ok_iff, Compilation.result_pure,
        Except.ok.injEq, Prod.mk.injEq] at bound
      rcases bound with ⟨⟨inner, middle⟩, inner_bound, rfl, rfl⟩
      exact .group (binds_of_bindAll inner_bound) tail
  | personal leaf =>
      simp only [bind, Compilation.result_bind_eq_ok_iff, Compilation.result_pure,
        Except.ok.injEq, Prod.mk.injEq] at bound
      rcases bound with ⟨middle, leaf_bound, rfl, rfl⟩
      exact .personal leaf_bound tail

theorem binds_of_bindAll {emptyList : EmptyList} {before after : Parameters}
    {criteria : List Criteria} {conditions : List Condition}
    (bound : (bindAll emptyList before criteria).result = .ok (conditions, after)) :
    Binds emptyList before criteria conditions after := by
  cases criteria with
  | nil =>
      simp only [bindAll, Compilation.result_pure, Except.ok.injEq, Prod.mk.injEq] at bound
      rcases bound with ⟨rfl, rfl⟩
      exact .nil
  | cons first rest =>
      simp only [bindAll, Compilation.result_bind_eq_ok_iff, Compilation.result_pure,
        Except.ok.injEq, Prod.mk.injEq] at bound
      rcases bound with ⟨⟨condition, middle⟩, first_bound, ⟨others, last⟩, rest_bound, rfl, rfl⟩
      exact binds_cons_of_bind first_bound (binds_of_bindAll rest_bound)

end

section Runs

variable {emptyList : EmptyList} {before between after : Parameters} {first : Criteria}
  {criteria more : List Criteria} {condition : Condition} {conditions : List Condition}

theorem result_bindAll_cons
    (first_bound : (first.bind emptyList before).result = .ok (condition, between))
    (rest_bound : (bindAll emptyList between criteria).result = .ok (conditions, after)) :
    (bindAll emptyList before (first :: criteria)).result =
      .ok (condition :: conditions, after) := by
  simp only [bindAll, Compilation.bind_of_ok first_bound, Compilation.bind_of_ok rest_bound]
  rfl

theorem result_bind_of_bindAll
    (bound : (bindAll emptyList before [first]).result = .ok ([condition], after)) :
    (first.bind emptyList before).result = .ok (condition, after) := by
  simp only [bindAll, Compilation.result_bind_eq_ok_iff, Compilation.result_pure, Except.ok.injEq,
    Prod.mk.injEq, List.cons.injEq] at bound
  rcases bound with ⟨⟨condition, between⟩, first_bound, _, ⟨rfl, rfl⟩, ⟨rfl, -⟩, rfl⟩
  exact first_bound

/-- Binding gives what a run of it says. -/
theorem Binds.result_bindAll (run : Binds emptyList before criteria conditions after) :
    (bindAll emptyList before criteria).result = .ok (conditions, after) := by
  induction run with
  | nil => rfl
  | conditional tail ih => exact result_bindAll_cons rfl ih
  | not inner tail ih_inner ih_tail =>
      apply result_bindAll_cons _ ih_tail
      rw [bind, Compilation.bind_of_ok (result_bind_of_bindAll ih_inner)]
      rfl
  | group inner tail ih_inner ih_tail =>
      apply result_bindAll_cons _ ih_tail
      rw [bind, Compilation.bind_of_ok ih_inner]
      rfl
  | personal bound tail ih =>
      apply result_bindAll_cons _ ih
      rw [bind, Compilation.bind_of_ok bound]
      rfl

theorem Binds.length_eq (run : Binds emptyList before criteria conditions after) :
    conditions.length = criteria.length := by
  induction run with
  | nil => rfl
  | _ => simp_all

/-- A run over two lists is a run over the first and then one over the second. -/
theorem binds_append_iff :
    Binds emptyList before (criteria ++ more) conditions after ↔
      ∃ front back between, conditions = front ++ back ∧
        Binds emptyList before criteria front between ∧ Binds emptyList between more back after := by
  constructor
  · intro run
    induction criteria generalizing before conditions with
    | nil => exact ⟨[], conditions, before, rfl, .nil, run⟩
    | cons first rest ih =>
        cases run with
        | conditional tail =>
            rcases ih tail with ⟨front, back, between, rfl, front_run, back_run⟩
            exact ⟨_ :: front, back, between, rfl, .conditional front_run, back_run⟩
        | not inner tail =>
            rcases ih tail with ⟨front, back, between, rfl, front_run, back_run⟩
            exact ⟨_ :: front, back, between, rfl, .not inner front_run, back_run⟩
        | group inner tail =>
            rcases ih tail with ⟨front, back, between, rfl, front_run, back_run⟩
            exact ⟨_ :: front, back, between, rfl, .group inner front_run, back_run⟩
        | personal bound tail =>
            rcases ih tail with ⟨front, back, between, rfl, front_run, back_run⟩
            exact ⟨_ :: front, back, between, rfl, .personal bound front_run, back_run⟩
  · rintro ⟨front, back, between, rfl, front_run, back_run⟩
    induction front_run with
    | nil => exact back_run
    | conditional tail ih => exact .conditional (ih back_run)
    | not inner tail ih_inner ih_tail => exact .not inner (ih_tail back_run)
    | group inner tail ih_inner ih_tail => exact .group inner (ih_tail back_run)
    | personal bound tail ih => exact .personal bound (ih back_run)

end Runs

mutual

theorem bind_succeeds (emptyList : EmptyList) (parameters : Parameters) (criteria : Criteria)
    (no_fragments : criteria.fragments = []) :
    ∃ outcome, (criteria.bind emptyList parameters).result = .ok outcome := by
  cases criteria with
  | conditional leaf =>
      simp only [bind]
      exact ⟨_, rfl⟩
  | not criteria =>
      rcases bind_succeeds emptyList parameters criteria no_fragments with ⟨outcome, succeeds⟩
      simp only [bind, Compilation.bind_of_ok succeeds]
      exact ⟨_, rfl⟩
  | group operator members =>
      rcases bindAll_succeeds emptyList parameters members no_fragments with ⟨outcome, succeeds⟩
      simp only [bind, Compilation.bind_of_ok succeeds]
      exact ⟨_, rfl⟩
  | personal leaf => simp [fragments] at no_fragments

theorem bindAll_succeeds (emptyList : EmptyList) (parameters : Parameters)
    (criteria : List Criteria) (no_fragments : allFragments criteria = []) :
    ∃ outcome, (bindAll emptyList parameters criteria).result = .ok outcome := by
  cases criteria with
  | nil =>
      simp only [bindAll]
      exact ⟨_, rfl⟩
  | cons first rest =>
      simp only [allFragments, List.append_eq_nil_iff] at no_fragments
      rcases bind_succeeds emptyList parameters first no_fragments.1 with
        ⟨⟨condition, between⟩, first_ok⟩
      rcases bindAll_succeeds emptyList between rest no_fragments.2 with ⟨outcome, rest_ok⟩
      simp only [bindAll, Compilation.bind_of_ok first_ok, Compilation.bind_of_ok rest_ok]
      exact ⟨_, rfl⟩

end

/-- Without fragments, a run binds what its leaves store, and its conditions have the names in their
order. -/
theorem Binds.eq_bindEach {emptyList : EmptyList} {before after : Parameters}
    {criteria : List Criteria} {conditions : List Condition}
    (run : Binds emptyList before criteria conditions after)
    (no_fragments : allFragments criteria = []) :
    (conditions.flatMap Condition.placeholders, after) =
      before.bindEach ((allLeaves criteria).flatMap Conditional.requests) := by
  induction run with
  | nil => rfl
  | @conditional before after leaf rest conditions tail ih =>
      have leaf_bound := leaf.bind_eq_bindEach emptyList before
      simp only [allLeaves, leaves, List.flatMap_append, Parameters.bindEach_append]
      rw [List.flatMap_singleton, ← leaf_bound, ← ih no_fragments]
      simp [Condition.placeholders, Condition.predicates]
  | @not before between after criteria condition rest conditions inner tail ih_inner ih_tail =>
      simp only [allFragments, fragments, List.append_eq_nil_iff] at no_fragments
      have inner_bound := ih_inner (by simpa [allFragments] using no_fragments.1)
      simp only [allLeaves, List.append_nil] at inner_bound
      simp only [allLeaves, leaves, List.flatMap_append, Parameters.bindEach_append]
      rw [← inner_bound, ← ih_tail no_fragments.2]
      simp [Condition.placeholders, Condition.predicates]
  | group inner tail ih_inner ih_tail =>
      simp only [allFragments, fragments, List.append_eq_nil_iff] at no_fragments
      simp only [allLeaves, leaves, List.flatMap_append, Parameters.bindEach_append]
      rw [← ih_inner no_fragments.1, ← ih_tail no_fragments.2, List.flatMap_cons,
        Condition.placeholders_group]
  | personal bound tail ih => simp [allFragments, fragments] at no_fragments

end Criteria

end ObjectQuery
