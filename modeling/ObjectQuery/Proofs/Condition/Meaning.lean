import ObjectQuery.Proofs.Condition.Spelling

/-!
# Meaning of conditions

Criteria hold or not, given which predicates do. The text that they become says the same: a member
of a group and what is negated are each read as one factor, since a text in which an operator stands
open is put into parentheses. What stands behind WHERE is read as the conjunction of the criteria.
-/

namespace ObjectQuery

/-- A Boolean function of predicates, which are known by their texts. -/
abbrev Meaning := (String → Bool) → Bool

/-- A text is read as one factor that has this meaning. -/
def Means (text : String) (meaning : Meaning) : Prop :=
  ∃ items reading, Reading.ReadsAs text items ∧ Reading.IsFactor items reading ∧
    ∀ truth, reading.eval truth = meaning truth

/-- In a group of this kind, whatever stands before it, a text is read as members that have this
meaning together. -/
def IsMember (operator : LogicalOperator) (text : String) (meaning : Meaning) : Prop :=
  ∃ items, Reading.ReadsAs text items ∧ ∀ before, ∃ earlier last,
    (∀ outer, Reading.run (Reading.awaitingMember operator before outer) items =
      some (Reading.memberComplete operator earlier last outer)) ∧
    ∀ truth, (Reading.join operator earlier last).eval truth =
      operator.holds (before.toList.map (Reading.eval truth) ++ [meaning truth])

theorem Means.isMember {text : String} {meaning : Meaning} (means : Means text meaning)
    (operator : LogicalOperator) : IsMember operator text meaning := by
  rcases means with ⟨items, reading, reads, factor, value_eq⟩
  refine ⟨items, reads, ?_⟩
  intro before
  refine ⟨before, reading, fun outer => factor.run_awaitingMember, ?_⟩
  intro truth
  simp [Reading.eval_join, value_eq]

namespace IsMember

variable {operator : LogicalOperator} {text : String} {texts : List String} {meaning : Meaning}
  {meanings : List Meaning}

/-- Members with their operator between them are read one after the other. -/
theorem intercalate (each : List.Forall₂ (IsMember operator) texts meanings)
    (nonempty : texts ≠ []) :
    IsMember operator ((" " ++ operator.keyword ++ " ").intercalate texts)
      fun truth => operator.holds (meanings.map fun meaning => meaning truth) := by
  induction each with
  | nil => exact absurd rfl nonempty
  | @cons text meaning texts meanings first rest ih =>
      -- What has been read of a group is one reading, so the rest can be read behind any reading.
      cases rest with
      | nil => simpa using first
      | @cons next nextMeaning others otherMeanings second rest =>
          rcases first with ⟨items, reads, first_run⟩
          rcases ih (List.cons_ne_nil _ _) with ⟨behind, behind_reads, behind_run⟩
          refine ⟨items ++ (operator.item :: behind), ?_, ?_⟩
          · rw [String.intercalate_cons_cons]
            have read := (reads.blank (.conjunction operator)).blank behind_reads
            simpa only [String.append_assoc, List.append_assoc, List.singleton_append] using read
          · intro before
            rcases first_run before with ⟨before', reading, run_first, first_eq⟩
            rcases behind_run (some (Reading.join operator before' reading)) with
              ⟨earlier, last, run_eq, last_eq⟩
            refine ⟨earlier, last, ?_, ?_⟩
            · intro outer
              rw [Reading.run_append, run_first, Option.bind_some, Reading.run_cons,
                Reading.step_memberComplete_item, Option.bind_some, run_eq]
            · intro truth
              let values := before.toList.map (Reading.eval truth)
              let later := (nextMeaning :: otherMeanings).map fun meaning => meaning truth
              calc
                (Reading.join operator earlier last).eval truth
                  = operator.holds [(Reading.join operator before' reading).eval truth,
                      operator.holds later] := last_eq truth
                _ = operator.holds (values ++ [meaning truth] ++ later) := by
                    rw [first_eq, LogicalOperator.holds_cons_holds,
                      LogicalOperator.holds_append_holds]
                _ = operator.holds (values ++ [operator.holds (meaning truth :: later)]) := by
                    rw [LogicalOperator.holds_append_holds, List.append_assoc,
                      List.singleton_append]

/-- In parentheses, members are one factor. -/
theorem exists_factor {items : List Reading.Item}
    (run : ∀ before, ∃ earlier last,
      (∀ outer, Reading.run (Reading.awaitingMember operator before outer) items =
        some (Reading.memberComplete operator earlier last outer)) ∧
      ∀ truth, (Reading.join operator earlier last).eval truth =
        operator.holds (before.toList.map (Reading.eval truth) ++ [meaning truth])) :
    ∃ reading, Reading.IsFactor (.opening :: items ++ [.closing]) reading ∧
      ∀ truth, reading.eval truth = meaning truth := by
  rcases run none with ⟨earlier, last, run_eq, value_eq⟩
  refine ⟨Reading.join operator earlier last, ?_, by simpa using value_eq⟩
  intro level outer
  have opened : Reading.step (.awaiting level outer) .opening =
      some (Reading.awaitingMember operator none (level :: outer)) := by
    cases operator <;> rfl
  rw [List.cons_append, Reading.run_cons, opened, Option.bind_some, Reading.run_append, run_eq,
    Option.bind_some, Reading.run_cons, Reading.step_memberComplete_closing]
  rfl

theorem enclosed (member : IsMember operator text meaning) :
    Means ("(" ++ text ++ ")") meaning := by
  rcases member with ⟨items, reads, run⟩
  rcases exists_factor run with ⟨reading, factor, value_eq⟩
  exact ⟨_, reading, reads.enclosed, factor, value_eq⟩

theorem negated (member : IsMember operator text meaning) :
    Means ("NOT (" ++ text ++ ")") fun truth => !meaning truth := by
  rcases member with ⟨items, reads, run⟩
  rcases exists_factor run with ⟨reading, factor, value_eq⟩
  refine ⟨_, _, reads.not, factor.not, ?_⟩
  intro truth
  rw [Reading.eval, value_eq]

theorem ofText? (member : IsMember operator text meaning) :
    ∃ reading, Reading.ofText? text = some reading ∧
      ∀ truth, reading.eval truth = meaning truth := by
  rcases member with ⟨items, reads, run⟩
  rcases run none with ⟨earlier, last, run_eq, value_eq⟩
  refine ⟨Reading.join operator earlier last, ?_, by simpa using value_eq⟩
  have state_eq := run_eq []
  have opened : Reading.State.awaiting {} [] = Reading.awaitingMember operator none [] := by
    cases operator <;> rfl
  rw [Reading.ofText?, reads.items_words, opened]
  simp only [Option.bind_eq_bind, Option.bind_some, state_eq, Reading.result?_memberComplete]

/-- Members of a conjunction are read without parentheses around them. -/
theorem read_conjunction (each : List.Forall₂ (IsMember .and) texts meanings)
    (nonempty : texts ≠ []) :
    ∃ reading, Reading.ofText? (" AND ".intercalate texts) = some reading ∧
      ∀ truth, reading.eval truth = meanings.all fun meaning => meaning truth := by
  have divider : " " ++ LogicalOperator.and.keyword ++ " " = " AND " := by decide
  rcases (intercalate each nonempty).ofText? with ⟨reading, read, value_eq⟩
  rw [divider] at read
  refine ⟨reading, read, ?_⟩
  intro truth
  rw [value_eq, LogicalOperator.holds, List.all_map]
  rfl

end IsMember

namespace Means

variable {text : String} {texts : List String} {meaning : Meaning} {meanings : List Meaning}

theorem atom (reads : Reading.ReadsAs text [.atom text])
    (value_eq : ∀ truth, (Reading.atom text).eval truth = meaning truth) : Means text meaning :=
  ⟨_, _, reads, Reading.isFactor_atom text, value_eq⟩

theorem constant (value : Bool) :
    Means (if value then alwaysTrue else alwaysFalse) fun _ => value := by
  refine .atom (Predicate.readsAs_constant value) ?_
  intro truth
  cases value <;> rfl

theorem not (means : Means text meaning) :
    Means ("NOT (" ++ text ++ ")") fun truth => !meaning truth :=
  (means.isMember .and).negated

theorem group (operator : LogicalOperator) (means : List.Forall₂ Means texts meanings) :
    Means (groupText operator texts)
      fun truth => operator.holds (meanings.map fun meaning => meaning truth) := by
  match means with
  | .nil =>
      cases operator with
      | and => exact .constant true
      | or => exact .constant false
  | .cons first .nil => simpa [groupText] using first
  | .cons first (.cons second rest) =>
      have members := List.Forall₂.imp (fun _ _ means => means.isMember operator)
        (.cons first (.cons second rest))
      exact (IsMember.intercalate members (List.cons_ne_nil _ _)).enclosed

theorem read_conjunction (means : List.Forall₂ Means texts meanings) (nonempty : texts ≠ []) :
    ∃ reading, Reading.ofText? (" AND ".intercalate texts) = some reading ∧
      ∀ truth, reading.eval truth = meanings.all fun meaning => meaning truth :=
  IsMember.read_conjunction (means.imp fun _ _ means => means.isMember .and) nonempty

end Means

theorem Operand.dot_mem_text {operand : Operand} (fields_ne : operand.fields ≠ []) :
    '.' ∈ operand.text.toList := by
  cases operand with
  | field subject folded =>
      cases folded <;> simp [text, callText, subject.dot_mem_path]
  | placeholder name => simp [fields] at fields_ne

theorem Predicate.dot_mem_text {predicate : Predicate} (fields_ne : predicate.fields ≠ []) :
    '.' ∈ predicate.text.toList := by
  cases predicate with
  | binary left operator right =>
      rw [fields, ne_eq, List.append_eq_nil_iff, not_and_or] at fields_ne
      rcases fields_ne with in_left | in_right
      · simp [text, Operand.dot_mem_text in_left]
      · simp [text, Operand.dot_mem_text in_right]
  | between subject low high => simp [text, Operand.dot_mem_text fields_ne]
  | amongListed subject list => simp [text, Operand.dot_mem_text fields_ne]
  | amongNothing subject => simp [text, Operand.dot_mem_text fields_ne]
  | unary subject operator => simp [text, Operand.dot_mem_text fields_ne]
  | never => simp [fields] at fields_ne

namespace Conditional

/-- The text of a leaf's predicate, once its values are bound. -/
def boundText (leaf : Conditional) (parameters : Parameters) : String :=
  (leaf.bind .alwaysFalse parameters).1.text

/-- A leaf holds if its predicate does. Nothing is in a list without values. -/
def meaning (leaf : Conditional) (parameters : Parameters) : Meaning := fun truth =>
  match leaf.test with
  | .among [] _ => false
  | _ => truth (leaf.boundText parameters)

/-- No predicate of a leaf is written like a constant, unless its list has no values. -/
theorem eval_boundText (leaf : Conditional) (parameters : Parameters) (truth : String → Bool) :
    (Reading.atom (leaf.boundText parameters)).eval truth = leaf.meaning parameters truth := by
  -- A predicate that asks about a field has a dot in its text, and the constants have none.
  have asked (fields_ne : (leaf.bind .alwaysFalse parameters).1.fields ≠ []) :
      (Reading.atom (leaf.boundText parameters)).eval truth =
        truth (leaf.boundText parameters) := by
    have dot := Predicate.dot_mem_text fields_ne
    have not_constant : ∀ constant, '.' ∉ constant.toList →
        leaf.boundText parameters ≠ constant := by
      rintro constant no_dot rfl
      exact no_dot dot
    rw [Reading.eval, if_neg (not_constant "1 = 1" (by decide)),
      if_neg (not_constant "1 = 0" (by decide))]
  rcases leaf with ⟨field, test⟩
  cases test with
  | compare operator value caseSensitive =>
      exact asked (by cases operator <;> exact List.cons_ne_nil _ _)
  | compareField operator other caseSensitive => exact asked (List.cons_ne_nil _ _)
  | between low high => exact asked (List.cons_ne_nil _ _)
  | among values caseSensitive =>
      rcases values with _ | ⟨first, _ | ⟨second, others⟩⟩
      · rfl
      · exact asked (List.cons_ne_nil _ _)
      · exact asked (List.cons_ne_nil _ _)
  | like pattern caseSensitive => exact asked (List.cons_ne_nil _ _)
  | null negated => exact asked (List.cons_ne_nil _ _)
  | empty negated => exact asked (List.cons_ne_nil _ _)

end Conditional

namespace Criteria

/-- The parameters once all values in criteria are bound. -/
def bound (criteria : Criteria) (parameters : Parameters) : Parameters :=
  (parameters.bindEach (criteria.leaves.flatMap Conditional.requests)).2

mutual

/-- What criteria mean where these parameters are bound already. -/
def meaning (parameters : Parameters) : Criteria → Meaning
  | .conditional leaf => leaf.meaning parameters
  | .not criteria => fun truth => !criteria.meaning parameters truth
  | .group .and members => fun truth =>
      (meanings parameters members).all fun meaning => meaning truth
  | .group .or members => fun truth =>
      (meanings parameters members).any fun meaning => meaning truth
  | .personal leaf => fun truth => truth leaf.text

/-- What several criteria mean, each where the values of those before it are bound. -/
def meanings (parameters : Parameters) : List Criteria → List Meaning
  | [] => []
  | criteria :: rest => criteria.meaning parameters :: meanings (criteria.bound parameters) rest

end

variable {before after : Parameters} {criteria : List Criteria} {conditions : List Condition}

theorem Binds.means (run : Binds .alwaysFalse before criteria conditions after)
    (no_fragments : allFragments criteria = [])
    (plain : ∀ leaf ∈ allLeaves criteria, leaf.IsPlain) :
    List.Forall₂ Means (conditions.map Condition.text) (meanings before criteria) := by
  induction run with
  | nil => exact .nil
  | @conditional before after leaf rest conditions tail ih =>
      simp only [allLeaves, leaves, List.cons_append, List.nil_append,
        List.forall_mem_cons] at plain
      have reads := Predicate.readsAs (leaf.bind_isPlain plain.1 .alwaysFalse before)
        (leaf.bind_isLegible before)
      have after_leaf :
          (leaf.bind .alwaysFalse before).2 = (Criteria.conditional leaf).bound before := by
        simp [Criteria.bound, leaves, leaf.parameters_bind]
      rw [after_leaf] at ih
      exact .cons (.atom reads (leaf.eval_boundText before)) (ih no_fragments plain.2)
  | @not before between after criteria condition rest conditions inner tail ih_inner ih_tail =>
      simp only [allFragments, fragments, List.append_eq_nil_iff] at no_fragments
      simp only [allLeaves, leaves, List.forall_mem_append] at plain
      have inner_fragments : allFragments [criteria] = [] := by
        simpa [allFragments] using no_fragments.1
      have between_eq : between = (Criteria.not criteria).bound before := by
        have inner_bound := congrArg Prod.snd (inner.eq_bindEach inner_fragments)
        simpa [Criteria.bound, allLeaves, leaves] using inner_bound
      have inner_means := ih_inner inner_fragments (by simpa [allLeaves] using plain.1)
      have tail_means := ih_tail no_fragments.2 plain.2
      rw [between_eq] at tail_means
      rcases inner_means with _ | ⟨negated, -⟩
      exact .cons negated.not tail_means
  | @group before between after operator members rest memberConditions conditions inner tail
      ih_inner ih_tail =>
      simp only [allFragments, fragments, List.append_eq_nil_iff] at no_fragments
      simp only [allLeaves, leaves, List.forall_mem_append] at plain
      have between_eq : between = (Criteria.group operator members).bound before :=
        congrArg Prod.snd (inner.eq_bindEach no_fragments.1)
      have members_mean := Means.group operator (ih_inner no_fragments.1 plain.1)
      have tail_means := ih_tail no_fragments.2 plain.2
      rw [between_eq] at tail_means
      refine .cons ?_ tail_means
      rw [Condition.text, Condition.memberTexts_eq_map]
      cases operator with
      | and => simpa [Criteria.meaning, LogicalOperator.holds, Function.comp_def] using members_mean
      | or => simpa [Criteria.meaning, LogicalOperator.holds, Function.comp_def] using members_mean
  | personal bound tail ih => simp [allFragments, fragments] at no_fragments

/-- Criteria without fragments become conditions whose text, behind the keyword, is read as their
conjunction. Without criteria there is no text. -/
theorem whereText_means (start : Parameters) (criteria : List Criteria)
    (no_fragments : allFragments criteria = [])
    (plain : ∀ leaf ∈ allLeaves criteria, leaf.IsPlain) :
    ∃ conditions final,
      (bindAll .alwaysFalse start criteria).result = .ok (conditions, final) ∧
      (criteria = [] → Condition.whereText conditions = "") ∧
      (criteria ≠ [] → ∃ body reading,
        Condition.whereText conditions = " WHERE " ++ body ∧
        Reading.ofText? body = some reading ∧
        ∀ truth, reading.eval truth =
          (meanings start criteria).all fun meaning => meaning truth) := by
  rcases bindAll_succeeds .alwaysFalse start criteria no_fragments with
    ⟨⟨conditions, final⟩, succeeds⟩
  have run := binds_of_bindAll succeeds
  refine ⟨conditions, final, succeeds, ?_, ?_⟩
  · rintro rfl
    cases run
    rfl
  · intro nonempty
    have conditions_mean := run.means no_fragments plain
    have conditions_ne : conditions ≠ [] := by
      rintro rfl
      cases run
      exact nonempty rfl
    have texts_ne : conditions.map Condition.text ≠ [] := by simpa using conditions_ne
    rcases Means.read_conjunction conditions_mean texts_ne with ⟨reading, read, value_eq⟩
    refine ⟨" AND ".intercalate (conditions.map Condition.text), reading, ?_, read, value_eq⟩
    rw [Condition.whereText, if_neg (by simpa using conditions_ne), Condition.memberTexts_eq_map]

/-- A range within a disjunction, groups of one and of no members, and a list without values. -/
theorem whereText_means_nested :
    let range : Conditional := { field := { name := "a" }, test := .between .null .null }
    let nothing : Conditional := { field := { name := "b.c" }, test := .among [] }
    let criteria : List Criteria :=
      [.group .or [.conditional range, .not (.group .and [])],
        .not (.group .or [.conditional nothing]), .group .or [.group .and [.conditional range]]]
    ∃ conditions final reading body,
      (bindAll .alwaysFalse {} criteria).result = .ok (conditions, final) ∧
        Condition.whereText conditions = " WHERE " ++ body ∧
        Reading.ofText? body = some reading ∧ reading.eval (fun _ => true) = true ∧
        reading.eval (fun _ => false) = false := by
  intro range nothing criteria
  have plain : ∀ leaf ∈ [range, nothing, range], leaf.IsPlain := by decide
  rcases whereText_means {} criteria rfl plain with ⟨conditions, final, succeeds, -, clause⟩
  rcases clause (List.cons_ne_nil _ _) with ⟨body, reading, text_eq, read, value_eq⟩
  refine ⟨conditions, final, reading, body, succeeds, text_eq, read, ?_, ?_⟩
  · rw [value_eq]
    rfl
  · rw [value_eq]
    rfl

end Criteria

end ObjectQuery
