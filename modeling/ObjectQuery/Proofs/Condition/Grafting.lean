import ObjectQuery.Proofs.Condition.Meaning

/-!
# Grafted texts

A text that is a condition by itself is pasted among others. Its words and its items stay what they
were, and so does what is read within its parentheses. Outside of them the reader goes on from what
stands before the text, so an OR there takes all of that for its left side. Among alternatives this
is no harm, but in a conjunction the text is one operand only if no OR stands outside its
parentheses.
-/

namespace ObjectQuery

namespace Reading

section Words

theorem endWord_append (characters : List Char) (words more : List Word) :
    endWord characters (words ++ more) = endWord characters words ++ more := by
  unfold endWord
  split <;> rfl

theorem scan_append_of_endsWord (text : List Char) {rest : List Char} (ends : EndsWord rest) :
    scan (text ++ rest) = ((scan text).1, (scan text).2 ++ (scan rest).2) := by
  induction text with
  | nil => exact Prod.ext ends rfl
  | cons c text ih =>
      simp only [List.cons_append, scan, ih, endWord_append]
      split_ifs <;> rfl

theorem divide_append_of_endsWord (text : List Char) {rest : List Char} (ends : EndsWord rest) :
    divide (text ++ rest) = divide text ++ divide rest := by
  have ends_eq : (scan rest).1 = [] := ends
  simp only [divide, scan_append_of_endsWord text ends, endWord_append, ends_eq]
  rfl

/-- A call whose argument is not complete would take its words from what stands behind. -/
theorem foldCalls_append {first : List Word} (no_call : .upper ∉ foldCalls first)
    (second : List Word) : foldCalls (first ++ second) = foldCalls first ++ foldCalls second := by
  fun_induction foldCalls first with
  | case1 => rfl
  | case2 argument rest ih =>
      simp only [List.mem_cons, reduceCtorEq, false_or] at no_call
      simp only [List.cons_append, foldCalls, ih no_call]
  | case3 word rest not_call ih =>
      simp only [List.mem_cons, not_or] at no_call
      rw [List.cons_append, foldCalls_cons (Ne.symm no_call.1), ih no_call.2, List.cons_append]

theorem upper_not_mem_of_items {words : List Word} {read : List Item}
    (read_eq : items words = some read) : .upper ∉ words := by
  fun_induction items words generalizing read with
  | case1 => exact List.not_mem_nil
  | case15 => cases read_eq
  | _ =>
      rename_i ih
      rcases Option.map_eq_some_iff.mp read_eq with ⟨behind, behind_eq, -⟩
      simpa using ih behind_eq

theorem items_append {words : List Word} {read : List Item} (read_eq : items words = some read)
    (more : List Word) : items (words ++ more) = (items more).map fun others => read ++ others := by
  fun_induction items words generalizing read with
  | case1 =>
      cases read_eq
      exact Option.map_id'.symm
  | case15 => cases read_eq
  | _ =>
      rename_i ih
      rcases Option.map_eq_some_iff.mp read_eq with ⟨behind, behind_eq, rfl⟩
      simp only [List.cons_append, items, ih behind_eq, Option.map_map]
      rfl

/-- A text that can be read by itself has the same items among others. -/
theorem readsAs_of_items {text : String} {read : List Item}
    (read_eq : items (words text.toList) = some read) : ReadsAs text read := by
  refine ⟨words text.toList, ?_, items_append read_eq⟩
  intro rest ends
  rw [words, divide_append_of_endsWord _ ends, foldCalls_append (upper_not_mem_of_items read_eq)]
  rfl

end Words

/-- Whether an OR stands outside of all parentheses, of which so many are open already. -/
def hasOuterOr : (depth : ℕ) → List Item → Bool
  | _, [] => false
  | depth, .opening :: rest => hasOuterOr (depth + 1) rest
  | depth, .closing :: rest => hasOuterOr (depth - 1) rest
  | 0, .or :: _ => true
  | depth, _ :: rest => hasOuterOr depth rest

namespace State

/-- The levels of the parentheses that are open. -/
def outer : State → List Level
  | .awaiting _ outer | .complete _ _ outer => outer

/-- A state within further parentheses. -/
def within (levels : List Level) : State → State
  | .awaiting level outer => .awaiting level (outer ++ levels)
  | .complete disjunction conjunction outer => .complete disjunction conjunction (outer ++ levels)

end State

section Step

variable {state next : State} {item : Item} {items : List Item} {levels : List Level}

/-- What a step does, by the item that is read. -/
inductive Steps : State → Item → State → Prop where
  | not {level : Level} {outer : List Level} :
      Steps (.awaiting level outer) .not
        (.awaiting { level with negations := level.negations + 1 } outer)
  | opening {level : Level} {outer : List Level} :
      Steps (.awaiting level outer) .opening (.awaiting {} (level :: outer))
  | atom {level : Level} {outer : List Level} {text : String} :
      Steps (.awaiting level outer) (.atom text) (level.complete (.atom text) outer)
  | and {disjunction : Option Reading} {conjunction : Reading} {outer : List Level} :
      Steps (.complete disjunction conjunction outer) .and
        (.awaiting { disjunction, conjunction := some conjunction } outer)
  | or {disjunction : Option Reading} {conjunction : Reading} {outer : List Level} :
      Steps (.complete disjunction conjunction outer) .or
        (.awaiting { disjunction := some (join .or disjunction conjunction) } outer)
  | closing {disjunction : Option Reading} {conjunction : Reading} {level : Level}
      {outer : List Level} :
      Steps (.complete disjunction conjunction (level :: outer)) .closing
        (level.complete (join .or disjunction conjunction) outer)

theorem steps_of_step (step_eq : step state item = some next) : Steps state item next := by
  cases state with
  | awaiting level outer =>
      cases item with
      | not =>
          cases step_eq
          exact .not
      | opening =>
          cases step_eq
          exact .opening
      | atom text =>
          cases step_eq
          exact .atom
      | _ => cases step_eq
  | complete disjunction conjunction outer =>
      cases item with
      | and =>
          cases step_eq
          exact .and
      | or =>
          cases step_eq
          exact .or
      | closing =>
          cases outer with
          | nil => cases step_eq
          | cons level outer =>
              cases step_eq
              exact .closing
      | _ => cases step_eq

/-- What can be read at all is read in the same way within further parentheses. -/
theorem step_within (step_eq : step state item = some next) (levels : List Level) :
    step (state.within levels) item = some (next.within levels) := by
  cases steps_of_step step_eq <;> rfl

theorem run_within (run_eq : run state items = some next) (levels : List Level) :
    run (state.within levels) items = some (next.within levels) := by
  induction items generalizing state with
  | nil =>
      cases run_eq
      rfl
  | cons item rest ih =>
      rw [run_cons] at run_eq ⊢
      rcases Option.bind_eq_some_iff.mp run_eq with ⟨between, step_eq, rest_eq⟩
      rw [step_within step_eq, Option.bind_some]
      exact ih rest_eq

/-- Further parentheses only make a difference to the one that closes the first of them. -/
theorem step_within_cases {level : Level}
    (step_eq : step (state.within [level]) item = some next) :
    (∃ inner, step state item = some inner ∧ next = inner.within [level]) ∨
      ∃ disjunction conjunction, state = .complete disjunction conjunction [] ∧ item = .closing ∧
        next = level.complete (join .or disjunction conjunction) [] := by
  rcases state with ⟨level', outer⟩ | ⟨disjunction, conjunction, _ | ⟨level', outer⟩⟩
  · left
    cases steps_of_step step_eq <;> exact ⟨_, rfl, rfl⟩
  · cases steps_of_step step_eq with
    | closing => exact Or.inr ⟨disjunction, conjunction, rfl, rfl, rfl⟩
    | _ => exact Or.inl ⟨_, rfl, rfl⟩
  · left
    cases steps_of_step step_eq <;> exact ⟨_, rfl, rfl⟩

/-- An OR that stands outside still does when an item before it has been read. -/
theorem hasOuterOr_of_step (step_eq : step state item = some next)
    (behind : hasOuterOr next.outer.length items = true) :
    hasOuterOr state.outer.length (item :: items) = true := by
  cases steps_of_step step_eq with
  | @or disjunction conjunction outer =>
      cases outer with
      | nil => rfl
      | cons level outer => exact behind
  | _ => simpa [hasOuterOr, State.outer, Level.complete] using behind

end Step

/-- Together with what stands before it, a part of a level has become another one. -/
def Combines (operator : LogicalOperator) (before part whole : Option Reading) : Prop :=
  ∀ truth, operator.holds (whole.toList.map (eval truth)) =
    operator.holds ((before.toList ++ part.toList).map (eval truth))

variable {operator : LogicalOperator} {before part whole : Option Reading}

theorem combines_none (operator : LogicalOperator) (before : Option Reading) :
    Combines operator before none before := by
  intro truth
  rw [Option.toList_none, List.append_nil]

theorem Combines.join (combines : Combines operator before part whole) (reading : Reading) :
    Combines operator before (some (join operator part reading))
      (some (join operator whole reading)) := by
  intro truth
  let value := reading.eval truth
  let values (readings : Option Reading) := readings.toList.map (eval truth)
  have whole_eq :
      operator.holds (values whole) = operator.holds (values before ++ values part) := by
    rw [combines truth, List.map_append]
  calc
    operator.holds [(Reading.join operator whole reading).eval truth]
      = operator.holds (values whole ++ [value]) := by
        rw [LogicalOperator.holds_singleton, eval_join, List.map_append]
        rfl
    _ = operator.holds (values before ++ values part ++ [value]) := by
        rw [← operator.holds_cons_holds, whole_eq, operator.holds_cons_holds]
    _ = operator.holds (values before ++ [(Reading.join operator part reading).eval truth]) := by
        rw [eval_join, operator.holds_append_holds, List.append_assoc, List.map_append]
        rfl
    _ = operator.holds
          ((before.toList ++ [Reading.join operator part reading]).map (eval truth)) := by
        rw [List.map_append]
        rfl

/-- A level that was entered in the middle of a group, beside one that was entered at its start. -/
inductive Level.Follows (before : Option Reading) : LogicalOperator → Level → Level → Prop where
  | and {part whole : Option Reading} {negations : ℕ} (combines : Combines .and before part whole) :
      Follows before .and { conjunction := part, negations } { conjunction := whole, negations }
  | or {part whole conjunction : Option Reading} {negations : ℕ}
      (combines : Combines .or before part whole) :
      Follows before .or { disjunction := part, conjunction, negations }
        { disjunction := whole, conjunction, negations }

/-- Two states of reading the same text, by itself and behind the members of a group. Only the level
of the text itself knows of them. -/
inductive State.Grafted (before : Option Reading) (operator : LogicalOperator) :
    State → State → Prop where
  | awaiting {level level' : Level} (follows : level.Follows before operator level') :
      Grafted before operator (.awaiting level []) (.awaiting level' [])
  | complete {disjunction disjunction' : Option Reading} {conjunction conjunction' : Reading}
      (follows : Level.Follows before operator { disjunction, conjunction := some conjunction }
        { disjunction := disjunction', conjunction := some conjunction' }) :
      Grafted before operator (.complete disjunction conjunction [])
        (.complete disjunction' conjunction' [])
  | within {level level' : Level} (state : State) (follows : level.Follows before operator level') :
      Grafted before operator (state.within [level]) (state.within [level'])

theorem Level.Follows.complete {level level' : Level}
    (follows : level.Follows before operator level') (factor : Reading) :
    State.Grafted before operator (level.complete factor []) (level'.complete factor []) := by
  cases follows with
  | and combines => exact .complete (.and (combines.join _))
  | or combines => exact .complete (.or combines)

namespace State.Grafted

variable {state state' next : State} {item : Item} {items : List Item}

theorem step (grafted : Grafted before operator state state')
    (step_eq : Reading.step state item = some next)
    (inside : operator = .and → item = .or → state.outer ≠ []) :
    ∃ next', Reading.step state' item = some next' ∧ Grafted before operator next next' := by
  cases grafted with
  | awaiting follows =>
      cases steps_of_step step_eq with
      | not =>
          refine ⟨_, rfl, ?_⟩
          cases follows with
          | and combines => exact .awaiting (.and combines)
          | or combines => exact .awaiting (.or combines)
      | opening => exact ⟨_, rfl, .within (.awaiting {} []) follows⟩
      | atom => exact ⟨_, rfl, follows.complete _⟩
  | complete follows =>
      cases steps_of_step step_eq with
      | and => exact ⟨_, rfl, .awaiting follows⟩
      | or =>
          -- An OR ends the conjunction, and with it what stands before the text there.
          cases follows with
          | and combines => exact absurd rfl (inside rfl rfl)
          | or combines => exact ⟨_, rfl, .awaiting (.or (combines.join _))⟩
  | @within level level' state follows =>
      rcases step_within_cases step_eq with
        ⟨inner, inner_eq, rfl⟩ | ⟨disjunction, conjunction, rfl, rfl, rfl⟩
      · exact ⟨_, step_within inner_eq [level'], .within inner follows⟩
      · exact ⟨_, rfl, follows.complete _⟩

theorem run (grafted : Grafted before operator state state')
    (run_eq : Reading.run state items = some next)
    (inside : operator = .and → hasOuterOr state.outer.length items = false) :
    ∃ next', Reading.run state' items = some next' ∧ Grafted before operator next next' := by
  induction items generalizing state state' with
  | nil =>
      cases run_eq
      exact ⟨state', rfl, grafted⟩
  | cons item rest ih =>
      rw [run_cons] at run_eq
      rcases Option.bind_eq_some_iff.mp run_eq with ⟨between, step_eq, rest_eq⟩
      have item_inside : operator = .and → item = .or → state.outer ≠ [] := by
        rintro is_and rfl outer_eq
        have none_outside := inside is_and
        rw [outer_eq] at none_outside
        cases none_outside
      have rest_inside : operator = .and → hasOuterOr between.outer.length rest = false := by
        intro is_and
        by_contra stands_outside
        have outside := hasOuterOr_of_step step_eq (Bool.of_not_eq_false stands_outside)
        rw [inside is_and] at outside
        cases outside
      rcases grafted.step step_eq item_inside with ⟨between', step_eq', grafted'⟩
      rcases ih grafted' rest_eq rest_inside with ⟨next', rest_eq', grafted_next⟩
      refine ⟨next', ?_, grafted_next⟩
      rw [run_cons, step_eq', Option.bind_some, rest_eq']

end State.Grafted

theorem grafted_awaitingMember (operator : LogicalOperator) (before : Option Reading) :
    State.Grafted before operator (.awaiting {} []) (awaitingMember operator before []) := by
  cases operator with
  | and => exact .awaiting (.and (combines_none .and before))
  | or => exact .awaiting (.or (combines_none .or before))

/-- What a text adds to a group once it has been read. -/
theorem State.Grafted.memberComplete {disjunction : Option Reading} {conjunction : Reading}
    {next : State} (grafted : Grafted before operator (.complete disjunction conjunction []) next) :
    ∃ earlier last, next = Reading.memberComplete operator earlier last [] ∧
      ∀ truth, (Reading.join operator earlier last).eval truth =
        operator.holds (before.toList.map (eval truth) ++
          [(Reading.join .or disjunction conjunction).eval truth]) := by
  generalize state_eq : State.complete disjunction conjunction [] = state at grafted
  cases grafted with
  | awaiting follows => cases state_eq
  | complete follows =>
      cases state_eq
      cases follows with
      | and combines =>
          refine ⟨none, _, rfl, ?_⟩
          intro truth
          simpa [LogicalOperator.holds_singleton, Reading.join] using combines truth
      | or combines =>
          refine ⟨_, _, rfl, ?_⟩
          intro truth
          simpa [LogicalOperator.holds_singleton] using combines.join conjunction truth
  | within inner follows => cases inner <;> simp [State.within] at state_eq

end Reading

/-- A text that is a condition by itself is one operand among alternatives. In a conjunction it is
one if no OR stands outside of its parentheses. -/
theorem IsMember.of_text {text : String} {items : List Reading.Item} {reading : Reading}
    (items_eq : Reading.items (Reading.words text.toList) = some items)
    (read : Reading.ofText? text = some reading) (operator : LogicalOperator)
    (inside : operator = .and → Reading.hasOuterOr 0 items = false) :
    IsMember operator text fun truth => reading.eval truth := by
  simp only [Reading.ofText?, items_eq, Option.bind_eq_bind, Option.bind_some,
    Option.bind_eq_some_iff] at read
  rcases read with ⟨state, run_eq, result_eq⟩
  -- What is left at the end of the text is a complete level, and no parenthesis is open.
  rcases state with ⟨level, outer⟩ | ⟨disjunction, conjunction, _ | ⟨level, outer⟩⟩
  · cases result_eq
  · cases result_eq
    refine ⟨items, Reading.readsAs_of_items items_eq, ?_⟩
    intro before
    rcases (Reading.grafted_awaitingMember operator before).run run_eq inside with
      ⟨next, run_eq', grafted⟩
    rcases grafted.memberComplete with ⟨earlier, last, rfl, value_eq⟩
    refine ⟨earlier, last, ?_, value_eq⟩
    intro outer
    have run_outer := Reading.run_within run_eq' outer
    cases operator <;> exact run_outer
  · cases result_eq

end ObjectQuery
