import ObjectQuery.Proofs.Query.Bindings

/-!
# Conflicting parameters

Binding walks over criteria in the order of their text. A value of a leaf always finds a name, but a
parameter that a fragment declares brings its own, and if that name stands for a different value by
then, there is no condition. `FirstConflict` describes the walk by itself, over the list of what it
comes to, and what is reported is the first conflict on the way.
-/

namespace ObjectQuery

/-- The result of one compilation after another is that of their results. -/
theorem Compilation.result_bind {α β : Type} (first : Compilation α) (next : α → Compilation β) :
    (first >>= next).result = first.result >>= fun a => (next a).result := by
  cases outcome : first.result with
  | ok a =>
      rw [bind_of_ok outcome]
      rfl
  | error error =>
      rw [bind_of_error outcome]
      rfl

/-- Two compilations fail together if the first fails, or the second does after it. -/
theorem Compilation.result_bind_eq_error_iff {α β : Type} {first : Compilation α}
    {next : α → Compilation β} {error : CompileError} :
    (first >>= next).result = .error error ↔ first.result = .error error ∨
      ∃ a, first.result = .ok a ∧ (next a).result = .error error := by
  cases outcome : first.result with
  | ok a => simp [bind_of_ok outcome]
  | error other => simp [bind_of_error outcome]

theorem Compilation.result_foldlM {α β : Type} (step : β → α → Compilation β) (start : β)
    (items : List α) :
    (items.foldlM step start).result = items.foldlM (fun b a => (step b a).result) start := by
  induction items generalizing start with
  | nil => rfl
  | cons item rest ih =>
      simp only [List.foldlM_cons, result_bind]
      apply bind_congr
      intro between
      exact ih between

namespace Criteria

/-- What a walk over criteria comes to: a value that a leaf stores, or a parameter that a fragment
declares. -/
inductive Step where
  | store (request : Parameters.Request)
  | declaration (fragment : PersonalCriteria) (name : String) (value : Value)

mutual

/-- What a walk over criteria comes to, in the order of their text. -/
def steps : Criteria → List Step
  | .conditional leaf => leaf.requests.map .store
  | .not criteria => criteria.steps
  | .group _ members => allSteps members
  | .personal leaf => leaf.parameters.map fun (name, value) => .declaration leaf name value

def allSteps : List Criteria → List Step
  | [] => []
  | criteria :: rest => criteria.steps ++ allSteps rest

end

namespace Step

/-- The parameters behind a step. A parameter that its fragment does not refer to is passed over,
and a name that is bound stays as it is. -/
def after (parameters : Parameters) : Step → Parameters
  | .store request => (parameters.bind request.field request.key request.value).2
  | .declaration fragment name value =>
      if fragment.mentions name then parameters.add name value else parameters

/-- A declared parameter is in conflict if its fragment refers to it and its name stands for a
different value. -/
inductive Raises (parameters : Parameters) : Step → CompileError → Prop where
  | conflict {fragment : PersonalCriteria} {name : String} {bound value : Value}
      (marks : fragment.Marks name) (held : parameters.get? name = some bound)
      (differ : (bound == value) = false) :
      Raises parameters (.declaration fragment name value) (.conflictingParameter name bound value)

end Step

/-- The first step of a walk that is in conflict, given the parameters at its start, raises this
error. -/
inductive FirstConflict : Parameters → List Step → CompileError → Prop where
  | here {parameters : Parameters} {step : Step} {rest : List Step} {error : CompileError}
      (raises : step.Raises parameters error) : FirstConflict parameters (step :: rest) error
  | later {parameters : Parameters} {step : Step} {rest : List Step} {error : CompileError}
      (passes : ∀ other, ¬step.Raises parameters other)
      (behind : FirstConflict (step.after parameters) rest error) :
      FirstConflict parameters (step :: rest) error

namespace Step

/-- A step as it is made while binding. -/
def run (parameters : Parameters) : Step → Except CompileError Parameters
  | .store request => .ok (parameters.bind request.field request.key request.value).2
  | .declaration fragment name value => (fragment.bindParameter parameters (name, value)).result

variable {parameters : Parameters} {step : Step} {error : CompileError}

theorem run_of_raises (raises : step.Raises parameters error) :
    step.run parameters = .error error := by
  rcases raises with ⟨marks, held, differ⟩
  have mentioned := (PersonalCriteria.mentions_iff_marks _).mpr marks
  simp [run, PersonalCriteria.bindParameter, mentioned, held, differ, Compilation.fail]

theorem run_of_not_raises (passes : ∀ error, ¬step.Raises parameters error) :
    step.run parameters = .ok (step.after parameters) := by
  cases step with
  | store request => rfl
  | declaration fragment name value =>
      by_cases mentioned : fragment.mentions name = true
      · have marks := (PersonalCriteria.mentions_iff_marks name).mp mentioned
        cases held : parameters.get? name with
        | none => simp [run, after, PersonalCriteria.bindParameter, mentioned, held]
        | some bound =>
            have same : (bound == value) = true := by
              by_contra differ
              exact passes _ (.conflict marks held (Bool.of_not_eq_true differ))
            have name_bound : name ∈ parameters.names := by
              rw [← parameters.contains_iff, Parameters.contains, held]
              rfl
            simp [run, after, PersonalCriteria.bindParameter, mentioned, held, same,
              parameters.add_of_mem name_bound]
      · rw [Bool.not_eq_true] at mentioned
        simp only [run, after, PersonalCriteria.bindParameter, mentioned, Bool.false_eq_true,
          if_false]
        rfl

theorem foldlM_run_eq_error_iff {steps : List Step} :
    steps.foldlM run parameters = .error error ↔ FirstConflict parameters steps error := by
  induction steps generalizing parameters with
  | nil =>
      constructor
      · intro fails
        cases fails
      · intro conflict
        cases conflict
  | cons step rest ih =>
      rw [List.foldlM_cons]
      by_cases raised : ∃ other, step.Raises parameters other
      · rcases raised with ⟨other, raises⟩
        rw [run_of_raises raises]
        constructor
        · rintro ⟨rfl⟩
          exact .here raises
        · intro conflict
          cases conflict with
          | here raises' =>
              have same := (run_of_raises raises).symm.trans (run_of_raises raises')
              exact same
          | later passes behind => exact absurd raises (passes other)
      · push Not at raised
        rw [run_of_not_raises raised]
        constructor
        · intro fails
          exact .later raised (ih.mp fails)
        · intro conflict
          cases conflict with
          | here raises => exact absurd raises (raised error)
          | later passes behind => exact ih.mpr behind

theorem foldlM_run_stores (requests : List Parameters.Request) :
    (requests.map store).foldlM run parameters = .ok (parameters.bindEach requests).2 := by
  induction requests generalizing parameters with
  | nil => rfl
  | cons request rest ih =>
      rw [List.map_cons, List.foldlM_cons]
      exact ih

end Step

variable (emptyList : EmptyList)

mutual

theorem map_result_bind (parameters : Parameters) (criteria : Criteria) :
    (criteria.bind emptyList parameters).result.map Prod.snd =
      criteria.steps.foldlM Step.run parameters := by
  cases criteria with
  | conditional leaf =>
      rw [steps, Step.foldlM_run_stores, ← leaf.parameters_bind emptyList parameters, bind]
      rfl
  | not criteria =>
      rw [steps, ← map_result_bind parameters criteria, bind, Compilation.result_bind]
      cases (criteria.bind emptyList parameters).result <;> rfl
  | group operator members =>
      rw [steps, ← map_result_bindAll parameters members, bind, Compilation.result_bind]
      cases (bindAll emptyList parameters members).result <;> rfl
  | personal leaf =>
      have declared : leaf.parameters.foldlM
          (fun before declaration => (leaf.bindParameter before declaration).result) parameters =
            (leaf.bind parameters).result :=
        (Compilation.result_foldlM leaf.bindParameter parameters leaf.parameters).symm
      rw [steps, List.foldlM_map, bind, Compilation.result_bind]
      simp only [Step.run, declared]
      cases (leaf.bind parameters).result <;> rfl

theorem map_result_bindAll (parameters : Parameters) (criteria : List Criteria) :
    (bindAll emptyList parameters criteria).result.map Prod.snd =
      (allSteps criteria).foldlM Step.run parameters := by
  cases criteria with
  | nil => rfl
  | cons first rest =>
      rw [allSteps, List.foldlM_append, ← map_result_bind parameters first, bindAll,
        Compilation.result_bind]
      cases (first.bind emptyList parameters).result with
      | error error => rfl
      | ok outcome =>
          change (bindAll emptyList outcome.2 rest >>= fun others =>
              pure (outcome.1 :: others.1, others.2)).result.map Prod.snd =
            (allSteps rest).foldlM Step.run outcome.2
          rw [Compilation.result_bind, ← map_result_bindAll outcome.2 rest]
          cases (bindAll emptyList outcome.2 rest).result <;> rfl

end

/-- Criteria have no conditions exactly if the walk over them meets a conflict, and the error is
that of the first one. -/
theorem bindAll_eq_error_iff {start : Parameters} {criteria : List Criteria}
    {error : CompileError} :
    (bindAll emptyList start criteria).result = .error error ↔
      FirstConflict start (allSteps criteria) error := by
  rw [← Step.foldlM_run_eq_error_iff, ← map_result_bindAll emptyList]
  cases (bindAll emptyList start criteria).result with
  | ok outcome => simp [Except.map]
  | error other => simp [Except.map]

end Criteria

end ObjectQuery
