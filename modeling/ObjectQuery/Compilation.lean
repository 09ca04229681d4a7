import ObjectQuery.Value.Basic

/-!
# Compilations

The outcome of making a statement: what was logged on the way, in order, and either a result or the
error that ended it. Log and error are kept as what happened; their texts are made on demand.
-/

namespace ObjectQuery

inductive LogLevel where
  | debug
  | warn
deriving DecidableEq, Repr

/-- What kind of statement was made. -/
inductive Operation where
  | find
  | count
  | aggregate
  | update
deriving DecidableEq, Repr

def Operation.name : Operation → String
  | .find => "find"
  | .count => "count"
  | .aggregate => "aggregate"
  | .update => "update"

/-- What is worth noting about a compilation. -/
inductive LogEvent where
  | compiled (operation : Operation) (statement : String) (parameterCount : Nat)
  /-- A fetch stands among the entities, where it has no effect. -/
  | strayFetch (name : String)
  /-- A join that fetches stands among the entities, where it has no effect. -/
  | fetchingJoin (aliasName : String)
  /-- Joins were left out because they could not be ordered. -/
  | droppedJoins (aliasNames : List String) (passes : Nat)
  /-- A list of values is empty and nothing was written for it. -/
  | emptyList (field : String)
  /-- A fragment does not refer to one of its parameters. -/
  | unusedParameter (name : String)
deriving DecidableEq, Repr

namespace LogEvent

def level : LogEvent → LogLevel
  | .compiled _ _ _ | .strayFetch _ => .debug
  | .fetchingJoin _ | .droppedJoins _ _ | .emptyList _ | .unusedParameter _ => .warn

def message : LogEvent → String
  | .compiled _ _ _ => "Compiled statement"
  | .strayFetch name =>
      "Fetch join `" ++ name ++ "` belongs in the fetch list. Ignoring it in the entity list."
  | .fetchingJoin aliasName =>
      "Join `" ++ aliasName ++
        "` has a fetch operator and belongs in the fetch list. Ignoring it."
  | .droppedJoins aliasNames passes =>
      "Dropping joins " ++ ", ".intercalate aliasNames ++
        " because their parents were not ordered within " ++ toString passes ++ " passes."
  | .emptyList field =>
      "IN conditional on `" ++ field ++
        "` has no values. The statement will not be valid."
  | .unusedParameter name =>
      "Parameter `" ++ name ++ "` does not occur in its personal criteria. Not binding it."

/-- What an event is about, by name. -/
def fields : LogEvent → List (String × String)
  | .compiled operation statement parameterCount =>
      [("operation", operation.name), ("statement", statement),
       ("parameters", toString parameterCount)]
  | .strayFetch _ | .droppedJoins _ _ => []
  | .fetchingJoin aliasName => [("alias", aliasName)]
  | .emptyList field => [("field", field)]
  | .unusedParameter name => [("parameter", name)]

end LogEvent

/-- Why there is no statement. -/
inductive CompileError where
  /-- Joins were left over after so many sweeps at most. -/
  | unresolvedJoins (aliasNames : List String) (passes : Nat)
  /-- The parameter of a fragment has a name that is bound to a different value. -/
  | conflictingParameter (name : String) (bound value : Value)

def CompileError.message : CompileError → String
  | .unresolvedJoins aliasNames passes =>
      "Joins " ++ ", ".intercalate aliasNames ++ " could not be ordered within " ++
        toString passes ++ " passes."
  | .conflictingParameter name bound value =>
      "Parameter `" ++ name ++ "` is already bound to " ++ bound.display ++
        " and cannot also be bound to " ++ value.display ++ "."

structure Compilation (α : Type) where
  log : List LogEvent
  result : Except CompileError α

namespace Compilation

variable {α β : Type}

/-- A result, with nothing logged. -/
protected def pure (a : α) : Compilation α where
  log := []
  result := .ok a

/-- One compilation after another. The log of the first is kept also if the second fails. -/
protected def bind (first : Compilation α) (next : α → Compilation β) : Compilation β :=
  match first.result with
  | .ok a => { log := first.log ++ (next a).log, result := (next a).result }
  | .error error => { log := first.log, result := .error error }

instance : Monad Compilation where
  pure := Compilation.pure
  bind := Compilation.bind

instance : LawfulMonad Compilation :=
  LawfulMonad.mk' Compilation
    (by
      rintro α ⟨log, result⟩
      cases result <;> simp [Functor.map, Compilation.bind, Compilation.pure])
    (by
      intro α β a next
      simp [Bind.bind, Pure.pure, Compilation.bind, Compilation.pure])
    (by
      rintro α β γ ⟨log, result⟩ next last
      cases result with
      | error error => rfl
      | ok a =>
          simp only [Bind.bind, Compilation.bind]
          split <;> simp_all)

@[simp]
theorem log_pure (a : α) : (pure a : Compilation α).log = [] :=
  rfl

@[simp]
theorem result_pure (a : α) : (pure a : Compilation α).result = .ok a :=
  rfl

/-- After a result, the rest adds its log and decides the outcome. -/
theorem bind_of_ok {first : Compilation α} {a : α} (succeeds : first.result = .ok a)
    (next : α → Compilation β) :
    first >>= next = { log := first.log ++ (next a).log, result := (next a).result } := by
  simp only [Bind.bind, Compilation.bind, succeeds]

/-- After an error, the rest does not happen. -/
theorem bind_of_error {first : Compilation α} {error : CompileError}
    (fails : first.result = .error error) (next : α → Compilation β) :
    first >>= next = { log := first.log, result := .error error } := by
  simp only [Bind.bind, Compilation.bind, fails]

/-- Two compilations give a result together if each gives one. -/
theorem result_bind_eq_ok_iff {first : Compilation α} {next : α → Compilation β} {b : β} :
    (first >>= next).result = .ok b ↔ ∃ a, first.result = .ok a ∧ (next a).result = .ok b := by
  cases outcome : first.result with
  | ok a => simp [bind_of_ok outcome]
  | error error => simp [bind_of_error outcome]

/-- An error, with nothing logged. -/
def fail (error : CompileError) : Compilation α where
  log := []
  result := .error error

/-- Logs events. -/
def emit (events : List LogEvent) : Compilation Unit where
  log := events
  result := .ok ()

@[simp]
theorem result_emit (events : List LogEvent) : (emit events).result = .ok () :=
  rfl

end Compilation

end ObjectQuery
