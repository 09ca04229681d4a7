import ObjectQuery.Digest
import ObjectQuery.Value.Canonical

/-!
# Parameters

The values that the placeholders of a statement stand for, by name and in the order in which the
names were first bound. No name occurs twice. Names are made from a field and a value, so that one
value asked of one field has one name in every statement.
-/

namespace ObjectQuery

structure Parameters where
  entries : List (String × Value) := []
  distinct : (entries.map Prod.fst).Nodup := by exact List.nodup_nil

namespace Parameters

/-- The name for a field compared with a value: the field's name, with underscores for its dots, and
a digest of the value's canonical text. Null adds no digest, so its name ends in an underscore. -/
def nameOf (field : String) (key : Value) : String :=
  String.ofList (field.toList.map fun c => if c = '.' then '_' else c) ++ "_" ++
    if key.isNull then "" else toString (digest key.canonical).toNat

variable (parameters : Parameters)

def size : Nat :=
  parameters.entries.length

def isEmpty : Bool :=
  parameters.entries.isEmpty

/-- The names, in the order in which they were first bound. -/
def names : List String :=
  parameters.entries.map Prod.fst

def get? (name : String) : Option Value :=
  parameters.entries.lookup name

def contains (name : String) : Bool :=
  (parameters.get? name).isSome

/-- A name has a value exactly if it is one of the names. -/
theorem contains_iff (name : String) :
    parameters.contains name = true ↔ name ∈ parameters.names := by
  simp only [contains, get?, names]
  induction parameters.entries with
  | nil => simp
  | cons entry rest ih =>
      obtain ⟨bound, value⟩ := entry
      rw [List.lookup_cons]
      by_cases same : name = bound
      · simp [same]
      · have differ : (name == bound) = false := by simp [same]
        simp [differ, ih, same]

variable {parameters} in
/-- A name that is not bound can be put behind the names. -/
theorem nodup_concat {name : String} (free : name ∉ parameters.names) :
    (parameters.names ++ [name]).Nodup := by
  rw [List.nodup_append]
  refine ⟨parameters.distinct, List.nodup_cons.mpr ⟨List.not_mem_nil, List.nodup_nil⟩, ?_⟩
  intro bound bound_mem added added_mem bound_eq
  have added_eq : added = name := by simpa using added_mem
  exact free (added_eq ▸ bound_eq ▸ bound_mem)

/-- The parameters with a further name at their end. A name that is bound keeps its value. -/
def add (name : String) (value : Value) : Parameters :=
  if h : name ∈ parameters.entries.map Prod.fst then parameters
  else
    { entries := parameters.entries ++ [(name, value)]
      distinct := by
        rw [List.map_append]
        exact nodup_concat h }

theorem add_of_mem {name : String} (bound : name ∈ parameters.names) (value : Value) :
    parameters.add name value = parameters :=
  dif_pos bound

theorem entries_add_of_notMem {name : String} (free : name ∉ parameters.names) (value : Value) :
    (parameters.add name value).entries = parameters.entries ++ [(name, value)] := by
  have free_entries : name ∉ parameters.entries.map Prod.fst := free
  simp only [add, dif_neg free_entries]

/-- Entries with a value stored under a name, and the value that the name had. A name that had one
keeps its place, any other is added at the end. -/
def exchangeIn (name : String) (value : Value) :
    List (String × Value) → Option Value × List (String × Value)
  | [] => (none, [(name, value)])
  | (bound, held) :: rest =>
      if bound = name then (some held, (name, value) :: rest)
      else
        let (old, stored) := exchangeIn name value rest
        (old, (bound, held) :: stored)

theorem map_fst_exchangeIn (name : String) (value : Value) (entries : List (String × Value)) :
    (exchangeIn name value entries).2.map Prod.fst =
      if name ∈ entries.map Prod.fst then entries.map Prod.fst
      else entries.map Prod.fst ++ [name] := by
  induction entries with
  | nil => rfl
  | cons entry rest ih =>
      obtain ⟨bound, held⟩ := entry
      by_cases same : bound = name
      · simp [exchangeIn, same]
      · have differ : ¬name = bound := fun eq => same eq.symm
        simp only [exchangeIn, same, if_false, List.map_cons, ih, List.mem_cons, differ, false_or]
        split <;> rfl

/-- The parameters with a value for a name, whether or not it is bound already, and the value that
the name had before. -/
def exchange (name : String) (value : Value) : Option Value × Parameters :=
  let stored := exchangeIn name value parameters.entries
  (stored.1,
    { entries := stored.2
      distinct := by
        rw [map_fst_exchangeIn]
        split
        · exact parameters.distinct
        · next free => exact nodup_concat free })

/-- The parameters with a value for a name, whether or not it is bound already. -/
def insert (name : String) (value : Value) : Parameters :=
  (parameters.exchange name value).2

/-- Whether a name can stand for a value: it is not bound, or it is bound to an equal value. -/
def admits (value : Value) (name : String) : Bool :=
  match parameters.get? name with
  | none => true
  | some bound => bound == value

/-- The names to try in place of an ideal one: itself, then the same with a number at its end. -/
def candidate (ideal : String) : Nat → String
  | 0 => ideal
  | n + 1 => ideal ++ "_" ++ toString (n + 1)

/-- The place of the first candidate that can stand for a value. If as many candidates as there are
names have been refused, they are all the names, and the next one is free. -/
def firstAdmissible (ideal : String) (value : Value) : Nat :=
  ((List.range parameters.size).find? fun n => parameters.admits value (candidate ideal n)).getD
    parameters.size

/-- Binds a value under a name made from a field and a key. The key is the value as it was given,
which the value to be bound may be a changed form of. An equal value that is bound under the name
is shared, and no other binding is changed. -/
def bind (field : String) (key value : Value) : String × Parameters :=
  let ideal := nameOf field key
  let name := candidate ideal (parameters.firstAdmissible ideal value)
  (name, parameters.add name value)

/-- What the parameters of a statement are handed to. Lists are told apart, because they fill a
whole list of the statement. -/
structure Binder (σ : Type) where
  bindValue : String → Value → σ → σ
  bindList : String → List Value → σ → σ

/-- Hands over all parameters, in order. -/
def bindTo {σ : Type} (binder : Binder σ) (state : σ) : σ :=
  parameters.entries.foldl
    (fun state (name, value) =>
      match value with
      | .list items => binder.bindList name items state
      | value => binder.bindValue name value state)
    state

/-- The parameters as a JSON object. -/
def toJson : Json :=
  .object (parameters.entries.map fun (name, value) => (name, value.toJson))

end Parameters

end ObjectQuery
