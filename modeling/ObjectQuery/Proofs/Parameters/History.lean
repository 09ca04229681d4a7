import ObjectQuery.Proofs.Lookup
import ObjectQuery.Proofs.Parameters.Binding

/-!
# Parameters as a map

Parameters are changed in two ways: a name is given a value outright, or a value is bound to a name
that is made for it. However these are mixed, parameters stay a map that remembers the order in
which its names came, and whoever they are handed to gets each name once, in that order.
-/

namespace ObjectQuery.Parameters

/-- What can be done to parameters. -/
inductive Change where
  | insert (name : String) (value : Value)
  | bind (field : String) (key value : Value)

/-- Makes a change, and gives back the name that has the value then. -/
def apply (parameters : Parameters) : Change → String × Parameters
  | .insert name value => (name, parameters.insert name value)
  | .bind field key value => parameters.bind field key value

/-- Makes several changes one after the other, and gives back their names. -/
def applyEach (parameters : Parameters) : List Change → List String × Parameters
  | [] => ([], parameters)
  | change :: rest =>
      let changed := parameters.apply change
      let others := applyEach changed.2 rest
      (changed.1 :: others.1, others.2)

variable (parameters : Parameters)

section Insertion

theorem lookup_exchangeIn (name other : String) (value : Value) (entries : List (String × Value)) :
    (exchangeIn name value entries).2.lookup other =
      if other = name then some value else entries.lookup other := by
  induction entries with
  | nil => exact lookup_cons_eq other (name, value) []
  | cons entry rest ih =>
      rw [exchangeIn]
      by_cases found : entry.1 = name
      · simp only [found, if_true, lookup_cons_eq]
        by_cases same : other = name <;> simp [same]
      · simp only [found, if_false, lookup_cons_eq, ih]
        by_cases same : other = entry.1
        · simp [same, found]
        · simp [same]

/-- A name is exchanged where it stands, and added at the end if it is not there. -/
theorem exchangeIn_eq {entries : List (String × Value)} (distinct : (entries.map Prod.fst).Nodup)
    (name : String) (value : Value) :
    exchangeIn name value entries =
      (entries.lookup name,
        (entries.map fun entry => (entry.1, if entry.1 = name then value else entry.2)) ++
          if name ∈ entries.map Prod.fst then [] else [(name, value)]) := by
  induction entries with
  | nil => rfl
  | cons entry rest ih =>
      rcases entry with ⟨bound, held⟩
      simp only [List.map_cons] at distinct ⊢
      rcases List.nodup_cons.mp distinct with ⟨bound_notMem, rest_distinct⟩
      by_cases same : bound = name
      · subst bound
        have rest_kept : (rest.map fun entry : String × Value =>
            (entry.1, if entry.1 = name then value else entry.2)) = rest := by
          apply (List.map_congr_left ?_).trans rest.map_id
          intro entry entry_mem
          have differ : entry.1 ≠ name := by
            intro same
            exact bound_notMem (same ▸ List.mem_map_of_mem entry_mem)
          simp [differ]
        simp [exchangeIn, rest_kept]
      · have not_first : ¬name = bound := fun eq => same eq.symm
        simp only [exchangeIn, same, if_false, ih rest_distinct, lookup_cons_eq, List.mem_cons,
          not_first, false_or, List.cons_append]

theorem old_exchange (name : String) (value : Value) :
    (parameters.exchange name value).1 = parameters.get? name := by
  simp only [exchange, exchangeIn_eq parameters.distinct, get?]

theorem get?_insert (name other : String) (value : Value) :
    (parameters.insert name value).get? other =
      if other = name then some value else parameters.get? other :=
  lookup_exchangeIn name other value parameters.entries

theorem entries_insert (name : String) (value : Value) :
    (parameters.insert name value).entries =
      (parameters.entries.map fun entry => (entry.1, if entry.1 = name then value else entry.2)) ++
        if name ∈ parameters.names then [] else [(name, value)] := by
  simp only [insert, exchange, exchangeIn_eq parameters.distinct]
  rfl

theorem getElem?_insert {name : String} {value : Value} {place : ℕ} {entry : String × Value}
    (held : parameters.entries[place]? = some entry) :
    (parameters.insert name value).entries[place]? =
      some (entry.1, if entry.1 = name then value else entry.2) := by
  have inside : place < parameters.entries.length := (List.getElem?_eq_some_iff.mp held).1
  rw [entries_insert, List.getElem?_append_left (by simpa using inside), List.getElem?_map, held]
  rfl

theorem size_insert (name : String) (value : Value) :
    (parameters.insert name value).size =
      parameters.size + if name ∈ parameters.names then 0 else 1 := by
  rw [size, entries_insert, List.length_append, List.length_map, size]
  split <;> rfl

theorem names_insert (name : String) (value : Value) :
    (parameters.insert name value).names = (parameters.names ++ [name]).eraseDups := by
  rw [← parameters.names_add name value, names, entries_insert, List.map_append, List.map_map]
  by_cases bound : name ∈ parameters.names
  · rw [if_pos bound, add_of_mem parameters bound, List.map_nil, List.append_nil]
    rfl
  · rw [if_neg bound, names, entries_add_of_notMem parameters bound, List.map_append]
    rfl

end Insertion

section Runs

theorem names_apply (change : Change) :
    (parameters.apply change).2.names =
      (parameters.names ++ [(parameters.apply change).1]).eraseDups := by
  cases change with
  | insert name value => exact parameters.names_insert name value
  | bind field key value => exact parameters.names_add _ value

/-- Names come in the order in which they are first stored, and none comes twice. -/
theorem names_applyEach (changes : List Change) :
    (parameters.applyEach changes).2.names =
      (parameters.names ++ (parameters.applyEach changes).1).eraseDups := by
  induction changes generalizing parameters with
  | nil => simp [applyEach]
  | cons change rest ih =>
      rw [applyEach]
      dsimp only
      rw [ih, names_apply, eraseDups_eraseDups_append, List.append_assoc]
      rfl

end Runs

section Handing

/-- What a binder is asked to do. -/
inductive Call where
  | value (name : String) (value : Value)
  | list (name : String) (items : List Value)

def Call.name : Call → String
  | .value name _ => name
  | .list name _ => name

/-- What a binder does when it is asked. -/
def Call.perform {σ : Type} (binder : Binder σ) (state : σ) : Call → σ
  | .value name held => binder.bindValue name held state
  | .list name items => binder.bindList name items state

/-- A binder that only takes down what it is asked to do. -/
def recorder : Binder (List Call) where
  bindValue name value calls := calls ++ [.value name value]
  bindList name items calls := calls ++ [.list name items]

/-- What a binder is asked to do, in order. -/
def calls : List Call :=
  parameters.bindTo recorder []

/-- A call for a list is made exactly for an entry that holds one. -/
structure Call.IsFor (call : Call) (entry : String × Value) : Prop where
  list : ∀ name items, call = .list name items ↔ entry = (name, .list items)
  value : ∀ name held, call = .value name held ↔
    entry = (name, held) ∧ ∀ items, held ≠ .list items

/-- What a binder is asked to do for an entry. -/
def Call.ofEntry : String × Value → Call
  | (name, .list items) => .list name items
  | (name, held) => .value name held

theorem Call.isFor_ofEntry (entry : String × Value) : (ofEntry entry).IsFor entry := by
  rcases entry with ⟨name, held⟩
  cases held with
  | list items =>
      refine ⟨by simp [ofEntry], ?_⟩
      intro other held
      simp only [ofEntry, reduceCtorEq, Prod.mk.injEq, false_iff, not_and, not_forall, not_not]
      rintro ⟨-, rfl⟩
      exact ⟨items, rfl⟩
  | null | bool b | int i | float x | text s =>
      refine ⟨by simp [ofEntry], ?_⟩
      intro other held
      simp only [ofEntry, Call.value.injEq, Prod.mk.injEq, iff_self_and]
      rintro ⟨-, rfl⟩
      simp

theorem Call.name_ofEntry (entry : String × Value) : (ofEntry entry).name = entry.1 := by
  rcases entry with ⟨name, held⟩
  cases held <;> rfl

theorem bindTo_eq {σ : Type} (binder : Binder σ) (state : σ) :
    parameters.bindTo binder state =
      (parameters.entries.map Call.ofEntry).foldl (Call.perform binder) state := by
  rw [List.foldl_map, bindTo]
  congr 1
  funext state entry
  rcases entry with ⟨name, held⟩
  cases held <;> rfl

theorem calls_eq : parameters.calls = parameters.entries.map Call.ofEntry := by
  have recorded : ∀ taken rest : List Call,
      rest.foldl (Call.perform recorder) taken = taken ++ rest := by
    intro taken rest
    induction rest generalizing taken with
    | nil => simp
    | cons call rest ih =>
        rw [List.foldl_cons, ih]
        cases call <;> simp [Call.perform, recorder]
  rw [calls, bindTo_eq, recorded, List.nil_append]

end Handing

/-- However insertions and bindings are mixed, parameters are a map in the order in which its names
were first stored. A value that is inserted takes the place of the name's former one, which is given
back, and a value that is bound finds a name and changes nothing that was there. Whoever they are
handed to is asked for each name once, in order, and for a list exactly where one is held. -/
theorem applyEach_keeps_map (changes : List Change) :
    let run := applyEach {} changes
    let parameters := run.2
    parameters.names.Nodup ∧ parameters.names = run.1.eraseDups ∧
      (∀ name value,
        let (old, after) := parameters.exchange name value
        old = parameters.get? name ∧ after.get? name = some value ∧
          (∀ other, other ≠ name → after.get? other = parameters.get? other) ∧
          (∀ (place : ℕ) (entry : String × Value), parameters.entries[place]? = some entry →
            after.entries[place]? = some (entry.1, if entry.1 = name then value else entry.2)) ∧
          after.size = parameters.size + if name ∈ parameters.names then 0 else 1) ∧
      (∀ field key value,
        let (token, after) := parameters.bind field key value
        parameters.entries <+: after.entries ∧ after.size ≤ parameters.size + 1 ∧
          after.Reads token value) ∧
      parameters.calls.length = parameters.size ∧
      parameters.calls.map Call.name = parameters.names ∧
      List.Forall₂ Call.IsFor parameters.calls parameters.entries ∧
      ∀ (σ : Type) (binder : Binder σ) (state : σ),
        parameters.bindTo binder state = parameters.calls.foldl (Call.perform binder) state := by
  intro run parameters
  refine ⟨parameters.distinct, ?_, ?_, ?_, ?_, ?_, ?_, ?_⟩
  · exact names_applyEach {} changes
  · intro name value
    refine ⟨parameters.old_exchange name value, ?_, ?_, ?_, parameters.size_insert name value⟩
    · exact (parameters.get?_insert name name value).trans (if_pos rfl)
    · intro other differ
      exact (parameters.get?_insert name other value).trans (if_neg differ)
    · intro place entry held
      exact parameters.getElem?_insert held
  · intro field key value
    exact ⟨prefix_bind field key value, parameters.size_add_le _ value, reads_bind field key value⟩
  · rw [calls_eq, List.length_map]
    rfl
  · rw [calls_eq, List.map_map, names]
    apply List.map_congr_left
    intro entry _
    exact Call.name_ofEntry entry
  · rw [calls_eq, List.forall₂_map_left_iff]
    exact List.forall₂_same.mpr fun entry _ => Call.isFor_ofEntry entry
  · intro σ binder state
    rw [calls_eq, bindTo_eq]

/-- A name that is made for a value steps aside for one that was inserted, which is then exchanged
for a list. -/
theorem applyEach_keeps_map_of_collision :
    let changes : List Change :=
      [.insert "age_" (.int 1), .bind "age" .null .null, .insert "age_" (.list [.null]),
        .bind "age" .null .null]
    let parameters := (applyEach {} changes).2
    parameters.names = ["age_", "age__1"] ∧
      parameters.entries[1]? = some ("age__1", .null) ∧ "age__1" ≠ "age_" ∧
      (parameters.exchange "age_" (.int 2)).1 = some (.list [.null]) ∧
      (parameters.exchange "age_" (.int 2)).2.get? "age__1" = some .null ∧
      (parameters.exchange "age_" (.int 2)).2.entries[1]? = some ("age__1", .null) ∧
      parameters.calls = [.list "age_" [.null], .value "age__1" .null] := by
  intro changes parameters
  rcases applyEach_keeps_map changes with ⟨-, -, exchanged, -⟩
  rcases exchanged "age_" (.int 2) with ⟨old_eq, -, others_kept, places_kept, -⟩
  have differ : "age__1" ≠ "age_" := by decide
  have held : parameters.entries[1]? = some ("age__1", .null) := rfl
  exact ⟨rfl, held, differ, old_eq, others_kept "age__1" differ, places_kept 1 _ held, rfl⟩

end ObjectQuery.Parameters
