import Mathlib.Data.List.Nodup
import Mathlib.Data.List.Perm.Subperm
import ObjectQuery.Parameters

/-!
# Binding values to names

A binding adds at most one entry, at the end, and the name that it gives back stands for its value
from then on. The search for a name ends because the candidates are pairwise distinct: as many
candidates as there are names can be refused only if they are all the names.
-/

namespace ObjectQuery

section FirstOccurrences

variable {α : Type} [BEq α] [LawfulBEq α]

theorem eraseDups_of_nodup {items : List α} (nodup : items.Nodup) : items.eraseDups = items := by
  induction items with
  | nil => rfl
  | cons item rest ih =>
      rcases List.nodup_cons.mp nodup with ⟨item_notMem, rest_nodup⟩
      have kept : rest.filter (fun other => !other == item) = rest := by
        apply List.filter_eq_self.mpr
        intro other other_mem
        simp only [Bool.not_eq_true', beq_eq_false_iff_ne]
        rintro rfl
        exact item_notMem other_mem
      rw [List.eraseDups_cons, kept, ih rest_nodup]

theorem nodup_eraseDups (items : List α) : items.eraseDups.Nodup := by
  induction length_eq : items.length using Nat.strongRecOn generalizing items with
  | _ length ih =>
      cases items with
      | nil => exact List.nodup_nil
      | cons item rest =>
          rw [List.eraseDups_cons, List.nodup_cons]
          refine ⟨by simp, ih _ ?_ _ rfl⟩
          have shorter := List.length_filter_le (fun other => !other == item) rest
          simp only [List.length_cons] at length_eq
          omega

/-- First occurrences can be taken of a front part beforehand. -/
theorem eraseDups_eraseDups_append (items more : List α) :
    (items.eraseDups ++ more).eraseDups = (items ++ more).eraseDups := by
  have removed_eq : more.removeAll items.eraseDups = more.removeAll items := by
    apply List.filter_congr
    intro item _
    simp
  rw [List.eraseDups_append, List.eraseDups_append, eraseDups_of_nodup (nodup_eraseDups items),
    removed_eq]

end FirstOccurrences

theorem toString_nat_injective : Function.Injective (toString : ℕ → String) := by
  intro m n same
  -- A number can be read back from its digits.
  have read_back : Nat.ofDigitChars 10 (Nat.repr m).toList 0 =
      Nat.ofDigitChars 10 (Nat.repr n).toList 0 :=
    congrArg (fun text : String => Nat.ofDigitChars 10 text.toList 0) same
  simpa using read_back

namespace Parameters

theorem candidate_injective (ideal : String) : Function.Injective (candidate ideal) := by
  have numbered_ne : ∀ n : ℕ, ideal ≠ ideal ++ "_" ++ toString (n + 1) := by
    intro n same
    have lengths := congrArg String.length same
    simp only [String.length_append] at lengths
    have underscore : "_".length = 1 := rfl
    omega
  intro m n same
  cases m with
  | zero =>
      cases n with
      | zero => rfl
      | succ n => exact absurd same (numbered_ne n)
  | succ m =>
      cases n with
      | zero => exact absurd same.symm (numbered_ne m)
      | succ n =>
          simp only [candidate, String.append_right_inj] at same
          exact toString_nat_injective same

variable (parameters : Parameters)

@[simp]
theorem length_names : parameters.names.length = parameters.size := by
  simp [names, size]

theorem size_add_le (name : String) (value : Value) :
    (parameters.add name value).size ≤ parameters.size + 1 := by
  by_cases bound : name ∈ parameters.names
  · rw [add_of_mem parameters bound]
    omega
  · simp only [size, entries_add_of_notMem parameters bound, List.length_append, List.length_cons,
      List.length_nil]
    omega

theorem get?_eq_none_iff (name : String) :
    parameters.get? name = none ↔ name ∉ parameters.names := by
  rw [← parameters.contains_iff name, contains]
  simp

theorem mem_names_of_not_admits {value : Value} {name : String}
    (refused : ¬parameters.admits value name = true) : name ∈ parameters.names := by
  by_contra free
  apply refused
  simp [admits, (parameters.get?_eq_none_iff name).mpr free]

theorem exists_admits (ideal : String) (value : Value) :
    ∃ n ≤ parameters.size, parameters.admits value (candidate ideal n) = true := by
  by_contra none_admitted
  push Not at none_admitted
  -- If all candidates were refused, they would all be names, and they are one too many for that.
  let tried := (List.range (parameters.size + 1)).map (candidate ideal)
  have tried_nodup : tried.Nodup :=
    List.nodup_range.map (candidate_injective ideal)
  have tried_bound : tried ⊆ parameters.names := by
    intro name name_mem
    rcases List.mem_map.mp name_mem with ⟨n, n_mem, rfl⟩
    apply parameters.mem_names_of_not_admits
    exact none_admitted n (by have := List.mem_range.mp n_mem; omega)
  have few := (List.subperm_of_subset tried_nodup tried_bound).length_le
  simp only [tried, List.length_map, List.length_range, length_names] at few
  omega

theorem admits_candidate_firstAdmissible (ideal : String) (value : Value) :
    parameters.admits value (candidate ideal (parameters.firstAdmissible ideal value)) = true := by
  unfold firstAdmissible
  cases found : (List.range parameters.size).find?
      fun n => parameters.admits value (candidate ideal n) with
  | some n =>
      have admitted := List.find?_some found
      exact admitted
  | none =>
      rcases parameters.exists_admits ideal value with ⟨n, n_le, admitted⟩
      have refused := List.find?_eq_none.mp found
      have n_eq : n = parameters.size := by
        by_contra n_ne
        exact refused n (List.mem_range.mpr (by omega)) admitted
      subst n_eq
      exact admitted

theorem not_admits_of_lt_firstAdmissible {ideal : String} {value : Value} {n : ℕ}
    (earlier : n < parameters.firstAdmissible ideal value) :
    ¬parameters.admits value (candidate ideal n) = true := by
  unfold firstAdmissible at earlier
  cases found : (List.range parameters.size).find?
      fun n => parameters.admits value (candidate ideal n) with
  | some first =>
      rw [found] at earlier
      have refused := (List.find?_range_eq_some.mp found).2.2 n earlier
      simpa using refused
  | none =>
      rw [found] at earlier
      exact List.find?_eq_none.mp found n (List.mem_range.mpr earlier)

/-- The candidate that is tried last is the only one that is admitted after all others were
refused. -/
theorem firstAdmissible_eq {ideal : String} {value : Value} {n : ℕ}
    (admitted : parameters.admits value (candidate ideal n) = true)
    (refused : ∀ m < n, ¬parameters.admits value (candidate ideal m) = true) :
    parameters.firstAdmissible ideal value = n := by
  rcases Nat.lt_trichotomy (parameters.firstAdmissible ideal value) n with sooner | same | later
  · exact absurd (parameters.admits_candidate_firstAdmissible ideal value) (refused _ sooner)
  · exact same
  · exact absurd admitted (parameters.not_admits_of_lt_firstAdmissible later)

/-- A name stands for a value if it is bound to the value itself or to an equal one. -/
def Reads (name : String) (value : Value) : Prop :=
  ∃ bound, parameters.get? name = some bound ∧ (bound = value ∨ (bound == value) = true)

variable {parameters}

theorem get?_extended {later : Parameters} {name : String} {value : Value}
    (extended : parameters.entries <+: later.entries)
    (bound : parameters.get? name = some value) : later.get? name = some value := by
  rcases extended with ⟨added, entries_eq⟩
  simp only [get?] at bound ⊢
  rw [← entries_eq, List.lookup_append, bound]
  rfl

theorem Reads.extended {later : Parameters} {name : String} {value : Value}
    (reads : parameters.Reads name value) (extended : parameters.entries <+: later.entries) :
    later.Reads name value := by
  rcases reads with ⟨bound, bound_eq, same⟩
  exact ⟨bound, get?_extended extended bound_eq, same⟩

theorem prefix_add (name : String) (value : Value) :
    parameters.entries <+: (parameters.add name value).entries := by
  by_cases bound : name ∈ parameters.names
  · exact ⟨[], by rw [add_of_mem parameters bound, List.append_nil]⟩
  · exact ⟨[(name, value)], (entries_add_of_notMem parameters bound value).symm⟩

theorem get?_add_self {name : String} (free : name ∉ parameters.names) (value : Value) :
    (parameters.add name value).get? name = some value := by
  have none_bound := (parameters.get?_eq_none_iff name).mpr free
  simp only [get?] at none_bound ⊢
  rw [entries_add_of_notMem parameters free, List.lookup_append, none_bound]
  simp

theorem reads_add {name : String} {value : Value}
    (admitted : parameters.admits value name = true) :
    (parameters.add name value).Reads name value := by
  cases found : parameters.get? name with
  | none =>
      have free := (parameters.get?_eq_none_iff name).mp found
      exact ⟨value, get?_add_self free value, Or.inl rfl⟩
  | some bound =>
      have same : (bound == value) = true := by simpa [admits, found] using admitted
      exact ⟨bound, get?_extended (prefix_add name value) found, Or.inr same⟩

theorem prefix_bind (field : String) (key value : Value) :
    parameters.entries <+: (parameters.bind field key value).2.entries :=
  prefix_add _ _

theorem reads_bind (field : String) (key value : Value) :
    (parameters.bind field key value).2.Reads (parameters.bind field key value).1 value :=
  reads_add (parameters.admits_candidate_firstAdmissible _ _)

theorem Reads.mem_names {name : String} {value : Value} (reads : parameters.Reads name value) :
    name ∈ parameters.names := by
  rcases reads with ⟨bound, found, -⟩
  by_contra free
  rw [(parameters.get?_eq_none_iff name).mpr free] at found
  cases found

theorem Reads.admits {name : String} {value : Value} (reads : parameters.Reads name value)
    (equal_self : (value == value) = true) : parameters.admits value name = true := by
  rcases reads with ⟨bound, found, rfl | same⟩
  · simpa [Parameters.admits, found] using equal_self
  · simpa [Parameters.admits, found] using same

/-- A name that is refused stays refused, since it keeps its value. -/
theorem not_admits_extended {later : Parameters} {name : String} {value : Value}
    (extended : parameters.entries <+: later.entries)
    (refused : ¬parameters.admits value name = true) : ¬later.admits value name = true := by
  cases found : parameters.get? name with
  | none => simp [admits, found] at refused
  | some bound =>
      have still_found := get?_extended extended found
      simpa [admits, found, still_found] using refused

/-- A value that is equal to itself finds its name again, whatever was bound in between, and
nothing is added for it. -/
theorem bind_again {later : Parameters} {field : String} {key value : Value}
    (equal_self : (value == value) = true)
    (extended : (parameters.bind field key value).2.entries <+: later.entries) :
    later.bind field key value = ((parameters.bind field key value).1, later) := by
  have reads := (reads_bind field key value).extended extended
  have before_extended := (prefix_bind field key value).trans extended
  have place_eq : later.firstAdmissible (nameOf field key) value =
      parameters.firstAdmissible (nameOf field key) value := by
    apply later.firstAdmissible_eq (reads.admits equal_self)
    intro m earlier
    exact not_admits_extended before_extended (parameters.not_admits_of_lt_firstAdmissible earlier)
  simp only [bind, place_eq]
  exact Prod.ext rfl (later.add_of_mem reads.mem_names value)

theorem nodup_names (parameters : Parameters) : parameters.names.Nodup :=
  parameters.distinct

@[simp]
theorem eraseDups_names (parameters : Parameters) : parameters.names.eraseDups = parameters.names :=
  eraseDups_of_nodup parameters.nodup_names

/-- A name is added after all others, or stays where it is. -/
theorem names_add (name : String) (value : Value) :
    (parameters.add name value).names = (parameters.names ++ [name]).eraseDups := by
  by_cases bound : name ∈ parameters.names
  · rw [add_of_mem parameters bound, List.eraseDups_append, eraseDups_names]
    simp [List.removeAll, bound]
  · rw [eraseDups_of_nodup (nodup_concat bound)]
    simp only [names, entries_add_of_notMem parameters bound, List.map_append, List.map_cons,
      List.map_nil]

/-- A value to be bound under a name that is made from a field and a key. -/
structure Request where
  field : String
  key : Value
  value : Value

/-- Binds several values one after the other, and gives back their names. -/
def bindEach (parameters : Parameters) : List Request → List String × Parameters
  | [] => ([], parameters)
  | request :: rest =>
      let bound := parameters.bind request.field request.key request.value
      let others := bindEach bound.2 rest
      (bound.1 :: others.1, others.2)

theorem bindEach_append (requests more : List Request) :
    parameters.bindEach (requests ++ more) =
      ((parameters.bindEach requests).1 ++ ((parameters.bindEach requests).2.bindEach more).1,
        ((parameters.bindEach requests).2.bindEach more).2) := by
  induction requests generalizing parameters with
  | nil => rfl
  | cons request rest ih => simp only [List.cons_append, bindEach, ih]

theorem prefix_bindEach (requests : List Request) :
    parameters.entries <+: (parameters.bindEach requests).2.entries := by
  induction requests generalizing parameters with
  | nil => exact List.prefix_refl _
  | cons request rest ih => exact (prefix_bind _ _ _).trans ih

theorem reads_bindEach (requests : List Request) :
    List.Forall₂ (fun name request => (parameters.bindEach requests).2.Reads name request.value)
      (parameters.bindEach requests).1 requests := by
  induction requests generalizing parameters with
  | nil => exact .nil
  | cons request rest ih =>
      refine .cons ?_ ih
      exact (reads_bind _ _ _).extended (prefix_bindEach rest)

theorem names_bindEach (requests : List Request) :
    (parameters.bindEach requests).2.names =
      (parameters.names ++ (parameters.bindEach requests).1).eraseDups := by
  induction requests generalizing parameters with
  | nil => simp [bindEach]
  | cons request rest ih =>
      simp only [bindEach]
      rw [ih, bind, names_add, eraseDups_eraseDups_append, List.append_assoc]
      rfl

theorem mem_bindEach {requests : List Request} {name : String}
    (name_mem : name ∈ (parameters.bindEach requests).1) :
    ∃ request ∈ requests, ∃ n, name = candidate (nameOf request.field request.key) n := by
  induction requests generalizing parameters with
  | nil => simp [bindEach] at name_mem
  | cons request rest ih =>
      rcases List.mem_cons.mp name_mem with rfl | later
      · exact ⟨request, List.mem_cons_self, _, rfl⟩
      · rcases ih later with ⟨other, other_mem, made⟩
        exact ⟨other, List.mem_cons_of_mem _ other_mem, made⟩

end Parameters

end ObjectQuery
