import Mathlib.Order.Bounds.Basic
import ObjectQuery.Proofs.Parameters.Binding
import ObjectQuery.Proofs.Value.Equality

/-!
# The search for a name

The candidates for a name are tried one after the other, and nothing in the search itself says when
to stop. It ends because the names that are bound run out: a candidate is passed by only if it is
one of them. So it ends at the first candidate that can stand for the value, which comes no later
than there are names. A value that is not equal to itself can share no name and always gets a new
one.
-/

namespace ObjectQuery

namespace Parameters

variable (parameters : Parameters)

/-- The search for the name of a value, from one candidate on: at which candidate it ends, and with
which parameters. A candidate that is free is added and one that has an equal value is shared. Any
other is passed by, and the search goes on with the next one. -/
inductive Seeks (ideal : String) (value : Value) : ℕ → ℕ → Parameters → Prop
  | free {n : ℕ} (unbound : parameters.get? (candidate ideal n) = none) :
      Seeks ideal value n n (parameters.add (candidate ideal n) value)
  | shared {n : ℕ} {held : Value} (bound : parameters.get? (candidate ideal n) = some held)
      (same : (held == value) = true) :
      Seeks ideal value n n parameters
  | passed {n last : ℕ} {held : Value} {later : Parameters}
      (bound : parameters.get? (candidate ideal n) = some held)
      (differ : ¬(held == value) = true) (rest : Seeks ideal value (n + 1) last later) :
      Seeks ideal value n last later

variable {parameters} {ideal : String} {value : Value}

theorem admits_iff (name : String) :
    parameters.admits value name = true ↔
      parameters.get? name = none ∨
        ∃ held, parameters.get? name = some held ∧ (held == value) = true := by
  unfold admits
  cases parameters.get? name <;> simp

/-- A search ends at the first candidate that is admitted. -/
theorem Seeks.isLeast {n last : ℕ} {later : Parameters}
    (seeks : parameters.Seeks ideal value n last later) :
    IsLeast {m | n ≤ m ∧ parameters.admits value (candidate ideal m) = true} last := by
  induction seeks with
  | free unbound => exact ⟨⟨le_rfl, (admits_iff _).mpr (Or.inl unbound)⟩, fun m m_mem => m_mem.1⟩
  | shared bound same =>
      exact ⟨⟨le_rfl, (admits_iff _).mpr (Or.inr ⟨_, bound, same⟩)⟩, fun m m_mem => m_mem.1⟩
  | @passed n last held later bound differ rest ih =>
      refine ⟨⟨by have := ih.1.1; omega, ih.1.2⟩, ?_⟩
      rintro m ⟨n_le, admitted⟩
      apply ih.2
      refine ⟨?_, admitted⟩
      -- The candidate that was passed by is not the one that is admitted.
      have refused : n ≠ m := by
        rintro rfl
        simp [admits, bound, differ] at admitted
      omega

theorem Seeks.later_eq {n last : ℕ} {later : Parameters}
    (seeks : parameters.Seeks ideal value n last later) :
    later = parameters.add (candidate ideal last) value := by
  induction seeks with
  | free unbound => rfl
  | @shared n held bound same =>
      have reads : parameters.Reads _ value := ⟨held, bound, Or.inr same⟩
      exact (parameters.add_of_mem reads.mem_names value).symm
  | passed bound differ rest ih => exact ih

/-- A search that has not come beyond the first candidate that is admitted ends there. -/
theorem seeks_firstAdmissible {n : ℕ} (before : n ≤ parameters.firstAdmissible ideal value) :
    parameters.Seeks ideal value n (parameters.firstAdmissible ideal value)
      (parameters.add (candidate ideal (parameters.firstAdmissible ideal value)) value) := by
  induction before using Nat.decreasingInduction with
  | self =>
      have admitted := parameters.admits_candidate_firstAdmissible ideal value
      rcases (admits_iff _).mp admitted with unbound | ⟨held, bound, same⟩
      · exact .free unbound
      · have reads : parameters.Reads _ value := ⟨held, bound, Or.inr same⟩
        rw [parameters.add_of_mem reads.mem_names]
        exact .shared bound same
  | of_succ n earlier ih =>
      have refused := parameters.not_admits_of_lt_firstAdmissible earlier
      rw [admits_iff, not_or, not_exists] at refused
      rcases Option.ne_none_iff_exists'.mp refused.1 with ⟨held, bound⟩
      exact .passed bound (fun same => refused.2 held ⟨bound, same⟩) ih

/-- A search ends in one way only. -/
theorem Seeks.unique {n last otherLast : ℕ} {later other : Parameters}
    (seeks : parameters.Seeks ideal value n last later)
    (also : parameters.Seeks ideal value n otherLast other) :
    otherLast = last ∧ other = later := by
  have last_eq := also.isLeast.unique seeks.isLeast
  refine ⟨last_eq, ?_⟩
  rw [also.later_eq, seeks.later_eq, last_eq]

theorem seeks_bind (parameters : Parameters) (field : String) (key value : Value) :
    parameters.Seeks (nameOf field key) value 0
      (parameters.firstAdmissible (nameOf field key) value)
      (parameters.bind field key value).2 :=
  seeks_firstAdmissible (Nat.zero_le _)

theorem firstAdmissible_le_size (ideal : String) (value : Value) :
    parameters.firstAdmissible ideal value ≤ parameters.size := by
  rcases parameters.exists_admits ideal value with ⟨n, n_le, admitted⟩
  have seeks : parameters.Seeks ideal value 0 _ _ := seeks_firstAdmissible (Nat.zero_le _)
  exact (seeks.isLeast.2 ⟨Nat.zero_le n, admitted⟩).trans n_le

theorem entries_add (name : String) (value : Value) :
    (parameters.add name value).entries =
      parameters.entries ++ if parameters.contains name then [] else [(name, value)] := by
  by_cases bound : name ∈ parameters.names
  · rw [if_pos ((parameters.contains_iff name).mpr bound), parameters.add_of_mem bound,
      List.append_nil]
  · rw [if_neg (mt (parameters.contains_iff name).mp bound), entries_add_of_notMem parameters bound]

theorem not_contains_of_admits {name : String} (differs : (value == value) = false)
    (admitted : parameters.admits value name = true) : parameters.contains name = false := by
  rcases (admits_iff name).mp admitted with unbound | ⟨held, -, same⟩
  · rw [contains, unbound]
    rfl
  · have equal_self : (value == value) = true := Value.equal_self_of_equal same
    rw [equal_self] at differs
    cases differs

/-- The search for a name ends in one way, at the first candidate that is free or has an equal value,
after no more steps than there are names. An entry is added exactly if the candidate was free, and
it always was if the value is not equal to itself. -/
theorem bind_takes_first_admissible (parameters : Parameters) (field : String)
    (key value : Value) :
    let ideal := nameOf field key
    let (name, after) := parameters.bind field key value
    ∃ place ≤ parameters.size,
      name = candidate ideal place ∧
      IsLeast {n | parameters.get? (candidate ideal n) = none ∨
        ∃ held, parameters.get? (candidate ideal n) = some held ∧ (held == value) = true} place ∧
      (∀ last later, parameters.Seeks ideal value 0 last later ↔ last = place ∧ later = after) ∧
      after.entries = parameters.entries ++
        (if parameters.contains name then [] else [(name, value)]) ∧
      ((value == value) = false → parameters.contains name = false) := by
  intro ideal
  have seeks := parameters.seeks_bind field key value
  have least := seeks.isLeast
  simp only [Nat.zero_le, true_and, admits_iff] at least
  refine ⟨_, firstAdmissible_le_size ideal value, rfl, least, ?_, entries_add _ value, ?_⟩
  · intro last later
    constructor
    · intro also
      exact seeks.unique also
    · rintro ⟨rfl, rfl⟩
      exact seeks
  · intro differs
    exact not_contains_of_admits differs (parameters.admits_candidate_firstAdmissible ideal value)

/-- A float that is no number does not share its own name, and steps aside for all that are bound. -/
theorem bind_takes_first_admissible_of_nan :
    let nan : Value := .float (0 / 0)
    let parameters : Parameters :=
      { entries := [("x_", nan), ("x__1", .int 1)], distinct := by decide }
    let (name, after) := parameters.bind "x" .null nan
    (nan == nan) = false ∧ parameters.contains name = false ∧ name = "x__2" ∧
      after.entries = parameters.entries ++ [(name, nan)] := by
  intro nan parameters
  have differs : (nan == nan) = false := by rfl
  have name_eq : (parameters.bind "x" .null nan).1 = "x__2" := by rfl
  rcases bind_takes_first_admissible parameters "x" .null nan with
    ⟨place, -, -, -, -, entries_eq, new⟩
  have free := new differs
  rw [free] at entries_eq
  exact ⟨differs, free, name_eq, entries_eq⟩

end Parameters

end ObjectQuery
