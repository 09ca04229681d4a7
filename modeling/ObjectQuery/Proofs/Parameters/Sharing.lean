import ObjectQuery.Proofs.Parameters.Naming
import ObjectQuery.Proofs.Value.Zeros

/-!
# Names that equal values share

Of two equal values that are bound one after the other for one field, the second one finds the name
of the first, provided that the search for it starts at the same name: each candidate admits either
both or neither of them. Names start at different places only if the canonical texts differ, which
they do for equal values if a zero in one of them has another sign than in the other. No number at
the end of a name leads from one place to the other.
-/

namespace ObjectQuery

namespace Parameters

section Search

variable {parameters : Parameters} {value other : Value}

theorem admits_eq_of_equal (same : (value == other) = true) (name : String) :
    parameters.admits value name = parameters.admits other name := by
  unfold admits
  cases parameters.get? name with
  | none => rfl
  | some held => exact Value.equal_congr same held

theorem firstAdmissible_eq_of_equal (same : (value == other) = true) (ideal : String) :
    parameters.firstAdmissible ideal value = parameters.firstAdmissible ideal other := by
  simp only [firstAdmissible, admits_eq_of_equal same]

/-- A value finds the name of an equal one, if it is sought from the same name on, and nothing is
added for it. -/
theorem bind_of_equal {later : Parameters} {field : String} {key otherKey : Value}
    (same : (value == other) = true) (ideal_eq : nameOf field otherKey = nameOf field key)
    (extended : (parameters.bind field key value).2.entries <+: later.entries) :
    later.bind field otherKey other = ((parameters.bind field key value).1, later) := by
  have equal_self : (value == value) = true :=
    Value.equal_self_of_equal (Value.equal_symm same)
  have again := congrArg Prod.fst (bind_again equal_self extended)
  have reads := (reads_bind field key value).extended extended
  simp only [bind] at again reads
  simp only [bind, ideal_eq, ← firstAdmissible_eq_of_equal same, again]
  rw [later.add_of_mem reads.mem_names]

end Search

section Names

variable {field : String} {key other : Value}

/-- A name with a number at its end is not the name for another value of the same field. -/
theorem nameOf_ne_numbered (n : ℕ) :
    nameOf field key ≠ nameOf field other ++ "_" ++ toString n := by
  intro same
  simp only [nameOf_eq, String.append_assoc, String.append_right_inj] at same
  apply underscore_notMem_suffix key
  rw [same]
  simp

/-- The candidates of two names for one field differ if the names do. -/
theorem nameOf_eq_of_candidate_eq {m n : ℕ}
    (same : candidate (nameOf field key) m = candidate (nameOf field other) n) :
    nameOf field key = nameOf field other := by
  cases m with
  | zero =>
      cases n with
      | zero => exact same
      | succ n => exact absurd same (nameOf_ne_numbered (n + 1))
  | succ m =>
      cases n with
      | zero => exact absurd same.symm (nameOf_ne_numbered (m + 1))
      | succ n =>
          -- Digits hold no underscore, so both names end before the last one.
          have split := congrArg String.toList same
          simp only [candidate, String.toList_append, List.append_assoc] at split
          have parts := append_underscore_inj (underscore_notMem_toString (m + 1))
            (underscore_notMem_toString (n + 1)) split
          exact String.toList_inj.mp parts.1

/-- Equal values have one name for a field exactly if their zeros have the same signs or their
digests collide. -/
theorem nameOf_eq_iff_of_equal (same : (key == other) = true) (field : String) :
    nameOf field key = nameOf field other ↔
      key.SameZeros other ∨ Collide key.canonical other.canonical := by
  rw [nameOf_eq, nameOf_eq, String.append_right_inj, suffix_eq_suffix_iff, digest_eq_iff,
    Value.canonical_eq_iff same, ← Value.isNull_eq_of_equal same]
  cases null : key.isNull with
  | false => simp
  | true =>
      have other_null : other.isNull = true := by rwa [← Value.isNull_eq_of_equal same]
      rw [Value.eq_null_of_isNull null, Value.eq_null_of_isNull other_null]
      simp [Value.SameZeros]

end Names

/-- Equal values have one canonical text exactly if the zeros in the same places of them have the
same signs. If they are bound one after the other for one field, they get one name exactly if this
is so or if the digests of their texts collide; then nothing is added for the second one. -/
theorem bind_shares_equal_iff {value other : Value} (same : (value == other) = true) :
    (value.canonical = other.canonical ↔ value.SameZeros other) ∧
      ∀ (parameters : Parameters) (field : String),
        let (name, once) := parameters.bind field value value
        let (again, twice) := once.bind field other other
        (again = name ↔ value.SameZeros other ∨ Collide value.canonical other.canonical) ∧
          (again = name → twice = once ∧ twice.size ≤ parameters.size + 1) := by
  refine ⟨Value.canonical_eq_iff same, ?_⟩
  intro parameters field
  let once := (parameters.bind field value value).2
  have found (ideal_eq : nameOf field other = nameOf field value) :
      once.bind field other other = ((parameters.bind field value value).1, once) :=
    bind_of_equal same ideal_eq List.prefix_rfl
  constructor
  · rw [← nameOf_eq_iff_of_equal same field]
    constructor
    · intro name_eq
      exact (nameOf_eq_of_candidate_eq name_eq).symm
    · intro ideal_eq
      exact congrArg Prod.fst (found ideal_eq.symm)
  · intro name_eq
    have kept := congrArg Prod.snd (found (nameOf_eq_of_candidate_eq name_eq))
    exact ⟨kept, (congrArg size kept).trans_le (parameters.size_add_le _ value)⟩

/-- Two lists with zeros of the same signs in the same places, and two with zeros of other signs
whose digests collide. -/
theorem bind_shares_equal_of_zeros :
    let zero : Value := .float 0.0
    let negative : Value := .float (-0.0)
    let value : Value := .list [.float 1.5, .list [negative, .null]]
    let other : Value := .list [.float (3 / 2), .list [.float (0 / -1), .null]]
    let held : Value := .list [.int 14116885, zero, zero, negative, zero, negative]
    let sought : Value := .list [.int 14116885, negative, negative, negative, zero, zero]
    let empty : Parameters := {}
    let bound := empty.bind "x" value value
    let holding := empty.bind "x" held held
    (value == other) = true ∧ value.SameZeros other ∧ value.canonical = other.canonical ∧
      bound.2.bind "x" other other = bound ∧
      (held == sought) = true ∧ ¬held.SameZeros sought ∧ held.canonical ≠ sought.canonical ∧
        holding.2.bind "x" sought sought = holding := by
  intro zero negative value other held sought empty bound holding
  have same : (value == other) = true := by decide +kernel
  have zeros : value.SameZeros other := by
    simp only [value, other, negative, Value.SameZeros, Value.AllSameZeros]
    decide +kernel
  have shares := bind_shares_equal_iff same
  have name_eq : (bound.2.bind "x" other other).1 = bound.1 :=
    (shares.2 empty "x").1.mpr (Or.inl zeros)
  have held_same : (held == sought) = true := by decide +kernel
  have differ : ¬held.SameZeros sought := by
    simp only [held, sought, zero, negative, Value.SameZeros, Value.AllSameZeros]
    decide +kernel
  have collide : Collide held.canonical sought.canonical := by decide +kernel
  have held_shares := bind_shares_equal_iff held_same
  have held_name_eq : (holding.2.bind "x" sought sought).1 = holding.1 :=
    (held_shares.2 empty "x").1.mpr (Or.inr collide)
  refine ⟨same, zeros, shares.1.mpr zeros, ?_, held_same, differ, mt held_shares.1.mp differ, ?_⟩
  · exact Prod.ext name_eq ((shares.2 empty "x").2 name_eq).1
  · exact Prod.ext held_name_eq ((held_shares.2 empty "x").2 held_name_eq).1

/-- The two zeros are equal, and yet they are written differently and get two names. -/
theorem bind_separates_zeros :
    let zero : Value := .float 0.0
    let negative : Value := .float (-0.0)
    let (name, once) := bind {} "x" zero zero
    let (again, twice) := once.bind "x" negative negative
    (zero == negative) = true ∧ zero.canonical = "0.0" ∧ negative.canonical = "-0.0" ∧
      again ≠ name ∧ twice.names = [name, again] := by
  intro zero negative
  refine ⟨by decide +kernel, by decide +kernel, by decide +kernel, by decide +kernel,
    by decide +kernel⟩

end Parameters

end ObjectQuery
