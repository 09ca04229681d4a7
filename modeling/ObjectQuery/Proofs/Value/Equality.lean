import ObjectQuery.Value.Basic

/-!
# Equality of values

Equality of values is symmetric and transitive. It is not reflexive, since a value that holds no
number is not equal to itself; but whatever is equal to anything is equal to itself.
-/

namespace ObjectQuery

namespace Binary

theorem equal_comm (x y : Binary) : x.equal y = y.equal x := by
  cases x <;> cases y <;> grind [equal]

theorem equal_trans {x y z : Binary} (same : x.equal y = true) (next : y.equal z = true) :
    x.equal z = true := by
  cases x <;> cases y <;> cases z <;> grind [equal]

end Binary

namespace Value

mutual

theorem equal_comm (value other : Value) : value.equal other = other.equal value := by
  cases value with
  | null | bool b | int i | text s => cases other <;> simp [equal, Bool.beq_comm]
  | float x =>
      cases other with
      | float y => exact Binary.equal_comm _ _
      | _ => rfl
  | list items =>
      cases other with
      | list others => exact equalItems_comm items others
      | _ => rfl

theorem equalItems_comm (items others : List Value) :
    equalItems items others = equalItems others items := by
  cases items with
  | nil => cases others <;> rfl
  | cons item rest =>
      cases others with
      | nil => rfl
      | cons other more =>
          rw [equalItems, equalItems, equal_comm item other, equalItems_comm rest more]

end

theorem equal_symm {value other : Value} (same : value.equal other = true) :
    other.equal value = true := by
  rwa [equal_comm]

mutual

theorem equal_trans (value : Value) {other third : Value} (same : value.equal other = true)
    (next : other.equal third = true) : value.equal third = true := by
  cases value with
  | null | bool b | int i | text s =>
      cases other <;> simp only [equal, beq_iff_eq, Bool.false_eq_true] at same
      all_goals simpa only [same] using next
  | float x =>
      cases other with
      | float y =>
          cases third with
          | float z =>
              rw [equal] at same next ⊢
              exact Binary.equal_trans same next
          | _ => simp [equal] at next
      | _ => simp [equal] at same
  | list items =>
      cases other with
      | list others =>
          cases third with
          | list thirds =>
              rw [equal] at same next ⊢
              exact equalItems_trans items same next
          | _ => simp [equal] at next
      | _ => simp [equal] at same

theorem equalItems_trans (items : List Value) {others thirds : List Value}
    (same : equalItems items others = true) (next : equalItems others thirds = true) :
    equalItems items thirds = true := by
  cases items with
  | nil =>
      cases others with
      | nil => exact next
      | cons other more => simp [equalItems] at same
  | cons item rest =>
      cases others with
      | nil => simp [equalItems] at same
      | cons other more =>
          cases thirds with
          | nil => simp [equalItems] at next
          | cons third last =>
              rw [equalItems, Bool.and_eq_true] at same next ⊢
              exact ⟨equal_trans item same.1 next.1, equalItems_trans rest same.2 next.2⟩

end

theorem isNull_eq_of_equal {value other : Value} (same : value.equal other = true) :
    value.isNull = other.isNull := by
  cases value <;> cases other <;> simp [equal] at same <;> rfl

/-- A value that anything is equal to is equal to itself. -/
theorem equal_self_of_equal {held value : Value} (same : held.equal value = true) :
    value.equal value = true :=
  equal_trans value (equal_symm same) same

/-- Of two equal values, one is equal to whatever the other is equal to. -/
theorem equal_congr {value other : Value} (same : value.equal other = true) (held : Value) :
    held.equal value = held.equal other := by
  rw [Bool.eq_iff_iff]
  constructor
  · intro held_same
    exact equal_trans held held_same same
  · intro held_same
    exact equal_trans held held_same (equal_symm same)

end Value

end ObjectQuery
