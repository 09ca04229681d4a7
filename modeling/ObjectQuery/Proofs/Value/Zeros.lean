import ObjectQuery.Proofs.Value.Equality
import ObjectQuery.Value.Canonical

/-!
# Zeros in canonical texts

The two zeros are equal, but the sign of a zero is written. Apart from that, equal values are
written alike: their canonical texts are the same exactly if the zeros that stand in the same places
have the same signs.
-/

namespace ObjectQuery

namespace Binary

/-- If both are zero, they have the same sign. -/
def SameZero : Binary → Binary → Prop
  | .finite negative significand _, .finite negative' significand' _ =>
      significand = 0 → significand' = 0 → negative = negative'
  | _, _ => True

instance : (x y : Binary) → Decidable (x.SameZero y)
  | .finite _ _ _, .finite _ _ _ => inferInstanceAs (Decidable (_ → _ → _))
  | .nan, _ | .infinite _, _ | .finite _ _ _, .nan | .finite _ _ _, .infinite _ => isTrue trivial

end Binary

namespace Value

mutual

/-- Zeros that stand in the same places of two values have the same signs. -/
def SameZeros : Value → Value → Prop
  | .float x, .float y => (Binary.ofFloat x).SameZero (Binary.ofFloat y)
  | .list items, .list others => AllSameZeros items others
  | _, _ => True

def AllSameZeros : List Value → List Value → Prop
  | item :: rest, other :: others => item.SameZeros other ∧ AllSameZeros rest others
  | _, _ => True

end

/-- Whatever its exponent, a zero is written as `0.0`, with its sign. -/
theorem toList_finiteText_zero (negative : Bool) (exponent : Int) :
    (Json.numberFormat.finiteText negative 0 exponent).toList =
      if negative then ['-', '0', '.', '0'] else ['0', '.', '0'] := by
  have digits_eq : Json.numberFormat.decimalText ⟨0, 0⟩ = ['0', '.', '0'] := by decide
  rw [Decimal.Format.finiteText, Decimal.shortest, if_pos rfl, digits_eq, String.toList_ofList]

/-- Equal floats are written alike, unless they are zeros of which one has a sign. -/
theorem decimalText_append_eq_iff {x y : Float}
    (same : (Binary.ofFloat x).equal (Binary.ofFloat y) = true) (text text' : List Char) :
    Json.decimalText x ++ text = Json.decimalText y ++ text' ↔
      (Binary.ofFloat x).SameZero (Binary.ofFloat y) ∧ text = text' := by
  unfold Json.decimalText
  generalize Binary.ofFloat x = left at same ⊢
  generalize Binary.ofFloat y = right at same ⊢
  cases left with
  | nan => simp [Binary.equal] at same
  | infinite negative =>
      cases right with
      | infinite negative' => simp [Binary.SameZero]
      | nan | finite negative' significand' exponent' => simp [Binary.equal] at same
  | finite negative significand exponent =>
      cases right with
      | finite negative' significand' exponent' =>
          simp only [Binary.equal, Bool.and_eq_true, Bool.or_eq_true, beq_iff_eq] at same
          -- Only zeros are equal with another sign, and the sign is the first that is written.
          rcases same with ⟨rfl, rfl | ⟨rfl, rfl⟩⟩
          · simp only [toList_finiteText_zero, Binary.SameZero, forall_const]
            cases negative <;> cases negative' <;> simp
          · simp [Binary.SameZero]
      | nan | infinite negative' => simp [Binary.equal] at same

mutual

/-- Equal values are written alike up to the signs of their zeros, whatever stands behind them. -/
theorem write_append_eq_iff (value : Value) {other : Value} (same : value.equal other = true)
    (text text' : List Char) :
    value.toJson.write ++ text = other.toJson.write ++ text' ↔
      value.SameZeros other ∧ text = text' := by
  cases value with
  | null | bool b | int i | text s =>
      cases other <;> simp only [equal, beq_iff_eq, Bool.false_eq_true] at same
      all_goals simp [same, SameZeros]
  | float x =>
      cases other with
      | float y => exact decimalText_append_eq_iff same text text'
      | _ => simp [equal] at same
  | list items =>
      cases other with
      | list others =>
          rw [equal] at same
          simp only [toJson, Json.write, List.cons_append, List.append_assoc, List.nil_append]
          rw [List.cons.injEq, writeItems_append_eq_iff items same, List.cons.injEq, SameZeros]
          simp only [true_and]
      | _ => simp [equal] at same

theorem writeItems_append_eq_iff (items : List Value) {others : List Value}
    (same : equalItems items others = true) (text text' : List Char) :
    Json.writeItems (itemsToJson items) ++ text = Json.writeItems (itemsToJson others) ++ text' ↔
      AllSameZeros items others ∧ text = text' := by
  match items, others with
  | [], [] => simp [itemsToJson, Json.writeItems, AllSameZeros]
  | [], other :: others | item :: rest, [] => simp [equalItems] at same
  | [item], [other] =>
      rw [equalItems, Bool.and_eq_true] at same
      exact (write_append_eq_iff item same.1 text text').trans (by simp [AllSameZeros])
  | [item], other :: next :: others | item :: next :: others, [other] => simp [equalItems] at same
  | item :: next :: rest, other :: next' :: rest' =>
      rw [equalItems, Bool.and_eq_true] at same
      -- Behind the first items stand the others, with what stands behind the lists.
      have rest_iff := writeItems_append_eq_iff (next :: rest) same.2 text text'
      simp only [itemsToJson] at rest_iff
      simp only [itemsToJson, Json.writeItems, List.append_assoc, List.cons_append]
      rw [write_append_eq_iff item same.1, List.cons.injEq, rest_iff]
      simp only [AllSameZeros, true_and, and_assoc]

end

/-- Equal values have the same canonical text exactly if their zeros have the same signs. -/
theorem canonical_eq_iff {value other : Value} (same : value.equal other = true) :
    value.canonical = other.canonical ↔ value.SameZeros other := by
  have written := write_append_eq_iff value same [] []
  rw [List.append_nil, List.append_nil, and_iff_left rfl] at written
  rw [canonical, canonical, Json.compact, Json.compact, String.ofList_inj, written]

end Value

end ObjectQuery
