import ObjectQuery.Proofs.Lookup
import ObjectQuery.Value.Basic

/-!
# Upper-casing twice

What is in upper case stays as it is when it is upper-cased again, because no code point that the
tables map to is one that they map. Both sets of code points are written as numbers, with one bit
for each code point, and the two numbers have no bit in common.
-/

namespace ObjectQuery

namespace Uppercase

def Run.codes (run : Run) : List ℕ :=
  (List.range ((run.last - run.first) / run.step + 1)).map fun n => run.first + run.step * n

theorem Run.mem_codes {run : Run} {code : ℕ} (held : run.contains code = true) :
    code ∈ run.codes := by
  simp only [Run.contains, decide_eq_true_eq] at held
  rcases held with ⟨first_le, le_last, on_step⟩
  refine List.mem_map.mpr ⟨(code - run.first) / run.step, ?_, ?_⟩
  · have place_le : (code - run.first) / run.step ≤ (run.last - run.first) / run.step :=
      Nat.div_le_div_right (by omega)
    exact List.mem_range.mpr (by omega)
  · rw [Nat.mul_div_cancel' (Nat.dvd_of_mod_eq_zero on_step)]
    omega

/-- The code points that the tables map. -/
def mapped : List ℕ :=
  expansions.map Prod.fst ++ runs.flatMap Run.codes

/-- The code points that the tables map to. -/
def produced : List ℕ :=
  expansions.flatMap Prod.snd ++
    runs.flatMap fun run => run.codes.map fun code : ℕ => (code + run.shift).toNat

theorem ofCode_of_notMem {code : ℕ} (unmapped : code ∉ mapped) : ofCode code = [code] := by
  simp only [mapped, List.mem_append, List.mem_map, List.mem_flatMap, not_or] at unmapped
  have no_expansion : expansions.lookup code = none := by
    rw [List.lookup_eq_none_iff]
    intro entry entry_mem
    simpa using fun same : code = entry.1 => unmapped.1 ⟨entry, entry_mem, same.symm⟩
  have no_run : runs.find? (fun run => run.contains code) = none := by
    rw [List.find?_eq_none]
    exact fun run run_mem held => unmapped.2 ⟨run, run_mem, Run.mem_codes held⟩
  simp only [ofCode, no_expansion, no_run]

theorem eq_or_mem_produced {code upper : ℕ} (upper_mem : upper ∈ ofCode code) :
    ofCode code = [code] ∨ upper ∈ produced := by
  unfold ofCode at upper_mem ⊢
  split at upper_mem
  · next codes found =>
      have entry_mem : (code, codes) ∈ expansions := mem_of_lookup found
      exact .inr (List.mem_append_left _ (List.mem_flatMap.mpr ⟨_, entry_mem, upper_mem⟩))
  · next no_expansion =>
      split at upper_mem
      · next run found =>
          have held := List.find?_some found
          right
          refine List.mem_append_right _ (List.mem_flatMap.mpr ⟨run, List.mem_of_find?_eq_some found,
            List.mem_map.mpr ⟨code, Run.mem_codes held, ?_⟩⟩)
          exact (List.mem_singleton.mp upper_mem).symm
      · next no_run => exact .inl rfl

/-- A set of numbers, as the bits of one. -/
def bits : List ℕ → ℕ
  | [] => 0
  | code :: rest => 1 <<< code ||| bits rest

theorem testBit_bits (codes : List ℕ) (code : ℕ) :
    (bits codes).testBit code = decide (code ∈ codes) := by
  induction codes with
  | nil => simp [bits]
  | cons first rest ih =>
      rw [bits, Nat.testBit_or, ih, Nat.one_shiftLeft, Nat.testBit_two_pow]
      simp [eq_comm]

-- Going through all pairs of code points instead takes minutes.
theorem bits_mapped_and_bits_produced : bits mapped &&& bits produced = 0 := by
  decide +kernel

theorem isValidChar_of_mem_produced : ∀ code ∈ produced, code.isValidChar := by
  decide +kernel

theorem ofCode_of_mem_produced {code : ℕ} (code_mem : code ∈ produced) : ofCode code = [code] := by
  apply ofCode_of_notMem
  intro code_mapped
  have common := congrArg (fun common => common.testBit code) bits_mapped_and_bits_produced
  simp [Nat.testBit_and, testBit_bits, code_mapped, code_mem] at common

theorem ofChar_of_mem_ofChar {c upper : Char} (upper_mem : upper ∈ ofChar c) :
    ofChar upper = [upper] := by
  simp only [ofChar, List.mem_map] at upper_mem
  rcases upper_mem with ⟨code, code_mem, rfl⟩
  rcases eq_or_mem_produced code_mem with unchanged | code_produced
  · rw [unchanged, List.mem_singleton] at code_mem
    rw [code_mem, Char.ofNat_toNat, ofChar, unchanged]
    simp
  · have toNat_eq : (Char.ofNat code).toNat = code := by
      rw [Char.ofNat, dif_pos (isValidChar_of_mem_produced code code_produced)]
      rfl
    rw [ofChar, toNat_eq, ofCode_of_mem_produced code_produced]
    rfl

theorem ofText_append (s s' : String) : ofText (s ++ s') = ofText s ++ ofText s' := by
  simp [ofText, String.toList_append, String.ofList_append]

@[simp]
theorem ofText_ofText (s : String) : ofText (ofText s) = ofText s := by
  have unchanged : ∀ upper ∈ s.toList.flatMap ofChar, ofChar upper = [upper] := by
    intro upper upper_mem
    rcases List.mem_flatMap.mp upper_mem with ⟨c, -, upper_mem⟩
    exact ofChar_of_mem_ofChar upper_mem
  simp only [ofText, String.toList_ofList, List.flatMap_congr unchanged, List.flatMap_singleton']

end Uppercase

namespace Value

@[simp]
theorem toUpper_toUpper (value : Value) : value.toUpper.toUpper = value.toUpper := by
  cases value with
  | null => rfl
  | bool _ | int _ | float _ | text _ | list _ =>
      exact congrArg text (Uppercase.ofText_ofText _)

end Value

end ObjectQuery
