import Mathlib.Data.Int.Basic
import ObjectQuery.Search.Basic

/-!
# Pages

The number of a page is computed with unsigned 64-bit words, from bounds that are given as signed
ones. A bound below zero is no bound, and zero rows are no page, so nothing is divided by zero. A
bound lies in the lower half of the words, which leaves room to count pages from one. So the number
is exact: the page that it stands for is the one that the first row lies on.
-/

namespace ObjectQuery

/-- A page starts behind the rows of the pages before it and ends where the next one starts. -/
theorem eq_ediv_add_one_iff {first size number : ℤ} (positive : 0 < size) :
    number = first / size + 1 ↔ (number - 1) * size ≤ first ∧ first < number * size := by
  rw [← Int.le_ediv_iff_mul_le positive, ← Int.ediv_lt_iff_lt_mul positive]
  omega

namespace SearchSpec

/-- A bound is the number that was given, if a word without a sign can hold it. -/
theorem bound?_eq_some_iff (i : Int64) (bound : UInt64) :
    bound? i = some bound ↔ (bound.toNat : ℤ) = i.toInt := by
  unfold bound?
  split
  · next nonneg =>
      have toNat_eq : (i.toUInt64.toNat : ℤ) = i.toInt := by
        rw [Int64.toNat_toUInt64_of_le nonneg]
        exact Int.toNat_of_nonneg (Int64.le_iff_toInt_le.mp nonneg)
      rw [Option.some.injEq, ← toNat_eq, Int.natCast_inj, UInt64.toNat_inj, eq_comm]
  · next negative =>
      rw [Int64.le_iff_toInt_le, Int64.toInt_zero] at negative
      simp only [reduceCtorEq, false_iff]
      omega

theorem isSome_bound?_iff (i : Int64) : (bound? i).isSome = true ↔ 0 ≤ i := by
  simp only [bound?, Option.isSome_ite]

variable {spec : SearchSpec} {first size number : UInt64}

theorem firstResult?_eq_some_iff :
    spec.firstResult? = some first ↔ (first.toNat : ℤ) = spec.offset.toInt :=
  bound?_eq_some_iff spec.offset first

theorem isSome_firstResult?_iff : spec.firstResult?.isSome = true ↔ 0 ≤ spec.offset :=
  isSome_bound?_iff spec.offset

theorem maxResults?_eq_some_iff :
    spec.maxResults? = some size ↔ (size.toNat : ℤ) = spec.pageSize.toInt ∧ 0 < size.toNat := by
  rw [maxResults?, Option.filter_eq_some_iff, bound?_eq_some_iff, decide_eq_true_iff,
    UInt64.lt_iff_toNat_lt, UInt64.toNat_zero]

theorem isSome_maxResults?_iff : spec.maxResults?.isSome = true ↔ 0 < spec.pageSize := by
  rw [Int64.lt_iff_toInt_lt, Int64.toInt_zero, Option.isSome_iff_exists]
  constructor
  · rintro ⟨size, size_eq⟩
    rw [maxResults?_eq_some_iff] at size_eq
    omega
  · intro positive
    have nonneg : 0 ≤ spec.pageSize := Int64.le_iff_toInt_le.mpr (Int.le_of_lt positive)
    rcases Option.isSome_iff_exists.mp ((isSome_bound?_iff _).mpr nonneg) with ⟨size, size_eq⟩
    rw [bound?_eq_some_iff] at size_eq
    exact ⟨size, maxResults?_eq_some_iff.mpr ⟨size_eq, by omega⟩⟩

theorem pageNumber?_eq_some_iff : spec.pageNumber? = some number ↔
    ∃ first size, spec.firstResult? = some first ∧ spec.maxResults? = some size ∧
      first / size + 1 = number := by
  unfold pageNumber?
  cases spec.firstResult? <;> cases spec.maxResults? <;> simp

theorem isSome_pageNumber?_iff :
    spec.pageNumber?.isSome = true ↔ 0 ≤ spec.offset ∧ 0 < spec.pageSize := by
  rw [← isSome_firstResult?_iff, ← isSome_maxResults?_iff, pageNumber?]
  cases spec.firstResult? <;> cases spec.maxResults? <;> simp

/-- The quotient of two bounds is no greater than the first one, so one more is still a word. -/
theorem toNat_div_add_one_lt (first_eq : spec.firstResult? = some first) (size : UInt64) :
    (first / size).toNat + 1 < UInt64.size := by
  rw [firstResult?_eq_some_iff] at first_eq
  -- One bit of the offset is its sign.
  have offset_lt := spec.offset.toInt_lt
  have quotient_le : first.toNat / size.toNat ≤ first.toNat := Nat.div_le_self _ _
  rw [UInt64.toNat_div, UInt64.size]
  omega

/-- The words for the number of a page are those of the exact quotient. -/
theorem toNat_pageNumber? (number_eq : spec.pageNumber? = some number) :
    (number.toNat : ℤ) = spec.offset.toInt / spec.pageSize.toInt + 1 := by
  rcases pageNumber?_eq_some_iff.mp number_eq with ⟨first, size, first_eq, size_eq, rfl⟩
  have fits := toNat_div_add_one_lt first_eq size
  rw [firstResult?_eq_some_iff] at first_eq
  rw [maxResults?_eq_some_iff] at size_eq
  rw [UInt64.toNat_add, UInt64.toNat_one, Nat.mod_eq_of_lt fits, UInt64.toNat_div, ← first_eq,
    ← size_eq.1]
  rfl

/-- There is a page exactly if the first row and the number of rows are bounded, and it is the one
that the first row lies on. On the way to its number nothing is divided by zero, and the addition
does not overflow. -/
theorem pageNumber_exact (spec : SearchSpec) :
    (∀ first size, spec.firstResult? = some first → spec.maxResults? = some size →
        size ≠ 0 ∧ (first / size).toNat + 1 < UInt64.size) ∧
      (spec.pageNumber?.isSome = true ↔ 0 ≤ spec.offset ∧ 0 < spec.pageSize) ∧
      ∀ number, spec.pageNumber? = some number →
        ((number.toNat : ℤ) - 1) * spec.pageSize.toInt ≤ spec.offset.toInt ∧
          spec.offset.toInt < number.toNat * spec.pageSize.toInt := by
  refine ⟨?_, isSome_pageNumber?_iff, ?_⟩
  · intro first size first_eq size_eq
    refine ⟨?_, toNat_div_add_one_lt first_eq size⟩
    rintro rfl
    exact absurd (maxResults?_eq_some_iff.mp size_eq).2 (lt_irrefl 0)
  · intro number number_eq
    have bounded := isSome_pageNumber?_iff.mp (Option.isSome_of_eq_some number_eq)
    have positive : 0 < spec.pageSize.toInt := Int64.lt_iff_toInt_lt.mp bounded.2
    exact (eq_ediv_add_one_iff positive).mp (toNat_pageNumber? number_eq)

/-- With one row on a page, the last row of all lies on the page of the greatest number. -/
theorem pageNumber_exact_of_last_row :
    let spec : SearchSpec := { offset := Int64.maxValue, pageSize := 1 }
    let first : UInt64 := 0x7FFFFFFFFFFFFFFF
    let number : UInt64 := 0x8000000000000000
    spec.firstResult? = some first ∧ spec.maxResults? = some 1 ∧ spec.pageNumber? = some number ∧
      (first / 1).toNat + 1 < UInt64.size ∧
      ((number.toNat : ℤ) - 1) * spec.pageSize.toInt ≤ spec.offset.toInt ∧
        spec.offset.toInt < number.toNat * spec.pageSize.toInt := by
  intro spec first number
  have first_eq : spec.firstResult? = some first := by decide
  have size_eq : spec.maxResults? = some 1 := by decide
  have number_eq : spec.pageNumber? = some number := by decide
  have computed := pageNumber_exact spec
  have sound := computed.1 first 1 first_eq size_eq
  exact ⟨first_eq, size_eq, number_eq, sound.2, computed.2.2 number number_eq⟩

end SearchSpec

end ObjectQuery
