import ObjectQuery.Proofs.Parameters.Binding
import ObjectQuery.Proofs.Value.Canonical

/-!
# What names are made of

The name for a field compared with a value falls apart at its last underscore: before it stands the
field, with underscores for its dots, and behind it the digest of the value's canonical text, or
nothing for null. Digits hold no underscore, so however much a field looks like a name itself, two
names are equal only if both of their parts are. Canonical texts tell all values without floats
apart, so that two such values get one name for one field only if their digests collide.
-/

namespace ObjectQuery

namespace Parameters

/-- What a field adds to the names made from it. -/
def stem (field : String) : String :=
  String.ofList (field.toList.map fun c => if c = '.' then '_' else c)

/-- What a key adds to the names made from it. -/
def suffix (key : Value) : String :=
  if key.isNull then "" else toString (digest key.canonical).toNat

theorem nameOf_eq (field : String) (key : Value) :
    nameOf field key = stem field ++ "_" ++ suffix key :=
  rfl

theorem underscore_notMem_toString (n : ℕ) : '_' ∉ (toString n).toList := by
  intro underscore_mem
  rw [show (toString n).toList = Nat.toDigits 10 n from Nat.toList_repr] at underscore_mem
  have digit := Nat.isDigit_of_mem_toDigits (by decide) (by decide) underscore_mem
  exact absurd digit (by decide)

theorem underscore_notMem_suffix (key : Value) : '_' ∉ (suffix key).toList := by
  unfold suffix
  split
  · simp
  · exact underscore_notMem_toString _

/-- Nothing but null adds nothing, and digits are those of one number only. -/
theorem suffix_eq_suffix_iff (key other : Value) :
    suffix key = suffix other ↔
      key.isNull = true ∧ other.isNull = true ∨
        key.isNull = false ∧ other.isNull = false ∧
          digest key.canonical = digest other.canonical := by
  unfold suffix
  cases key.isNull <;> cases other.isNull
  · have number_eq_iff : toString (digest key.canonical).toNat =
        toString (digest other.canonical).toNat ↔
          digest key.canonical = digest other.canonical :=
      toString_nat_injective.eq_iff.trans UInt32.toNat_inj
    simpa using number_eq_iff
  · simp
  · simp
  · simp

theorem eq_nil_of_underscore_cons_eq {gap after back : List Char} (after_free : '_' ∉ after)
    (same : '_' :: after = gap ++ '_' :: back) : gap = [] := by
  cases gap with
  | nil => rfl
  | cons c rest =>
      rw [List.cons_append, List.cons.injEq] at same
      exact absurd (same.2 ▸ by simp) after_free

/-- A text is split at an underscore in one way only if what stands behind it holds no other one. -/
theorem append_underscore_inj {before after front back : List Char} (after_free : '_' ∉ after)
    (back_free : '_' ∉ back) (same : before ++ '_' :: after = front ++ '_' :: back) :
    before = front ∧ after = back := by
  rcases List.append_eq_append_iff.mp same with ⟨gap, front_eq, after_eq⟩ | ⟨gap, before_eq, back_eq⟩
  · obtain rfl := eq_nil_of_underscore_cons_eq after_free after_eq
    exact ⟨by simpa using front_eq.symm, by simpa using after_eq⟩
  · obtain rfl := eq_nil_of_underscore_cons_eq back_free back_eq
    exact ⟨by simpa using before_eq, by simpa using back_eq.symm⟩

/-- Two names are equal exactly if their fields are the same once dots are underscores, and their keys
are both null or neither is and they have the same digest. So a field that looks like another with a
digest behind it has no name of the other, and no name for null is one for anything else. -/
theorem nameOf_eq_nameOf_iff (field other : String) (key otherKey : Value) :
    nameOf field key = nameOf other otherKey ↔
      stem field = stem other ∧
        (key.isNull = true ∧ otherKey.isNull = true ∨
          key.isNull = false ∧ otherKey.isNull = false ∧
            digest key.canonical = digest otherKey.canonical) := by
  rw [nameOf_eq, nameOf_eq, ← suffix_eq_suffix_iff]
  constructor
  · intro same
    have split := congrArg String.toList same
    simp only [String.toList_append, List.append_assoc] at split
    have parts := append_underscore_inj (underscore_notMem_suffix key)
      (underscore_notMem_suffix otherKey) split
    exact ⟨String.toList_inj.mp parts.1, String.toList_inj.mp parts.2⟩
  · rintro ⟨stem_eq, suffix_eq⟩
    rw [stem_eq, suffix_eq]

/-- Different bytes with one digest. -/
def Collide (text other : String) : Prop :=
  text.toUTF8 ≠ other.toUTF8 ∧ digest text = digest other

instance (text other : String) : Decidable (Collide text other) :=
  inferInstanceAs (Decidable (_ ∧ _))

theorem digest_eq_iff (text other : String) :
    digest text = digest other ↔ text = other ∨ Collide text other := by
  constructor
  · intro same_digest
    by_cases same : text = other
    · exact Or.inl same
    · exact Or.inr ⟨fun same_bytes => same (String.toByteArray_inj.mp same_bytes), same_digest⟩
  · rintro (rfl | ⟨-, same_digest⟩)
    · rfl
    · exact same_digest

/-- Values without floats are the same if their canonical texts are. So two of them that differ get one
name for one field exactly if neither is null and their digests collide. -/
theorem canonical_injective_floatFree {value other : Value} (free : value.FloatFree)
    (other_free : other.FloatFree) (field : String) :
    (value.canonical = other.canonical ↔ value = other) ∧
      (nameOf field value = nameOf field other ↔
        value = other ∨
          value.isNull = false ∧ other.isNull = false ∧
            Collide value.canonical other.canonical) := by
  have texts_differ : value ≠ other → value.canonical.toUTF8 ≠ other.canonical.toUTF8 := by
    intro differ same_bytes
    exact differ (free.eq_of_canonical_eq other_free (String.toByteArray_inj.mp same_bytes))
  refine ⟨⟨free.eq_of_canonical_eq other_free, congrArg Value.canonical⟩, ?_⟩
  rw [nameOf_eq, nameOf_eq, String.append_right_inj, suffix_eq_suffix_iff]
  constructor
  · rintro (⟨value_null, other_null⟩ | ⟨value_given, other_given, same_digest⟩)
    · left
      rw [Value.eq_null_of_isNull value_null, Value.eq_null_of_isNull other_null]
    · by_cases same : value = other
      · exact Or.inl same
      · exact Or.inr ⟨value_given, other_given, texts_differ same, same_digest⟩
  · rintro (rfl | ⟨value_given, other_given, -, same_digest⟩)
    · cases value.isNull <;> simp
    · exact Or.inr ⟨value_given, other_given, same_digest⟩

/-- A list of two texts beside a list of one text that is written much like it, and two numbers whose
digests collide. -/
theorem canonical_injective_floatFree_of_lookalikes :
    let listed : Value := .list [.text "a", .text "b"]
    let quoted : Value := .list [.text "a\",\"b"]
    let number : Value := .int 69235
    let colliding : Value := .int 95303
    listed.FloatFree ∧ quoted.FloatFree ∧ listed.canonical ≠ quoted.canonical ∧
      number.FloatFree ∧ colliding.FloatFree ∧ number.canonical ≠ colliding.canonical ∧
        nameOf "age" number = nameOf "age" colliding := by
  intro listed quoted number colliding
  have listed_free : listed.FloatFree := ⟨trivial, trivial, trivial⟩
  have quoted_free : quoted.FloatFree := ⟨trivial, trivial⟩
  have lists_differ : listed ≠ quoted := by simp [listed, quoted]
  have numbers_differ : number ≠ colliding := by simp [number, colliding]
  have lists_apart := canonical_injective_floatFree listed_free quoted_free "age"
  have numbers_apart := @canonical_injective_floatFree number colliding trivial trivial "age"
  have collide : Collide number.canonical colliding.canonical := by decide +kernel
  refine ⟨listed_free, quoted_free, fun same => lists_differ (lists_apart.1.mp same), trivial,
    trivial, fun same => numbers_differ (numbers_apart.1.mp same), ?_⟩
  exact numbers_apart.2.mpr (Or.inr ⟨rfl, rfl, collide⟩)

end Parameters

end ObjectQuery
