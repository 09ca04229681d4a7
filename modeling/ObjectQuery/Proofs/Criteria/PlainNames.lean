import ObjectQuery.Proofs.Criteria.Run
import ObjectQuery.Proofs.Text.Placeholders

/-!
# Plain names

Names of letters, digits, underscores and dots. Where fields and aliases have plain names, the
predicates that criteria become show nothing but such names, and the names of their parameters are
made of name characters alone.
-/

namespace ObjectQuery

def IsPlainName (name : String) : Prop :=
  ∀ c ∈ name.toList, isNameChar c = true ∨ c = '.'

/-- A field shows its own name and the alias of its owner. -/
def Field.IsPlain (field : Field) : Prop :=
  IsPlainName field.name ∧ IsPlainName field.owner.aliasName

def Conditional.IsPlain (leaf : Conditional) : Prop :=
  ∀ field ∈ leaf.fields, field.IsPlain

instance (name : String) : Decidable (IsPlainName name) :=
  List.decidableBAll _ name.toList

instance (field : Field) : Decidable field.IsPlain :=
  inferInstanceAs (Decidable (_ ∧ _))

instance (leaf : Conditional) : Decidable leaf.IsPlain :=
  List.decidableBAll _ leaf.fields

structure Predicate.IsPlain (predicate : Predicate) : Prop where
  fields : ∀ field ∈ predicate.fields, field.IsPlain
  placeholders : ∀ name ∈ predicate.placeholders, ∀ c ∈ name.toList, isNameChar c = true

theorem Field.IsPlain.path {field : Field} (plain : field.IsPlain) : IsPlainName field.path := by
  intro c c_mem
  simp only [Field.path, String.toList_append, List.mem_append] at c_mem
  rcases c_mem with (in_alias | dot) | in_name
  · exact plain.2 c in_alias
  · exact Or.inr (by simpa using dot)
  · exact plain.1 c in_name

theorem isNameChar_of_mem_toString {n : ℕ} {c : Char} (c_mem : c ∈ (toString n).toList) :
    isNameChar c = true := by
  have digit : c.isDigit = true := by
    rw [show (toString n).toList = Nat.toDigits 10 n from Nat.toList_repr] at c_mem
    exact Nat.isDigit_of_mem_toDigits (by decide) (by decide) c_mem
  simp [isNameChar, Char.isAlphanum, digit]

namespace Parameters

theorem isNameChar_of_mem_nameOf {field : String} (plain : IsPlainName field) (key : Value)
    {c : Char} (c_mem : c ∈ (nameOf field key).toList) : isNameChar c = true := by
  simp only [nameOf, String.toList_append, List.mem_append, String.toList_ofList,
    List.mem_map] at c_mem
  rcases c_mem with (⟨original, original_mem, rfl⟩ | underscore) | in_digest
  · split
    · rfl
    · next not_dot => exact (plain original original_mem).resolve_right not_dot
  · rw [show c = '_' by simpa using underscore]
    rfl
  · split at in_digest
    · simp at in_digest
    · exact isNameChar_of_mem_toString in_digest

theorem isNameChar_of_mem_candidate {field : String} (plain : IsPlainName field) (key : Value)
    (n : ℕ) {c : Char} (c_mem : c ∈ (candidate (nameOf field key) n).toList) :
    isNameChar c = true := by
  cases n with
  | zero => exact isNameChar_of_mem_nameOf plain key c_mem
  | succ n =>
      simp only [candidate, String.toList_append, List.mem_append] at c_mem
      rcases c_mem with (in_ideal | underscore) | in_number
      · exact isNameChar_of_mem_nameOf plain key in_ideal
      · rw [show c = '_' by simpa using underscore]
        rfl
      · exact isNameChar_of_mem_toString in_number

theorem isNameChar_of_mem_bindEach {parameters : Parameters} {requests : List Request}
    (plain : ∀ request ∈ requests, IsPlainName request.field) {name : String}
    (name_mem : name ∈ (parameters.bindEach requests).1) :
    ∀ c ∈ name.toList, isNameChar c = true := by
  intro c c_mem
  rcases mem_bindEach name_mem with ⟨request, request_mem, n, rfl⟩
  exact isNameChar_of_mem_candidate (plain request request_mem) request.key n c_mem

end Parameters

namespace Conditional

theorem field_of_mem_requests (leaf : Conditional) :
    ∀ request ∈ leaf.requests, request.field = leaf.field.name := by
  unfold requests
  split <;> simp

theorem field_mem_fields (leaf : Conditional) : leaf.field ∈ leaf.fields := by
  unfold fields
  split <;> exact List.mem_cons_self

theorem bind_isPlain {leaf : Conditional} (plain : leaf.IsPlain) (emptyList : EmptyList)
    (parameters : Parameters) : (leaf.bind emptyList parameters).1.IsPlain where
  fields := fun field field_mem =>
    plain field (leaf.fields_bind_subset emptyList parameters field_mem)
  placeholders := by
    rw [leaf.placeholders_bind]
    intro name name_mem
    apply Parameters.isNameChar_of_mem_bindEach _ name_mem
    intro request request_mem
    rw [leaf.field_of_mem_requests request request_mem]
    exact (plain leaf.field leaf.field_mem_fields).1

end Conditional

end ObjectQuery
