import ObjectQuery.Proofs.Condition.Placeholders
import ObjectQuery.Proofs.Text.Masking

/-!
# Criteria that differ in their literals

Two criteria that ask the same questions about the same fields become conditions that are spelled
alike, whatever values they ask about. A value shows only in the name of its parameter, and in the
kind of its question: whether case is folded depends on whether it is a text, and the form of a list
on whether it has none, one or more values.
-/

namespace ObjectQuery

/-- Two questions that differ in their values at most. -/
inductive FieldTest.Alike : FieldTest → FieldTest → Prop where
  | compare {operator : ComparisonOperator} {value value' : Value} {caseSensitive : Bool}
      (texts : caseSensitive = false → value.isText = value'.isText) :
      Alike (.compare operator value caseSensitive) (.compare operator value' caseSensitive)
  | compareField {operator : ComparisonOperator} {other : Field} {caseSensitive : Bool} :
      Alike (.compareField operator other caseSensitive)
        (.compareField operator other caseSensitive)
  | between {low low' high high' : Value} : Alike (.between low high) (.between low' high')
  | amongNone {caseSensitive : Bool} : Alike (.among [] caseSensitive) (.among [] caseSensitive)
  | amongOne {value value' : Value} {caseSensitive : Bool} :
      Alike (.among [value] caseSensitive) (.among [value'] caseSensitive)
  | amongMany {first second first' second' : Value} {rest rest' : List Value}
      {caseSensitive : Bool} :
      Alike (.among (first :: second :: rest) caseSensitive)
        (.among (first' :: second' :: rest') caseSensitive)
  | like {text text' : String} {leftWildcard rightWildcard caseSensitive : Bool} :
      Alike (.like { text, leftWildcard, rightWildcard } caseSensitive)
        (.like { text := text', leftWildcard, rightWildcard } caseSensitive)
  | null {negated : Bool} : Alike (.null negated) (.null negated)
  | empty {negated : Bool} : Alike (.empty negated) (.empty negated)

/-- Criteria without fragments that differ in the values of their leaves at most. -/
inductive Criteria.Alike : List Criteria → List Criteria → Prop where
  | nil : Alike [] []
  | conditional {field : Field} {test test' : FieldTest} {rest rest' : List Criteria}
      (tests : test.Alike test') (tail : Alike rest rest') :
      Alike (.conditional { field, test } :: rest) (.conditional { field, test := test' } :: rest')
  | not {criteria criteria' : Criteria} {rest rest' : List Criteria}
      (inner : Alike [criteria] [criteria']) (tail : Alike rest rest') :
      Alike (.not criteria :: rest) (.not criteria' :: rest')
  | group {operator : LogicalOperator} {members members' rest rest' : List Criteria}
      (inner : Alike members members') (tail : Alike rest rest') :
      Alike (.group operator members :: rest) (.group operator members' :: rest')

theorem Parameters.isNameChar_of_mem_bind {field : String} (plain : IsPlainName field)
    (parameters : Parameters) (key value : Value) :
    ∀ c ∈ (parameters.bind field key value).1.toList, isNameChar c = true := by
  intro c c_mem
  exact isNameChar_of_mem_candidate plain key _ c_mem

theorem FieldTest.Alike.isCaseInsensitive_eq {test test' : FieldTest} (alike : test.Alike test') :
    test.isCaseInsensitive = test'.isCaseInsensitive := by
  cases alike with
  | @compare operator value value' caseSensitive texts =>
      cases caseSensitive with
      | false => simp [isCaseInsensitive, texts rfl]
      | true => rfl
  | _ => rfl

/-- A field that is asked about alike questions is spelled the same, with placeholders at the same
places. -/
theorem Conditional.twins_bind {field : Field} {test test' : FieldTest} (alike : test.Alike test')
    (plain : IsPlainName field.name) (emptyList : EmptyList) (before before' : Parameters) :
    Twins (Conditional.bind { field, test } emptyList before).1.text
      (Conditional.bind { field, test := test' } emptyList before').1.text := by
  have token {key key' value value' : Value} (parameters parameters' : Parameters) :
      Twins (placeholderText (parameters.bind field.name key value).1)
        (placeholderText (parameters'.bind field.name key' value').1) :=
    .placeholder (Parameters.isNameChar_of_mem_bind plain _ _ _)
      (Parameters.isNameChar_of_mem_bind plain _ _ _)
  have folded_eq := alike.isCaseInsensitive_eq
  cases alike with
  | @compare operator value value' caseSensitive texts =>
      have subject_eq :
          Conditional.subject { field, test := .compare operator value caseSensitive } =
            Conditional.subject { field, test := .compare operator value' caseSensitive } := by
        simp only [subject, folded_eq]
      cases operator with
      | memberOf =>
          simp only [bind, Predicate.text, Operand.text, subject_eq, String.append_assoc]
          exact (token before before').append (.refl _)
      | _ =>
          simp only [bind, Predicate.text, Operand.text, subject_eq]
          exact (Twins.refl _).append (token before before')
  | compareField => exact .refl _
  | between =>
      simp only [bind, Predicate.text]
      exact ((Twins.refl _).append (token _ _)).append (.refl _) |>.append (token _ _)
  | amongNone => cases emptyList <;> exact .refl _
  | amongOne => exact (Twins.refl _).append (token _ _)
  | amongMany => exact ((Twins.refl _).append (token _ _)).append (.refl _)
  | like => exact (Twins.refl _).append (token _ _)
  | null => exact .refl _
  | empty => exact .refl _

theorem Twins.groupText (operator : LogicalOperator) {texts texts' : List String}
    (twins : List.Forall₂ Twins texts texts') :
    Twins (groupText operator texts) (ObjectQuery.groupText operator texts') := by
  match twins with
  | .nil => exact .refl _
  | .cons first .nil => exact first
  | .cons first (.cons second rest) =>
      exact ((Twins.refl _).append (.intercalate _ (.cons first (.cons second rest)))).append
        (.refl _)

namespace Criteria

variable {criteria criteria' : List Criteria}

theorem Alike.no_fragments (alike : Alike criteria criteria') :
    allFragments criteria = [] ∧ allFragments criteria' = [] := by
  induction alike with
  | nil => exact ⟨rfl, rfl⟩
  | conditional tests tail ih => exact ih
  | not inner tail ih_inner ih_tail =>
      simp only [allFragments, fragments, List.append_eq_nil_iff, and_true] at ih_inner ⊢
      exact ⟨⟨ih_inner.1, ih_tail.1⟩, ih_inner.2, ih_tail.2⟩
  | group inner tail ih_inner ih_tail =>
      simp only [allFragments, fragments, List.append_eq_nil_iff]
      exact ⟨⟨ih_inner.1, ih_tail.1⟩, ih_inner.2, ih_tail.2⟩

/-- Two runs over alike criteria go the same way, from whatever parameters they start. -/
theorem Binds.twins {emptyList : EmptyList} {before before' after after' : Parameters}
    {conditions conditions' : List Condition} (alike : Alike criteria criteria')
    (run : Binds emptyList before criteria conditions after)
    (run' : Binds emptyList before' criteria' conditions' after')
    (plain : ∀ leaf ∈ allLeaves criteria, IsPlainName leaf.field.name) :
    List.Forall₂ Twins (conditions.map Condition.text) (conditions'.map Condition.text) := by
  induction alike generalizing before before' after after' conditions conditions' with
  | nil =>
      cases run
      cases run'
      exact .nil
  | conditional tests tail ih =>
      simp only [allLeaves, leaves, List.cons_append, List.nil_append,
        List.forall_mem_cons] at plain
      cases run with
      | conditional run_tail =>
          cases run' with
          | conditional run_tail' =>
              exact .cons (Conditional.twins_bind tests plain.1 _ _ _)
                (ih run_tail run_tail' plain.2)
  | not inner tail ih_inner ih_tail =>
      simp only [allLeaves, leaves, List.forall_mem_append] at plain
      cases run with
      | not run_inner run_tail =>
          cases run' with
          | not run_inner' run_tail' =>
              have inner_twins := ih_inner run_inner run_inner' (by simpa [allLeaves] using plain.1)
              rcases inner_twins with _ | ⟨negated, -⟩
              have text_twins := ((Twins.refl "NOT (").append negated).append (.refl ")")
              exact .cons text_twins (ih_tail run_tail run_tail' plain.2)
  | @group operator members members' rest rest' inner tail ih_inner ih_tail =>
      simp only [allLeaves, leaves, List.forall_mem_append] at plain
      cases run with
      | group run_inner run_tail =>
          cases run' with
          | group run_inner' run_tail' =>
              have members_twins := ih_inner run_inner run_inner' plain.1
              simp only [← Condition.memberTexts_eq_map] at members_twins
              exact .cons (.groupText operator members_twins) (ih_tail run_tail run_tail' plain.2)

end Criteria

theorem Twins.whereText {conditions conditions' : List Condition}
    (twins : List.Forall₂ Twins (conditions.map Condition.text) (conditions'.map Condition.text)) :
    Twins (Condition.whereText conditions) (Condition.whereText conditions') := by
  cases conditions with
  | nil =>
      cases conditions' with
      | nil => exact .refl _
      | cons first' rest' => cases twins
  | cons first rest =>
      cases conditions' with
      | nil => cases twins
      | cons first' rest' =>
          simp only [Condition.whereText, List.isEmpty_cons, Bool.false_eq_true, if_false,
            Condition.memberTexts_eq_map]
          exact (Twins.refl _).append (.intercalate _ twins)

end ObjectQuery
