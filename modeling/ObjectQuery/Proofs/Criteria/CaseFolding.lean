import Mathlib.Data.List.Forall2
import ObjectQuery.Proofs.Criteria.Run
import ObjectQuery.Proofs.Text.Uppercase

/-!
# Case folding

Where case matters, a leaf compares its fields with its literals as they are. Where it does not, the
fields are upper-cased by the store, in a call of UPPER, and the literals before they are bound. A
name that is shared holds the upper-case literal too, since texts are equal only if they are the
same.
-/

namespace ObjectQuery

/-- A part of a text with nothing or a blank on either side of it. -/
def StandsIn (part text : String) : Prop :=
  ∃ before after, text = before ++ part ++ after ∧
    (before = "" ∨ ∃ words, before = words ++ " ") ∧ (after = "" ∨ ∃ words, after = " " ++ words)

namespace StandsIn

theorem first (part words : String) : StandsIn part (part ++ (" " ++ words)) :=
  ⟨"", " " ++ words, by simp, .inl rfl, .inr ⟨words, rfl⟩⟩

theorem last (words part : String) : StandsIn part (words ++ " " ++ part) :=
  ⟨words ++ " ", "", by simp, .inr ⟨words, rfl⟩, .inl rfl⟩

end StandsIn

def Operand.fieldSides : Operand → List Operand
  | .field subject folded => [.field subject folded]
  | .placeholder _ => []

/-- The sides of a predicate that are fields, from left to right. -/
def Predicate.fieldSides : Predicate → List Operand
  | .binary left _ right => left.fieldSides ++ right.fieldSides
  | .between subject _ _ | .amongListed subject _ | .amongNothing subject | .unary subject _ =>
      subject.fieldSides
  | .never => []

theorem Operand.eq_of_mem_fieldSides {operand side : Operand}
    (side_mem : side ∈ operand.fieldSides) : side = operand := by
  cases operand with
  | field subject folded => exact List.mem_singleton.mp side_mem
  | placeholder name => cases side_mem

theorem Operand.text_field (subject : Field) (folded : Bool) :
    (Operand.field subject folded).text =
      if folded then "UPPER(" ++ (subject.owner.aliasName ++ "." ++ subject.name) ++ ")"
      else subject.owner.aliasName ++ "." ++ subject.name := by
  have opened : "UPPER" ++ "(" = "UPPER(" := by decide
  simp only [text, callText, Field.path, opened]

/-- A predicate begins or ends with each of its sides, and blanks separate them from the rest. -/
theorem Predicate.standsIn_text {predicate : Predicate} {side : Operand}
    (side_mem : side ∈ predicate.fieldSides) : StandsIn side.text predicate.text := by
  cases predicate with
  | binary left operator right =>
      rcases List.mem_append.mp side_mem with in_left | in_right
      · rw [Operand.eq_of_mem_fieldSides in_left]
        simp only [text, String.append_assoc]
        exact StandsIn.first left.text _
      · rw [Operand.eq_of_mem_fieldSides in_right]
        exact StandsIn.last (left.text ++ " " ++ operator.keyword) right.text
  | between subject low high =>
      have keyword : " BETWEEN " = " " ++ "BETWEEN " := by decide
      rw [Operand.eq_of_mem_fieldSides side_mem]
      simp only [text, keyword, String.append_assoc]
      exact StandsIn.first subject.text _
  | amongListed subject list =>
      have keyword : " IN (" = " " ++ "IN (" := by decide
      rw [Operand.eq_of_mem_fieldSides side_mem]
      simp only [text, keyword, String.append_assoc]
      exact StandsIn.first subject.text _
  | amongNothing subject =>
      rw [Operand.eq_of_mem_fieldSides side_mem]
      exact StandsIn.first subject.text "IN "
  | unary subject operator =>
      rw [Operand.eq_of_mem_fieldSides side_mem]
      simp only [text, String.append_assoc]
      exact StandsIn.first subject.text operator.keyword
  | never => cases side_mem

theorem LikePattern.ofText_withWildcards (pattern : LikePattern) (text : String) :
    Uppercase.ofText (pattern.withWildcards text) =
      pattern.withWildcards (Uppercase.ofText text) := by
  have wildcard : Uppercase.ofText "%" = "%" := by decide
  rcases pattern with ⟨_, left, right⟩
  cases left <;> cases right <;> simp only [withWildcards, Uppercase.ofText_append, wildcard]

namespace Value

theorem toUpper_eq_null_or_text (value : Value) :
    value.toUpper = .null ∨ ∃ s, value.toUpper = .text s := by
  cases value with
  | null => exact .inl rfl
  | _ => exact .inr ⟨_, rfl⟩

/-- Upper-casing leaves a value as it is, and a list item by item. -/
def IsUpper : Value → Prop
  | .list items => ∀ item ∈ items, item.toUpper = item
  | value => value.toUpper = value

theorem isUpper_toUpper (value : Value) : value.toUpper.IsUpper := by
  have unchanged := value.toUpper_toUpper
  rcases value.toUpper_eq_null_or_text with upper_eq | ⟨s, upper_eq⟩
  · rw [upper_eq]
    rfl
  · rw [upper_eq] at unchanged ⊢
    exact unchanged

theorem eq_of_equal_toUpper {held value : Value} (same : held.equal value.toUpper = true) :
    held = value.toUpper := by
  rcases value.toUpper_eq_null_or_text with upper_eq | ⟨s, upper_eq⟩
  · rw [upper_eq] at same ⊢
    cases held with
    | null => rfl
    | _ => simp [equal] at same
  · rw [upper_eq] at same ⊢
    cases held with
    | text s' => simpa [equal] using same
    | _ => simp [equal] at same

theorem items_eq_of_equal_toUpper {items values : List Value}
    (same : equalItems items (values.map toUpper) = true) : items = values.map toUpper := by
  induction values generalizing items with
  | nil =>
      cases items with
      | nil => rfl
      | cons item others => simp [equalItems] at same
  | cons value rest ih =>
      cases items with
      | nil => simp [equalItems] at same
      | cons item others =>
          simp only [List.map_cons, equalItems, Bool.and_eq_true] at same
          rw [List.map_cons, eq_of_equal_toUpper same.1, ih same.2]

end Value

namespace FieldTest

/-- Case does not matter to a test that is told so. Of the values that are compared alone, this only
concerns texts. -/
def ignoresCase : FieldTest → Bool
  | .compare _ (.text _) caseSensitive | .compareField _ _ caseSensitive | .among _ caseSensitive
  | .like _ caseSensitive => !caseSensitive
  | .compare _ _ _ | .between _ _ | .null _ | .empty _ => false

theorem isCaseInsensitive_eq_ignoresCase (test : FieldTest) :
    test.isCaseInsensitive = test.ignoresCase := by
  cases test with
  | compare operator value caseSensitive => cases value <;> cases caseSensitive <;> rfl
  | _ => rfl

/-- A literal in upper case. The values of a list are upper-cased one by one, unless the list stands
for its only value. -/
def upper : FieldTest → Value → Value
  | .among (_ :: _ :: _) _, .list values => .list (values.map Value.toUpper)
  | _, literal => literal.toUpper

theorem isUpper_upper (test : FieldTest) (literal : Value) : (test.upper literal).IsUpper := by
  unfold upper
  split
  · simp [Value.IsUpper]
  · exact literal.isUpper_toUpper

theorem eq_of_equal_upper {test : FieldTest} {held literal : Value}
    (same : (held == test.upper literal) = true) : held = test.upper literal := by
  change held.equal (test.upper literal) = true at same
  unfold upper at same ⊢
  split at same
  · cases held with
    | list items =>
        rw [Value.equal] at same
        rw [Value.items_eq_of_equal_toUpper same]
    | _ => simp [Value.equal] at same
  · exact Value.eq_of_equal_toUpper same

end FieldTest

theorem Parameters.Reads.get?_eq_upper {parameters : Parameters} {token : String}
    {test : FieldTest} {literal : Value} (reads : parameters.Reads token (test.upper literal)) :
    parameters.get? token = some (test.upper literal) := by
  rcases reads with ⟨held, found, rfl | same⟩
  · exact found
  · rw [found, FieldTest.eq_of_equal_upper same]

namespace Conditional

/-- What a leaf compares its field with, as it is given. A pattern has its wildcards, and a list of
one value is that value. -/
def literals (leaf : Conditional) : List Value :=
  match leaf.test with
  | .compare _ value _ => [value]
  | .between low high => [low, high]
  | .among [] _ => []
  | .among [value] _ => [value]
  | .among values _ => [.list values]
  | .like pattern _ => [.text (pattern.withWildcards pattern.text)]
  | .compareField _ _ _ | .null _ | .empty _ => []

theorem values_requests (leaf : Conditional) :
    leaf.requests.map Parameters.Request.value =
      leaf.literals.map (if leaf.test.isCaseInsensitive then leaf.test.upper else id) := by
  rcases leaf with ⟨field, test⟩
  cases test with
  | compare operator value caseSensitive =>
      cases caseSensitive <;> cases value <;> rfl
  | compareField operator other caseSensitive => rfl
  | between low high => rfl
  | among values caseSensitive =>
      match values with
      | [] => rfl
      | [value] => cases caseSensitive <;> rfl
      | first :: second :: others => cases caseSensitive <;> rfl
  | like pattern caseSensitive =>
      cases caseSensitive with
      | false => exact congrArg (fun text => [Value.text text]) (pattern.ofText_withWildcards _).symm
      | true => rfl
  | null negated => rfl
  | empty negated => rfl

theorem fieldSides_bind {leaf : Conditional}
    (valued : ∀ caseSensitive, leaf.test ≠ .among [] caseSensitive) (emptyList : EmptyList)
    (parameters : Parameters) :
    (leaf.bind emptyList parameters).1.fieldSides =
      leaf.fields.map fun field => .field field leaf.test.isCaseInsensitive := by
  rcases leaf with ⟨field, test⟩
  cases test with
  | compare operator value caseSensitive => cases operator <;> rfl
  | compareField operator other caseSensitive => rfl
  | between low high => rfl
  | among values caseSensitive =>
      match values with
      | [] => exact absurd rfl (valued caseSensitive)
      | [value] => rfl
      | first :: second :: others => rfl
  | like pattern caseSensitive => rfl
  | null negated => cases negated <;> rfl
  | empty negated => cases negated <;> rfl

/-- The fields in a predicate are written in a call of UPPER exactly if its leaf is
case-insensitive, and else by their bare paths, set off by blanks from what surrounds them. Its
names, which are all that is bound, then stand for the literals in upper case, which stay as they
are when they are upper-cased again, and else for the literals as they are given. -/
theorem bind_folds_both_or_neither (leaf : Conditional) (emptyList : EmptyList)
    (parameters : Parameters) (valued : ∀ caseSensitive, leaf.test ≠ .among [] caseSensitive) :
    let bound := leaf.bind emptyList parameters
    let path (field : Field) := field.owner.aliasName ++ "." ++ field.name
    leaf.test.isCaseInsensitive = leaf.test.ignoresCase ∧
      bound.1.fieldSides =
        leaf.fields.map (fun field => .field field leaf.test.isCaseInsensitive) ∧
      bound.1.fieldSides.map Operand.text =
        leaf.fields.map (fun field =>
          if leaf.test.isCaseInsensitive then "UPPER(" ++ path field ++ ")" else path field) ∧
      (∀ side ∈ bound.1.fieldSides, StandsIn side.text bound.1.text) ∧
      bound.2.names = (parameters.names ++ bound.1.placeholders).eraseDups ∧
      List.Forall₂
        (fun token literal =>
          if leaf.test.isCaseInsensitive then
            bound.2.get? token = some (leaf.test.upper literal) ∧
              (leaf.test.upper literal).IsUpper
          else bound.2.Reads token literal)
        bound.1.placeholders leaf.literals ∧
      ∀ value : Value, value.toUpper.toUpper = value.toUpper := by
  intro bound path
  have sides_eq : bound.1.fieldSides =
      leaf.fields.map (fun field => .field field leaf.test.isCaseInsensitive) :=
    fieldSides_bind valued emptyList parameters
  refine ⟨leaf.test.isCaseInsensitive_eq_ignoresCase, sides_eq, ?_,
    fun side => Predicate.standsIn_text, leaf.names_bind emptyList parameters, ?_,
    Value.toUpper_toUpper⟩
  · rw [sides_eq, List.map_map]
    exact List.map_congr_left fun field _ => Operand.text_field field leaf.test.isCaseInsensitive
  · have reads : List.Forall₂ bound.2.Reads bound.1.placeholders
        (leaf.requests.map Parameters.Request.value) :=
      List.forall₂_map_right_iff.mpr (leaf.reads_bind emptyList parameters)
    rw [leaf.values_requests, List.forall₂_map_right_iff] at reads
    refine reads.imp fun token literal reads => ?_
    split at reads
    · next folded =>
        rw [if_pos folded]
        exact ⟨reads.get?_eq_upper, leaf.test.isUpper_upper literal⟩
    · next bare =>
        rw [if_neg bare]
        exact reads

/-- Of two values only one is a text, and both are bound in upper case. A pattern that says how a
text begins has its wildcard at the end. -/
theorem bind_folds_both_or_neither_of_list :
    let listed : Conditional := ⟨⟨"name", .root⟩, .among [.text "straße", .int 9] false⟩
    let begins : Conditional := ⟨⟨"name", .root⟩, .like ⟨"straße", false, true⟩ false⟩
    (∀ caseSensitive, listed.test ≠ .among [] caseSensitive) ∧
      (listed.bind .nothing {}).1.fieldSides.map Operand.text = ["UPPER(e.name)"] ∧
      (∃ token, (listed.bind .nothing {}).1.placeholders = [token] ∧
        (listed.bind .nothing {}).2.get? token = some (.list [.text "STRASSE", .text "9"])) ∧
      (∀ caseSensitive, begins.test ≠ .among [] caseSensitive) ∧
      (begins.bind .nothing {}).1.fieldSides.map Operand.text = ["UPPER(e.name)"] ∧
      ∃ token, (begins.bind .nothing {}).1.placeholders = [token] ∧
        (begins.bind .nothing {}).2.get? token = some (.text "STRASSE%") := by
  intro listed begins
  have listed_valued : ∀ caseSensitive, listed.test ≠ .among [] caseSensitive := by
    intro caseSensitive same
    cases same
  have begins_valued : ∀ caseSensitive, begins.test ≠ .among [] caseSensitive := by
    intro caseSensitive same
    cases same
  have path_eq : "UPPER(" ++ (rootAlias ++ "." ++ "name") ++ ")" = "UPPER(e.name)" := by decide
  have listed_eq : listed.test.upper (.list [.text "straße", .int 9]) =
      .list [.text "STRASSE", .text "9"] := by
    have text_eq : Uppercase.ofText "straße" = "STRASSE" := by decide
    have number_eq : Uppercase.ofText "9" = "9" := by decide
    exact congrArg₂ (fun first second => Value.list [.text first, .text second]) text_eq number_eq
  have begins_eq : begins.test.upper (.text ("straße" ++ "%")) = .text "STRASSE%" := by
    have text_eq : Uppercase.ofText ("straße" ++ "%") = "STRASSE%" := by decide
    exact congrArg Value.text text_eq
  rcases bind_folds_both_or_neither listed .nothing {} listed_valued with
    ⟨-, -, listed_texts, -, -, listed_held, -⟩
  rcases bind_folds_both_or_neither begins .nothing {} begins_valued with
    ⟨-, -, begins_texts, -, -, begins_held, -⟩
  refine ⟨listed_valued, listed_texts.trans (congrArg ([·]) path_eq), ?_, begins_valued,
    begins_texts.trans (congrArg ([·]) path_eq), ?_⟩
  · rcases exists_eq_singleton_of_forall₂ listed_held with ⟨token, tokens_eq, found, -⟩
    exact ⟨token, tokens_eq, found.trans (congrArg some listed_eq)⟩
  · rcases exists_eq_singleton_of_forall₂ begins_held with ⟨token, tokens_eq, found, -⟩
    exact ⟨token, tokens_eq, found.trans (congrArg some begins_eq)⟩

end Conditional

end ObjectQuery
