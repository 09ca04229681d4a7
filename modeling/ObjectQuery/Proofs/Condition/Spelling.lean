import ObjectQuery.Proofs.Condition.Reading
import ObjectQuery.Proofs.Criteria.PlainNames

/-!
# Spelling of conditions

How the texts of conditions are divided into words and items. A text that stands between blanks and
parentheses has the same words whatever stands on its other side, so the words of a text are put
together like the text itself.
-/

namespace ObjectQuery.Reading

/-- No word goes on into these characters. -/
def EndsWord (rest : List Char) : Prop :=
  (scan rest).1 = []

/-- A text of one word. -/
def IsWord (text : String) : Prop :=
  text.toList ≠ [] ∧ ∀ c ∈ text.toList, c ≠ ' ' ∧ c ≠ '(' ∧ c ≠ ')'

instance (text : String) : Decidable (IsWord text) :=
  @instDecidableAnd _ _ _ (List.decidableBAll _ text.toList)

/-- A text has these words, whatever stands behind it. -/
def Spells (text : String) (spelled : List Word) : Prop :=
  ∀ rest, EndsWord rest → words (text.toList ++ rest) = spelled ++ words rest

/-- A text is made of these items, whatever stands behind it. -/
def ReadsAs (text : String) (read : List Item) : Prop :=
  ∃ spelled, Spells text spelled ∧
    ∀ rest, items (spelled ++ rest) = (items rest).map fun others => read ++ others

section Division

variable {rest : List Char}

@[simp]
theorem endsWord_nil : EndsWord [] :=
  rfl

@[simp]
theorem endsWord_blank : EndsWord (' ' :: rest) := by
  simp [EndsWord, scan]

@[simp]
theorem endsWord_opening : EndsWord ('(' :: rest) := by
  simp [EndsWord, scan]

@[simp]
theorem endsWord_closing : EndsWord (')' :: rest) := by
  simp [EndsWord, scan]

@[simp]
theorem divide_blank : divide (' ' :: rest) = divide rest := by
  simp [divide, scan, endWord]

@[simp]
theorem divide_opening : divide ('(' :: rest) = .opening :: divide rest := by
  simp [divide, scan, endWord]

@[simp]
theorem divide_closing : divide (')' :: rest) = .closing :: divide rest := by
  simp [divide, scan, endWord]

theorem scan_append {text : List Char} (inside : ∀ c ∈ text, c ≠ ' ' ∧ c ≠ '(' ∧ c ≠ ')') :
    scan (text ++ rest) = (text ++ (scan rest).1, (scan rest).2) := by
  induction text with
  | nil => rfl
  | cons c text ih =>
      rw [List.forall_mem_cons] at inside
      simp [scan, ih inside.2, inside.1]

theorem divide_append {text : String} (word : IsWord text) (ends : EndsWord rest) :
    divide (text.toList ++ rest) = .ofText text :: divide rest := by
  have ends_eq : (scan rest).1 = [] := ends
  have nonempty : text.toList.isEmpty = false := by simpa using word.1
  simp [divide, scan_append word.2, ends_eq, endWord, nonempty]

end Division

theorem foldCalls_cons {word : Word} (not_upper : word ≠ .upper) (rest : List Word) :
    foldCalls (word :: rest) = word :: foldCalls rest := by
  cases word with
  | upper => exact absurd rfl not_upper
  | _ => rfl

namespace Spells

variable {text first second : String} {spelled more : List Word}

theorem word (is_word : IsWord text) (not_upper : Word.ofText text ≠ .upper) :
    Spells text [.ofText text] := by
  intro rest ends
  rw [words, divide_append is_word ends, foldCalls_cons not_upper]
  rfl

theorem blank (left : Spells first spelled) (right : Spells second more) :
    Spells (first ++ " " ++ second) (spelled ++ more) := by
  intro rest ends
  have after_blank : words (' ' :: (second.toList ++ rest)) = more ++ words rest := by
    rw [words, divide_blank]
    exact right rest ends
  calc
    words ((first ++ " " ++ second).toList ++ rest)
      = words (first.toList ++ ' ' :: (second.toList ++ rest)) := by
        simp [String.toList_append]
    _ = spelled ++ more ++ words rest := by
        rw [left _ endsWord_blank, after_blank, List.append_assoc]

theorem enclosed (spells : Spells text spelled) :
    Spells ("(" ++ text ++ ")") (.opening :: spelled ++ [.closing]) := by
  intro rest _
  have closing : words (')' :: rest) = .closing :: words rest := by
    rw [words, divide_closing]
    rfl
  calc
    words (("(" ++ text ++ ")").toList ++ rest)
      = words ('(' :: (text.toList ++ ')' :: rest)) := by
        simp [String.toList_append]
    _ = .opening :: words (text.toList ++ ')' :: rest) := by
        rw [words, divide_opening]
        rfl
    _ = .opening :: spelled ++ [.closing] ++ words rest := by
        rw [spells _ endsWord_closing, closing]
        simp

theorem call (is_word : IsWord text) (operand : Word.ofText text = .operand text) :
    Spells (callText "UPPER" text) [.operand (callText "UPPER" text)] := by
  intro rest _
  have inside : divide (text.toList ++ ')' :: rest) = .operand text :: .closing :: divide rest := by
    rw [divide_append is_word endsWord_closing, operand, divide_closing]
  calc
    words ((callText "UPPER" text).toList ++ rest)
      = words ("UPPER".toList ++ '(' :: (text.toList ++ ')' :: rest)) := by
        simp [callText, String.toList_append]
    _ = foldCalls (.upper :: .opening :: .operand text :: .closing :: divide rest) := by
        rw [words, divide_append (by decide) endsWord_opening, divide_opening, inside]
        rfl
    _ = [.operand (callText "UPPER" text)] ++ words rest := rfl

theorem divide {keyword : String} {between : List Word} (left : Spells first spelled)
    (middle : Spells keyword between) (right : Spells second more) :
    Spells (first ++ (" " ++ keyword ++ " ") ++ second) (spelled ++ between ++ more) := by
  have text_eq : first ++ (" " ++ keyword ++ " ") ++ second =
      first ++ " " ++ keyword ++ " " ++ second := by
    simp only [String.append_assoc]
  rw [text_eq]
  exact (left.blank middle).blank right

end Spells

namespace ReadsAs

variable {text first second : String} {read more : List Item}

theorem blank (left : ReadsAs first read) (right : ReadsAs second more) :
    ReadsAs (first ++ " " ++ second) (read ++ more) := by
  rcases left with ⟨spelled, left_spells, left_items⟩
  rcases right with ⟨others, right_spells, right_items⟩
  refine ⟨_, left_spells.blank right_spells, ?_⟩
  intro rest
  rw [List.append_assoc, left_items, right_items, Option.map_map]
  congr 1
  funext behind
  exact (List.append_assoc read more behind).symm

theorem enclosed (inner : ReadsAs text read) :
    ReadsAs ("(" ++ text ++ ")") (.opening :: read ++ [.closing]) := by
  rcases inner with ⟨spelled, spells, inner_items⟩
  refine ⟨_, spells.enclosed, ?_⟩
  intro rest
  calc
    items (.opening :: spelled ++ [.closing] ++ rest)
      = (items (spelled ++ .closing :: rest)).map (.opening :: ·) := by
        rw [List.append_assoc]
        rfl
    _ = (items rest).map fun others => .opening :: read ++ [.closing] ++ others := by
        rw [inner_items, items, Option.map_map, Option.map_map]
        congr 1
        funext behind
        simp

theorem conjunction (operator : LogicalOperator) : ReadsAs operator.keyword [operator.item] := by
  cases operator with
  | and => exact ⟨[.and], .word (by decide) (by decide), fun _ => rfl⟩
  | or => exact ⟨[.or], .word (by decide) (by decide), fun _ => rfl⟩

theorem not (inner : ReadsAs text read) :
    ReadsAs ("NOT (" ++ text ++ ")") (.not :: .opening :: read ++ [.closing]) := by
  have keyword : ReadsAs "NOT" [.not] := ⟨[.not], .word (by decide) (by decide), fun _ => rfl⟩
  have text_eq : "NOT (" ++ text ++ ")" = "NOT" ++ " " ++ ("(" ++ text ++ ")") := by
    rw [show "NOT (" = "NOT" ++ " " ++ "(" by decide]
    simp only [String.append_assoc]
  rw [text_eq]
  exact keyword.blank inner.enclosed

theorem items_words (whole : ReadsAs text read) : items (words text.toList) = some read := by
  rcases whole with ⟨spelled, spells, read_items⟩
  have words_eq : words text.toList = spelled := by
    have none_behind := spells [] endsWord_nil
    simpa [words, divide, scan, endWord, foldCalls] using none_behind
  have items_eq := read_items []
  rw [words_eq]
  simpa [items] using items_eq

end ReadsAs

theorem ofText_eq_operand {text : String} (marked : '.' ∈ text.toList ∨ ':' ∈ text.toList) :
    Word.ofText text = .operand text := by
  have unmarked : ∀ entry ∈ Word.keywords, '.' ∉ entry.1.toList ∧ ':' ∉ entry.1.toList := by
    decide
  have unlisted : Word.keywords.lookup text = none := by
    rw [List.lookup_eq_none_iff]
    intro entry entry_mem
    rw [bne_iff_ne]
    rintro rfl
    rcases marked with dot | colon
    · exact (unmarked entry entry_mem).1 dot
    · exact (unmarked entry entry_mem).2 colon
  rw [Word.ofText, unlisted]
  rfl

theorem isWord_of_chars {text : String} (nonempty : text.toList ≠ [])
    (chars : ∀ c ∈ text.toList, isNameChar c = true ∨ c = '.' ∨ c = ':') : IsWord text := by
  refine ⟨nonempty, ?_⟩
  intro c c_mem
  rcases chars c c_mem with name_char | rfl | rfl
  · refine ⟨?_, ?_, ?_⟩ <;>
      · rintro rfl
        exact absurd name_char (by decide)
  · decide
  · decide

end ObjectQuery.Reading

namespace ObjectQuery

open Reading

theorem Field.dot_mem_path (field : Field) : '.' ∈ field.path.toList := by
  simp [path]

theorem Field.IsPlain.isWord {field : Field} (plain : field.IsPlain) : IsWord field.path := by
  apply isWord_of_chars (List.ne_nil_of_mem field.dot_mem_path)
  intro c c_mem
  rcases plain.path c c_mem with name_char | dot
  · exact Or.inl name_char
  · exact Or.inr (Or.inl dot)

theorem spells_placeholderText {name : String}
    (name_chars : ∀ c ∈ name.toList, isNameChar c = true) :
    Spells (placeholderText name) [.operand (placeholderText name)] := by
  have colon : ':' ∈ (placeholderText name).toList := by simp [placeholderText]
  have is_word : IsWord (placeholderText name) := by
    apply isWord_of_chars (List.ne_nil_of_mem colon)
    intro c c_mem
    simp only [placeholderText, String.toList_append, List.mem_append] at c_mem
    rcases c_mem with marker | in_name
    · exact Or.inr (Or.inr (by simpa using marker))
    · exact Or.inl (name_chars c in_name)
  have operand := ofText_eq_operand (Or.inr colon)
  rw [← operand]
  exact .word is_word (by simp [operand])

theorem Operand.spells (operand : Operand) (plain : ∀ field ∈ operand.fields, field.IsPlain)
    (name_chars : ∀ name ∈ operand.placeholders, ∀ c ∈ name.toList, isNameChar c = true) :
    Spells operand.text [.operand operand.text] := by
  cases operand with
  | field subject folded =>
      have is_word := (plain subject List.mem_cons_self).isWord
      have path_operand := ofText_eq_operand (Or.inl subject.dot_mem_path)
      cases folded with
      | false =>
          have spells := Spells.word is_word (by simp [path_operand])
          rw [path_operand] at spells
          exact spells
      | true => exact .call is_word path_operand
  | placeholder name => exact spells_placeholderText (name_chars name List.mem_cons_self)

namespace Predicate

variable {subject left right : String}

theorem readsAs_relation {symbol : String} (left_spells : Spells left [.operand left])
    (symbol_spells : Spells symbol [.relation symbol])
    (right_spells : Spells right [.operand right]) :
    ReadsAs (left ++ " " ++ symbol ++ " " ++ right)
      [.atom (left ++ " " ++ symbol ++ " " ++ right)] := by
  refine ⟨_, (left_spells.blank symbol_spells).blank right_spells, ?_⟩
  intro rest
  rfl

theorem readsAs_constant (value : Bool) :
    let text := if value then alwaysTrue else alwaysFalse
    ReadsAs text [.atom text] := by
  have one : Spells "1" [.operand "1"] := .word (by decide) (by decide)
  have zero : Spells "0" [.operand "0"] := .word (by decide) (by decide)
  have equal : Spells "=" [.relation "="] := .word (by decide) (by decide)
  cases value with
  | false =>
      rw [show alwaysFalse = "1" ++ " " ++ "=" ++ " " ++ "0" by decide]
      exact readsAs_relation one equal zero
  | true =>
      rw [show alwaysTrue = "1" ++ " " ++ "=" ++ " " ++ "1" by decide]
      exact readsAs_relation one equal one

theorem readsAs_member (left_spells : Spells left [.operand left])
    (right_spells : Spells right [.operand right]) :
    ReadsAs (left ++ " MEMBER OF " ++ right) [.atom (left ++ " MEMBER OF " ++ right)] := by
  have member : Spells "MEMBER" [.member] := .word (by decide) (by decide)
  have of : Spells "OF" [.of] := .word (by decide) (by decide)
  have divider : " MEMBER OF " = " " ++ ("MEMBER" ++ " " ++ "OF") ++ " " := by decide
  refine ⟨[.operand left, .member, .of, .operand right], ?_, ?_⟩
  · rw [divider]
    exact left_spells.divide (member.blank of) right_spells
  · intro rest
    rfl

theorem readsAs_between {low high : String} (subject_spells : Spells subject [.operand subject])
    (low_spells : Spells low [.operand low]) (high_spells : Spells high [.operand high]) :
    ReadsAs (subject ++ " BETWEEN " ++ low ++ " AND " ++ high)
      [.atom (subject ++ " BETWEEN " ++ low ++ " AND " ++ high)] := by
  have between : Spells "BETWEEN" [.between] := .word (by decide) (by decide)
  have and : Spells "AND" [.and] := .word (by decide) (by decide)
  have first : " BETWEEN " = " " ++ "BETWEEN" ++ " " := by decide
  have second : " AND " = " " ++ "AND" ++ " " := by decide
  refine ⟨[.operand subject, .between, .operand low, .and, .operand high], ?_, ?_⟩
  · rw [first, second]
    exact (subject_spells.divide between low_spells).divide and high_spells
  · intro rest
    rfl

theorem readsAs_among {list : String} (subject_spells : Spells subject [.operand subject])
    (list_spells : Spells list [.operand list]) :
    ReadsAs (subject ++ " IN (" ++ list ++ ")") [.atom (subject ++ " IN (" ++ list ++ ")")] := by
  have among : Spells "IN" [.among] := .word (by decide) (by decide)
  have opened : " IN (" = " " ++ "IN" ++ " " ++ "(" := by decide
  have text_eq : subject ++ " IN (" ++ list ++ ")" =
      subject ++ (" " ++ "IN" ++ " ") ++ ("(" ++ list ++ ")") := by
    rw [opened]
    simp only [String.append_assoc]
  refine ⟨[.operand subject, .among, .opening, .operand list, .closing], ?_, ?_⟩
  · rw [text_eq]
    exact subject_spells.divide among list_spells.enclosed
  · intro rest
    rfl

theorem readsAs_test {keyword parts behind : String} {spelled : List Word}
    (subject_spells : Spells subject [.operand subject]) (keyword_spells : Spells parts spelled)
    (keyword_eq : keyword = parts) (behind_eq : behind = " " ++ keyword)
    (put_together : ∀ rest, items (.operand subject :: (spelled ++ rest)) =
      (items rest).map fun others => .atom (subject ++ behind) :: others) :
    ReadsAs (subject ++ " " ++ keyword) [.atom (subject ++ " " ++ keyword)] := by
  subst keyword_eq behind_eq
  refine ⟨_, subject_spells.blank keyword_spells, ?_⟩
  intro rest
  rw [String.append_assoc]
  exact put_together rest

theorem readsAs_unary {operator : ConditionalOperator}
    (test : operator ∈ [.isNull, .isNotNull, .isEmpty, .isNotEmpty])
    (subject_spells : Spells subject [.operand subject]) :
    ReadsAs (subject ++ " " ++ operator.keyword) [.atom (subject ++ " " ++ operator.keyword)] := by
  have is : Spells "IS" [.is] := .word (by decide) (by decide)
  have not : Spells "NOT" [.not] := .word (by decide) (by decide)
  have null : Spells "NULL" [.null] := .word (by decide) (by decide)
  have empty : Spells "EMPTY" [.empty] := .word (by decide) (by decide)
  simp only [List.mem_cons, List.not_mem_nil, or_false] at test
  rcases test with rfl | rfl | rfl | rfl
  · have behind_eq : " IS NULL" = " " ++ "IS NULL" := by decide
    exact readsAs_test subject_spells (is.blank null) (by decide) behind_eq fun _ => rfl
  · have behind_eq : " IS NOT NULL" = " " ++ "IS NOT NULL" := by decide
    exact readsAs_test subject_spells ((is.blank not).blank null) (by decide) behind_eq
      fun _ => rfl
  · have behind_eq : " IS EMPTY" = " " ++ "IS EMPTY" := by decide
    exact readsAs_test subject_spells (is.blank empty) (by decide) behind_eq fun _ => rfl
  · have behind_eq : " IS NOT EMPTY" = " " ++ "IS NOT EMPTY" := by decide
    exact readsAs_test subject_spells ((is.blank not).blank empty) (by decide) behind_eq
      fun _ => rfl

theorem readsAs_comparison (operator : ComparisonOperator)
    (left_spells : Spells left [.operand left]) (right_spells : Spells right [.operand right]) :
    ReadsAs (left ++ " " ++ operator.keyword ++ " " ++ right)
      [.atom (left ++ " " ++ operator.keyword ++ " " ++ right)] := by
  cases operator with
  | memberOf =>
      have divider : " MEMBER OF " = " " ++ "MEMBER OF" ++ " " := by decide
      have text_eq : left ++ " " ++ "MEMBER OF" ++ " " ++ right =
          left ++ " MEMBER OF " ++ right := by
        rw [divider]
        simp only [String.append_assoc]
      simp only [ComparisonOperator.keyword, text_eq]
      exact readsAs_member left_spells right_spells
  | _ => exact readsAs_relation left_spells (.word (by decide) (by decide)) right_spells

/-- Predicates that have a reading. A list that is left out has none. -/
def IsLegible : Predicate → Prop
  | .binary _ operator _ => operator = .like ∨ ∃ comparison, operator = .comparison comparison
  | .unary _ operator => operator ∈ [.isNull, .isNotNull, .isEmpty, .isNotEmpty]
  | .between _ _ _ | .amongListed _ _ | .never => True
  | .amongNothing _ => False

/-- A predicate is one atom, and its text is that of the atom. -/
theorem readsAs {predicate : Predicate} (plain : predicate.IsPlain)
    (legible : predicate.IsLegible) : ReadsAs predicate.text [.atom predicate.text] := by
  rcases plain with ⟨fields_plain, name_chars⟩
  cases predicate with
  | binary left operator right =>
      simp only [fields, placeholders, List.forall_mem_append] at fields_plain name_chars
      have left_spells := left.spells fields_plain.1 name_chars.1
      have right_spells := right.spells fields_plain.2 name_chars.2
      rcases legible with rfl | ⟨comparison, rfl⟩
      · exact readsAs_relation left_spells (.word (by decide) (by decide)) right_spells
      · exact readsAs_comparison comparison left_spells right_spells
  | between subject low high =>
      simp only [fields, placeholders, List.forall_mem_append, List.forall_mem_cons]
        at fields_plain name_chars
      exact readsAs_between (subject.spells fields_plain name_chars.1)
        (spells_placeholderText name_chars.2.1) (spells_placeholderText name_chars.2.2.1)
  | amongListed subject list =>
      simp only [fields, placeholders, List.forall_mem_append, List.forall_mem_cons]
        at fields_plain name_chars
      exact readsAs_among (subject.spells fields_plain name_chars.1)
        (spells_placeholderText name_chars.2.1)
  | amongNothing subject => exact legible.elim
  | unary subject operator => exact readsAs_unary legible (subject.spells fields_plain name_chars)
  | never => exact readsAs_constant false

end Predicate

theorem Conditional.bind_isLegible (leaf : Conditional) (parameters : Parameters) :
    (leaf.bind .alwaysFalse parameters).1.IsLegible := by
  rcases leaf with ⟨field, test⟩
  cases test with
  | compare operator value caseSensitive => cases operator <;> exact Or.inr ⟨_, rfl⟩
  | compareField operator other caseSensitive => exact Or.inr ⟨operator, rfl⟩
  | between low high => trivial
  | among values caseSensitive =>
      match values with
      | [] => trivial
      | [value] => exact Or.inr ⟨.eq, rfl⟩
      | first :: second :: others => trivial
  | like pattern caseSensitive => exact Or.inl rfl
  | null negated => cases negated <;> simp [bind, Predicate.IsLegible]
  | empty negated => cases negated <;> simp [bind, Predicate.IsLegible]

end ObjectQuery
