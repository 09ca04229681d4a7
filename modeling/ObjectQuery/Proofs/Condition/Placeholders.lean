import ObjectQuery.Proofs.Criteria.PlainNames

/-!
# Placeholders of conditions

What criteria become shows the names that their values were bound under, in the order in which they
were bound. So the names that a run adds to the parameters are those that its conditions show for
the first time.
-/

namespace ObjectQuery

theorem IsPlainName.silent {name : String} (plain : IsPlainName name) : Silent name := by
  intro colon_mem
  rcases plain ':' colon_mem with name_char | dot
  · exact absurd name_char (by decide)
  · exact absurd dot (by decide)

theorem Field.IsPlain.silent {field : Field} (plain : field.IsPlain) : Silent field.path :=
  plain.path.silent

theorem silent_callText {function argument : String} (function_silent : Silent function)
    (argument_silent : Silent argument) : Silent (callText function argument) := by
  simp only [callText, silent_append]
  exact ⟨⟨⟨function_silent, by decide⟩, argument_silent⟩, by decide⟩

theorem Operand.shows (operand : Operand) (plain : ∀ field ∈ operand.fields, field.IsPlain)
    (name_chars : ∀ name ∈ operand.placeholders, ∀ c ∈ name.toList, isNameChar c = true) :
    Shows operand.text operand.placeholders := by
  cases operand with
  | field subject folded =>
      have path_silent : Silent subject.path := (plain subject List.mem_cons_self).silent
      cases folded with
      | false => exact path_silent.shows
      | true => exact (silent_callText (by decide) path_silent).shows
  | placeholder name => exact .placeholder (name_chars name List.mem_cons_self)

theorem ConditionalOperator.divides (operator : ConditionalOperator) :
    Divides (" " ++ operator.keyword ++ " ") := by
  cases operator with
  | comparison operator => cases operator <;> decide
  | _ => decide

theorem Predicate.shows {predicate : Predicate} (plain : predicate.IsPlain) :
    Shows predicate.text predicate.placeholders := by
  rcases plain with ⟨fields_plain, name_chars⟩
  cases predicate with
  | binary left operator right =>
      simp only [fields, placeholders, List.forall_mem_append] at fields_plain name_chars
      have left_shows := left.shows fields_plain.1 name_chars.1
      have right_shows := right.shows fields_plain.2 name_chars.2
      have text_eq : (binary left operator right).text =
          left.text ++ (" " ++ operator.keyword ++ " ") ++ right.text := by
        simp only [text, String.append_assoc]
      rw [text_eq]
      exact left_shows.divide operator.divides right_shows
  | between subject low high =>
      simp only [fields, placeholders, List.forall_mem_append, List.forall_mem_cons]
        at fields_plain name_chars
      have subject_shows := subject.shows fields_plain name_chars.1
      have low_shows := Shows.placeholder name_chars.2.1
      have high_shows := Shows.placeholder name_chars.2.2.1
      simpa [text, placeholders] using
        (subject_shows.divide (by decide) low_shows).divide (by decide) high_shows
  | amongListed subject list =>
      simp only [fields, placeholders, List.forall_mem_append, List.forall_mem_cons]
        at fields_plain name_chars
      have subject_shows := subject.shows fields_plain name_chars.1
      exact (subject_shows.divide (by decide) (.placeholder name_chars.2.1)).close (by decide)
  | amongNothing subject => exact (subject.shows fields_plain name_chars).close (by decide)
  | unary subject operator =>
      have subject_shows := subject.shows fields_plain name_chars
      simp only [text, placeholders, String.append_assoc]
      apply subject_shows.close
      cases operator with
      | comparison operator => cases operator <;> decide
      | _ => decide
  | never => exact Silent.shows (by decide)

namespace Condition

theorem shows_group {operator : LogicalOperator} {members : List Condition}
    (shows : ∀ member ∈ members, Shows member.text member.placeholders) :
    Shows (group operator members).text (group operator members).placeholders := by
  rw [placeholders_group, text, memberTexts_eq_map]
  match members with
  | [] => cases operator <;> exact Silent.shows (by decide)
  | [member] => simpa [groupText] using shows
  | first :: second :: others =>
      have divides : Divides (" " ++ operator.keyword ++ " ") := by cases operator <;> decide
      have inner := Shows.intercalate divides shows
      have opened := Shows.prepend (show Silent "(" by decide) inner
      exact opened.close (by decide)

/-- The conditions of a statement show their placeholders behind those of what they narrow down. -/
theorem shows_append_whereText {statement : String} {names : List String}
    {conditions : List Condition} (opening : Shows statement names)
    (shows : ∀ condition ∈ conditions, Shows condition.text condition.placeholders) :
    Shows (statement ++ whereText conditions) (names ++ conditions.flatMap placeholders) := by
  cases conditions with
  | nil => simpa [whereText] using opening
  | cons first rest =>
      have divided := Shows.intercalate (show Divides " AND " by decide) shows
      rw [← memberTexts_eq_map] at divided
      simpa [whereText, String.append_assoc] using
        opening.divide (show Divides " WHERE " by decide) divided

end Condition

namespace Criteria

variable {emptyList : EmptyList} {before after : Parameters} {criteria : List Criteria}
  {conditions : List Condition}

/-- Names are bound in the order in which the conditions show them. -/
theorem Binds.names_eq (run : Binds emptyList before criteria conditions after)
    (no_fragments : allFragments criteria = []) :
    after.names = (before.names ++ conditions.flatMap Condition.placeholders).eraseDups := by
  have bound := run.eq_bindEach no_fragments
  have after_eq := congrArg Prod.snd bound
  have shown_eq := congrArg Prod.fst bound
  simp only at after_eq shown_eq
  rw [after_eq, shown_eq, Parameters.names_bindEach]

theorem Binds.shows (run : Binds emptyList before criteria conditions after)
    (no_fragments : allFragments criteria = [])
    (plain : ∀ leaf ∈ allLeaves criteria, leaf.IsPlain) :
    ∀ condition ∈ conditions, Shows condition.text condition.placeholders := by
  induction run with
  | nil => simp
  | @conditional before after leaf rest conditions tail ih =>
      simp only [allLeaves, leaves, List.cons_append, List.nil_append,
        List.forall_mem_cons] at plain
      rw [List.forall_mem_cons]
      refine ⟨?_, ih no_fragments plain.2⟩
      simpa [Condition.placeholders, Condition.predicates, Condition.text] using
        Predicate.shows (Conditional.bind_isPlain plain.1 emptyList before)
  | @not before between after criteria condition rest conditions inner tail ih_inner ih_tail =>
      simp only [allFragments, fragments, List.append_eq_nil_iff] at no_fragments
      simp only [allLeaves, leaves, List.forall_mem_append] at plain
      have inner_shows := ih_inner (by simpa [allFragments] using no_fragments.1)
        (by simpa [allLeaves] using plain.1) condition List.mem_cons_self
      rw [List.forall_mem_cons]
      refine ⟨?_, ih_tail no_fragments.2 plain.2⟩
      have opened := inner_shows.prepend (show Silent "NOT (" by decide)
      exact opened.close (by decide)
  | group inner tail ih_inner ih_tail =>
      simp only [allFragments, fragments, List.append_eq_nil_iff] at no_fragments
      simp only [allLeaves, leaves, List.forall_mem_append] at plain
      rw [List.forall_mem_cons]
      exact ⟨Condition.shows_group (ih_inner no_fragments.1 plain.1),
        ih_tail no_fragments.2 plain.2⟩
  | personal bound tail ih => simp [allFragments, fragments] at no_fragments

end Criteria

end ObjectQuery
