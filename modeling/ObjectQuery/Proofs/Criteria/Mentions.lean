import ObjectQuery.Proofs.Condition.Substitution
import ObjectQuery.Proofs.Criteria.PlainNames
import ObjectQuery.Proofs.Text.Mentions

/-!
# What conditions mention

Conditions name fields by their paths: those that leaves ask about, and those that stand in a
fragment in the place of its placeholders. What else a fragment has is taken over as it is written.
The names of parameters have no dots, so nothing else in a condition is a path. All of this can be
read off the criteria.
-/

namespace ObjectQuery

namespace Fragment

/-- The longer one of two placeholders that a text starts with. -/
def longer (text : List Char) (best : Option (String × Field)) (placeholder : String × Field) :
    Option (String × Field) :=
  let length := (best.map fun found => found.1.toList.length).getD 0
  if length < placeholder.1.toList.length ∧ placeholder.1.toList.isPrefixOf text then
    some placeholder
  else best

/-- The longest placeholder that a text starts with, and its field. -/
def longestField? (placeholders : List (String × Field)) (text : List Char) :
    Option (String × Field) :=
  placeholders.foldl (longer text) none

/-- What a text with its placeholders replaced mentions, once `skip` characters have been passed
over: the fields of the placeholders and, one by one, the characters that are left. -/
def mentionsAfter (placeholders : List (String × Field)) : (skip : ℕ) → List Char → List Mention
  | _, [] => []
  | skip + 1, _ :: rest => mentionsAfter placeholders skip rest
  | 0, c :: rest =>
      match longestField? placeholders (c :: rest) with
      | some (placeholder, field) =>
          .path field :: mentionsAfter placeholders (placeholder.toList.length - 1) rest
      | none => .verbatim (String.singleton c) :: mentionsAfter placeholders 0 rest

theorem longer_eq_some_of_stands {text : List Char} {best : Option (String × Field)}
    {placeholder : String × Field} (stands : StandsAt placeholder.1 text)
    (shorter : ∀ found ∈ best, found.1.length < placeholder.1.length) :
    longer text best placeholder = some placeholder := by
  have not_empty : 0 < placeholder.1.length :=
    Nat.pos_of_ne_zero fun length_eq => stands.1 (String.length_eq_zero_iff.mp length_eq)
  have begins := List.isPrefixOf_iff_prefix.mpr stands.2
  simp only [longer, String.length_toList]
  cases best with
  | none => exact if_pos ⟨not_empty, begins⟩
  | some found => exact if_pos ⟨shorter found rfl, begins⟩

theorem longer_eq_of_not_longer {text : List Char} {best : Option (String × Field)}
    {placeholder : String × Field}
    (not_longer : StandsAt placeholder.1 text →
      ∃ found ∈ best, placeholder.1.length ≤ found.1.length) :
    longer text best placeholder = best := by
  unfold longer
  dsimp only
  split
  · next longer =>
      rw [List.isPrefixOf_iff_prefix] at longer
      have not_empty : placeholder.1 ≠ "" := by
        intro is_empty
        simp [is_empty] at longer
      rcases not_longer ⟨not_empty, longer.2⟩ with ⟨found, rfl, length_le⟩
      simp only [Option.map_some, Option.getD_some, String.length_toList] at longer
      omega
  · rfl

/-- What is kept while going through placeholders one by one is the longest so far. -/
theorem longestField?_eq (placeholders : List (String × Field)) (text : List Char) :
    longestField? placeholders text = leading? (sought placeholders) text := by
  induction placeholders using List.reverseRecOn with
  | nil => rfl
  | append_singleton front last ih =>
      have step : longestField? (front ++ [last]) text =
          longer text (leading? (sought front) text) last := by
        rw [← ih, longestField?, List.foldl_append]
        rfl
      rw [step]
      symm
      cases leads : leading? (sought front) text with
      | none =>
          have none_stands := leading?_eq_none_iff.mp leads
          by_cases stands : StandsAt last.1 text
          · rw [longer_eq_some_of_stands stands (by simp), leading?_eq_some_iff]
            apply isLongest_concat stands
            intro other listed other_stands
            exact absurd other_stands (none_stands other listed)
          · rw [longer_eq_of_not_longer (by simp [stands]), leading?_eq_none_iff]
            intro other listed
            rcases List.mem_append.mp listed with earlier | is_last
            · exact none_stands other earlier
            · rwa [List.mem_singleton.mp is_last]
      | some best =>
          have longest := leading?_eq_some_iff.mp leads
          by_cases improves : StandsAt last.1 text ∧ best.1.length < last.1.length
          · rw [longer_eq_some_of_stands improves.1 (by simpa using improves.2),
              leading?_eq_some_iff]
            apply isLongest_concat improves.1
            intro other listed other_stands
            exact (longest.longest other listed other_stands).trans_lt improves.2
          · rw [not_and, not_lt] at improves
            rw [longer_eq_of_not_longer (by simpa using improves), leading?_eq_some_iff]
            exact longest.concat improves

theorem mem_of_longestField? {placeholders : List (String × Field)} {text : List Char}
    {found : String × Field} (longest : longestField? placeholders text = some found) :
    found ∈ placeholders := by
  rw [longestField?_eq, leading?_eq_some_iff] at longest
  exact mem_of_lookup longest.declared

theorem mem_of_path_mem {placeholders : List (String × Field)} {field : Field} {skip : ℕ}
    {text : List Char} (mentioned : .path field ∈ mentionsAfter placeholders skip text) :
    field ∈ placeholders.map Prod.snd := by
  induction text generalizing skip with
  | nil => simp [mentionsAfter] at mentioned
  | cons c rest ih =>
      cases skip with
      | succ skip => exact ih mentioned
      | zero =>
          rw [mentionsAfter] at mentioned
          cases longest : longestField? placeholders (c :: rest) with
          | none =>
              simp only [longest, List.mem_cons, reduceCtorEq, false_or] at mentioned
              exact ih mentioned
          | some found =>
              simp only [longest, List.mem_cons, Mention.path.injEq] at mentioned
              rcases mentioned with rfl | later
              · exact List.mem_map_of_mem (mem_of_longestField? longest)
              · exact ih later

theorem mentions_substituteAfter (placeholders : List (String × Field)) (skip : ℕ)
    (text : List Char) :
    Mentions (String.ofList (substituteAfter (sought placeholders) skip text))
      (mentionsAfter placeholders skip text) := by
  induction text generalizing skip with
  | nil => exact .empty
  | cons c rest ih =>
      cases skip with
      | succ skip => exact ih skip
      | zero =>
          rw [substituteAfter, mentionsAfter, ← longestField?_eq]
          cases longestField? placeholders (c :: rest) with
          | none =>
              have copied := (Mentions.ofVerbatim (String.singleton c)).append (ih 0)
              simpa [← String.toList_inj] using copied
          | some found =>
              have replaced := (Mentions.ofPath found.2).append (ih (found.1.toList.length - 1))
              simpa [← String.toList_inj] using replaced

end Fragment

namespace PersonalCriteria

/-- What the text of a fragment mentions. -/
def textMentions (personal : PersonalCriteria) : List Mention :=
  Fragment.mentionsAfter personal.placeholders 0 personal.query.toList

theorem mentions_text (personal : PersonalCriteria) :
    Mentions personal.text personal.textMentions :=
  Fragment.mentions_substituteAfter personal.placeholders 0 personal.query.toList

end PersonalCriteria

namespace Parameters

theorem noPath_candidate (field : String) (key : Value) (n : ℕ) :
    NoPath (candidate (nameOf field key) n) := by
  have no_path_number (number : ℕ) : NoPath (toString number) := by
    intro dot
    exact absurd (isNameChar_of_mem_toString dot) (by decide)
  have no_path_digest :
      NoPath (if key.isNull then "" else toString (digest key.canonical).toNat) := by
    split
    · decide
    · exact no_path_number _
  have no_path_ideal : NoPath (nameOf field key) := by
    rw [nameOf, noPath_append, noPath_append]
    refine ⟨⟨?_, by decide⟩, no_path_digest⟩
    rw [NoPath, String.toList_ofList, List.mem_map]
    rintro ⟨c, -, c_eq⟩
    split at c_eq
    · cases c_eq
    · next not_dot => exact not_dot c_eq
  cases n with
  | zero => exact no_path_ideal
  | succ n =>
      rw [candidate, noPath_append, noPath_append]
      exact ⟨⟨no_path_ideal, by decide⟩, no_path_number _⟩

end Parameters

theorem Operand.mentions {operand : Operand}
    (no_paths : ∀ name ∈ operand.placeholders, NoPath name) :
    Mentions operand.text (operand.fields.map .path) := by
  cases operand with
  | field subject folded =>
      cases folded with
      | false => exact .ofPath subject
      | true => exact .followed (.words (by decide) (.ofPath subject)) (by decide)
  | placeholder name =>
      exact .ofWords (noPath_append.mpr ⟨by decide, no_paths name List.mem_cons_self⟩)

theorem ConditionalOperator.noPath_keyword (operator : ConditionalOperator) :
    NoPath operator.keyword := by
  cases operator with
  | comparison operator => cases operator <;> decide
  | _ => decide

theorem Predicate.mentions {predicate : Predicate}
    (no_paths : ∀ name ∈ predicate.placeholders, NoPath name) :
    Mentions predicate.text (predicate.fields.map .path) := by
  have blank : NoPath " " := by decide
  have no_path_placeholder {name : String} (no_path : NoPath name) :
      NoPath (placeholderText name) := noPath_append.mpr ⟨by decide, no_path⟩
  cases predicate with
  | binary left operator right =>
      rw [placeholders, List.forall_mem_append] at no_paths
      rw [fields, List.map_append]
      exact (((Operand.mentions no_paths.1).followed blank).followed operator.noPath_keyword
        |>.followed blank).append (Operand.mentions no_paths.2)
  | between subject low high =>
      simp only [placeholders, List.forall_mem_append, List.forall_mem_cons] at no_paths
      exact (((Operand.mentions no_paths.1).followed (by decide)).followed
        (no_path_placeholder no_paths.2.1) |>.followed (by decide)).followed
          (no_path_placeholder no_paths.2.2.1)
  | amongListed subject list =>
      simp only [placeholders, List.forall_mem_append, List.forall_mem_cons] at no_paths
      exact ((Operand.mentions no_paths.1).followed (by decide)).followed
        (no_path_placeholder no_paths.2.1) |>.followed (by decide)
  | amongNothing subject => exact (Operand.mentions no_paths).followed (by decide)
  | unary subject operator =>
      exact ((Operand.mentions no_paths).followed blank).followed operator.noPath_keyword
  | never => exact .ofWords (by decide)

namespace Conditional

/-- The fields that a leaf shows. Where a list has no values, nothing is asked of its field. -/
def shownFields (leaf : Conditional) (emptyList : EmptyList) : List Field :=
  match leaf.test, emptyList with
  | .among [] _, .alwaysFalse => []
  | _, _ => leaf.fields

theorem fields_bind (leaf : Conditional) (emptyList : EmptyList) (parameters : Parameters) :
    (leaf.bind emptyList parameters).1.fields = leaf.shownFields emptyList := by
  rcases leaf with ⟨field, test⟩
  cases test with
  | compare operator value caseSensitive => cases operator <;> rfl
  | among values caseSensitive =>
      match values with
      | [] => cases emptyList <;> rfl
      | [value] => rfl
      | first :: second :: others => rfl
  | _ => rfl

theorem shownFields_subset (leaf : Conditional) (emptyList : EmptyList) :
    leaf.shownFields emptyList ⊆ leaf.fields := by
  unfold shownFields
  split
  · exact List.nil_subset _
  · exact List.Subset.refl _

theorem mentions_bind (leaf : Conditional) (emptyList : EmptyList) (parameters : Parameters) :
    Mentions (leaf.bind emptyList parameters).1.text ((leaf.shownFields emptyList).map .path) := by
  rw [← leaf.fields_bind emptyList parameters]
  apply Predicate.mentions
  rw [leaf.placeholders_bind]
  intro name name_mem
  rcases Parameters.mem_bindEach name_mem with ⟨request, -, n, rfl⟩
  exact Parameters.noPath_candidate _ _ n

end Conditional

namespace Criteria

mutual

/-- What criteria mention when they have become a condition. -/
def mentions (emptyList : EmptyList) : Criteria → List Mention
  | .conditional leaf => (leaf.shownFields emptyList).map .path
  | .not criteria => criteria.mentions emptyList
  | .group _ members => allMentions emptyList members
  | .personal leaf => leaf.textMentions

def allMentions (emptyList : EmptyList) : List Criteria → List Mention
  | [] => []
  | criteria :: rest => criteria.mentions emptyList ++ allMentions emptyList rest

end

theorem allMentions_eq_flatten (emptyList : EmptyList) (criteria : List Criteria) :
    allMentions emptyList criteria = (criteria.map (mentions emptyList)).flatten := by
  induction criteria with
  | nil => rfl
  | cons first rest ih => rw [allMentions, ih, List.map_cons, List.flatten_cons]

variable {emptyList : EmptyList} {holds : Field → Prop}

mutual

theorem forall_path_mem_mentions (criteria : Criteria)
    (in_leaves : ∀ leaf ∈ criteria.leaves, ∀ field ∈ leaf.fields, holds field)
    (in_fragments : ∀ leaf ∈ criteria.fragments, ∀ placeholder ∈ leaf.placeholders,
      holds placeholder.2) :
    ∀ field, .path field ∈ criteria.mentions emptyList → holds field := by
  intro field mentioned
  cases criteria with
  | conditional leaf =>
      rcases List.mem_map.mp mentioned with ⟨_, shown, ⟨⟩⟩
      exact in_leaves leaf List.mem_cons_self field (leaf.shownFields_subset emptyList shown)
  | not criteria => exact forall_path_mem_mentions criteria in_leaves in_fragments field mentioned
  | group operator members =>
      exact forall_path_mem_allMentions members in_leaves in_fragments field mentioned
  | personal leaf =>
      rcases List.mem_map.mp (Fragment.mem_of_path_mem mentioned) with ⟨placeholder, mem, rfl⟩
      exact in_fragments leaf List.mem_cons_self placeholder mem

/-- What holds of the fields that leaves ask about, and of those that the placeholders of fragments
stand for, holds of every field that has its path in a condition. -/
theorem forall_path_mem_allMentions (criteria : List Criteria)
    (in_leaves : ∀ leaf ∈ allLeaves criteria, ∀ field ∈ leaf.fields, holds field)
    (in_fragments : ∀ leaf ∈ allFragments criteria, ∀ placeholder ∈ leaf.placeholders,
      holds placeholder.2) :
    ∀ field, .path field ∈ allMentions emptyList criteria → holds field := by
  intro field mentioned
  cases criteria with
  | nil => simp [allMentions] at mentioned
  | cons first rest =>
      simp only [allLeaves, allFragments, List.forall_mem_append] at in_leaves in_fragments
      rw [allMentions, List.mem_append] at mentioned
      rcases mentioned with in_first | in_rest
      · exact forall_path_mem_mentions first in_leaves.1 in_fragments.1 field in_first
      · exact forall_path_mem_allMentions rest in_leaves.2 in_fragments.2 field in_rest

end

end Criteria

theorem Mentions.groupText (operator : LogicalOperator) {texts : List String}
    {parts : List (List Mention)} (mentioned : List.Forall₂ Mentions texts parts) :
    Mentions (groupText operator texts) parts.flatten := by
  have no_path : NoPath (" " ++ operator.keyword ++ " ") := by cases operator <;> decide
  match mentioned with
  | .nil => cases operator <;> exact .ofWords (by decide)
  | .cons first .nil => simpa [ObjectQuery.groupText] using first
  | .cons first (.cons second rest) =>
      have members := Mentions.intercalate no_path (.cons first (.cons second rest))
      exact (members.words (by decide)).followed (by decide)

namespace Criteria

variable {emptyList : EmptyList} {before after : Parameters} {criteria : List Criteria}
  {conditions : List Condition}

/-- Along a run, each condition mentions what its criteria do. -/
theorem Binds.mentions (run : Binds emptyList before criteria conditions after) :
    List.Forall₂ Mentions (conditions.map Condition.text)
      (criteria.map (Criteria.mentions emptyList)) := by
  induction run with
  | nil => exact .nil
  | @conditional before after leaf rest conditions tail ih =>
      exact .cons (leaf.mentions_bind emptyList before) ih
  | not inner tail ih_inner ih_tail =>
      rcases ih_inner with _ | ⟨negated, -⟩
      exact .cons ((negated.words (by decide)).followed (by decide)) ih_tail
  | @group before between after operator members rest memberConditions conditions inner tail
      ih_inner ih_tail =>
      have group_mentions := Mentions.groupText operator ih_inner
      rw [← allMentions_eq_flatten, ← Condition.memberTexts_eq_map] at group_mentions
      exact .cons group_mentions ih_tail
  | @personal before between after leaf rest conditions bound tail ih =>
      exact .cons leaf.mentions_text ih

theorem Binds.mentions_whereText (run : Binds emptyList before criteria conditions after) :
    Mentions (Condition.whereText conditions) (allMentions emptyList criteria) := by
  have divider : NoPath " AND " := by decide
  have mentioned := Mentions.intercalate divider run.mentions
  rw [← allMentions_eq_flatten] at mentioned
  rw [Condition.whereText, Condition.memberTexts_eq_map]
  split
  · next none =>
      rw [List.isEmpty_iff] at none
      subst none
      cases run
      exact .empty
  · exact mentioned.words (by decide)

end Criteria

end ObjectQuery
