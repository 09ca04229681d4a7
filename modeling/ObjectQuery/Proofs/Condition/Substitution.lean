import Mathlib.Data.List.Infix
import Mathlib.Data.List.Perm.Basic
import ObjectQuery.Condition.Fragment
import ObjectQuery.Proofs.Lookup

/-!
# What replaces a placeholder

Where several placeholders stand at one position of a fragment, the longest one is replaced, and of
equal ones the first that is declared. Sorting by the number of bytes comes to the same as asking
for the longest one, because placeholders that stand at one position are prefixes of each other. The
text of a fragment is therefore given by a relation that knows of no sorting.
-/

namespace ObjectQuery

namespace Fragment

variable {placeholders : List (String × Field)} {text : List Char} {found : String × Field}

/-- A text starts with a placeholder. An empty placeholder stands nowhere. -/
def StandsAt (placeholder : String) (text : List Char) : Prop :=
  placeholder ≠ "" ∧ placeholder.toList <+: text

/-- What is replaced where a text starts: no placeholder that stands there is longer, and of equal
ones it is the first that is declared. -/
structure IsLongest (placeholders : List (String × Field)) (text : List Char)
    (found : String × Field) : Prop where
  stands : StandsAt found.1 text
  declared : placeholders.lookup found.1 = some found.2
  longest : ∀ other ∈ placeholders, StandsAt other.1 text → other.1.length ≤ found.1.length

/-- A text is read once from left to right. The longest placeholder at a position is replaced and
passed over, and where none stands, one character is copied. -/
inductive Substitutes (placeholders : List (String × Field)) : List Char → List Char → Prop where
  | done : Substitutes placeholders [] []
  | replaced {found : String × Field} {rest result : List Char}
      (longest : IsLongest placeholders (found.1.toList ++ rest) found)
      (tail : Substitutes placeholders rest result) :
      Substitutes placeholders (found.1.toList ++ rest) (found.2.path.toList ++ result)
  | copied {c : Char} {rest result : List Char}
      (none_stands : ∀ placeholder ∈ placeholders, ¬StandsAt placeholder.1 (c :: rest))
      (tail : Substitutes placeholders rest result) :
      Substitutes placeholders (c :: rest) (c :: result)

/-- Two texts that another one starts with are prefixes of each other, so it does not matter how
their lengths are counted. -/
theorem length_le_of_utf8ByteSize_le {short long : String} (short_stands : short.toList <+: text)
    (long_stands : long.toList <+: text) (size_le : short.utf8ByteSize ≤ long.utf8ByteSize) :
    short.length ≤ long.length := by
  rcases List.prefix_or_prefix_of_prefix short_stands long_stands with within | within
  · simpa only [String.length_toList] using within.length_le
  · rcases within with ⟨rest, rest_eq⟩
    have short_eq : short = long ++ String.ofList rest := by simp [← String.toList_inj, rest_eq]
    have rest_empty : String.ofList rest = "" := by
      rw [← String.utf8ByteSize_eq_zero_iff]
      rw [short_eq, String.utf8ByteSize_append] at size_le
      omega
    rw [short_eq, rest_empty, String.append_empty]

theorem IsLongest.eq {other : String × Field} (longest : IsLongest placeholders text found)
    (longest' : IsLongest placeholders text other) : found = other := by
  have name_eq : found.1 = other.1 := by
    have found_le := longest'.longest found (mem_of_lookup longest.declared) longest.stands
    have other_le := longest.longest other (mem_of_lookup longest'.declared) longest'.stands
    simp only [← String.length_toList] at found_le other_le
    have within := List.prefix_of_prefix_length_le longest.stands.2 longest'.stands.2 found_le
    exact String.toList_inj.mp (within.eq_of_length_le other_le)
  have field_eq : some found.2 = some other.2 := by
    rw [← longest.declared, ← longest'.declared, name_eq]
  exact Prod.ext name_eq (Option.some.inj field_eq)

/-- A placeholder that is declared last is replaced if it is longer than all others. -/
theorem isLongest_concat {last : String × Field} (stands : StandsAt last.1 text)
    (shorter : ∀ other ∈ placeholders, StandsAt other.1 text → other.1.length < last.1.length) :
    IsLongest (placeholders ++ [last]) text last := by
  refine ⟨stands, ?_, ?_⟩
  · rw [List.lookup_eq_some_iff]
    refine ⟨placeholders, [], rfl, ?_⟩
    intro other listed
    simp only [bne_iff_ne, ne_eq]
    intro same
    have too_short := shorter other listed (same ▸ stands)
    rw [same] at too_short
    exact lt_irrefl _ too_short
  · intro other listed other_stands
    rcases List.mem_append.mp listed with earlier | is_last
    · exact (shorter other earlier other_stands).le
    · rw [List.mem_singleton.mp is_last]

theorem IsLongest.concat (longest : IsLongest placeholders text found) {last : String × Field}
    (not_longer : StandsAt last.1 text → last.1.length ≤ found.1.length) :
    IsLongest (placeholders ++ [last]) text found := by
  refine ⟨longest.stands, ?_, ?_⟩
  · rw [List.lookup_append, longest.declared, Option.some_or]
  · intro other listed other_stands
    rcases List.mem_append.mp listed with earlier | is_last
    · exact longest.longest other earlier other_stands
    · rw [List.mem_singleton.mp is_last] at other_stands ⊢
      exact not_longer other_stands

section Sorting

theorem insertByLength_perm (placeholder : String × Field) (rest : List (String × Field)) :
    (insertByLength placeholder rest).Perm (placeholder :: rest) := by
  induction rest with
  | nil => exact .refl _
  | cons first rest ih =>
      rw [insertByLength]
      split
      · exact (ih.cons first).trans (.swap placeholder first rest)
      · exact .refl _

theorem longestFirst_perm (placeholders : List (String × Field)) :
    (longestFirst placeholders).Perm placeholders := by
  induction placeholders with
  | nil => exact .refl _
  | cons placeholder rest ih => exact (insertByLength_perm _ _).trans (ih.cons placeholder)

/-- Each placeholder has at least as many bytes as those behind it. -/
def Sorted (placeholders : List (String × Field)) : Prop :=
  placeholders.Pairwise fun first second => second.1.utf8ByteSize ≤ first.1.utf8ByteSize

theorem Sorted.insertByLength {rest : List (String × Field)} (sorted : Sorted rest)
    (placeholder : String × Field) : Sorted (insertByLength placeholder rest) := by
  induction rest with
  | nil => exact List.pairwise_singleton _ _
  | cons first rest ih =>
      rcases List.pairwise_cons.mp sorted with ⟨first_longest, rest_sorted⟩
      rw [Fragment.insertByLength]
      split
      · next shorter =>
          refine List.pairwise_cons.mpr ⟨?_, ih rest_sorted⟩
          intro other other_mem
          rcases List.mem_cons.mp ((insertByLength_perm _ _).subset other_mem) with rfl | later
          · exact shorter.le
          · exact first_longest other later
      · next not_shorter =>
          refine List.pairwise_cons.mpr ⟨?_, sorted⟩
          intro other other_mem
          rcases List.mem_cons.mp other_mem with rfl | later
          · exact not_lt.mp not_shorter
          · exact (first_longest other later).trans (not_lt.mp not_shorter)

theorem sorted_longestFirst (placeholders : List (String × Field)) :
    Sorted (longestFirst placeholders) := by
  induction placeholders with
  | nil => exact List.Pairwise.nil
  | cons placeholder rest ih => exact ih.insertByLength placeholder

/-- What a placeholder is passed on its way is longer, and so has another name. -/
theorem lookup_insertByLength (name : String) (placeholder : String × Field)
    (rest : List (String × Field)) :
    (insertByLength placeholder rest).lookup name = (placeholder :: rest).lookup name := by
  induction rest with
  | nil => rfl
  | cons first rest ih =>
      rw [insertByLength]
      split
      · next shorter =>
          have differ : first.1 ≠ placeholder.1 := by
            intro same
            rw [same] at shorter
            exact lt_irrefl _ shorter
          by_cases is_first : name = first.1
          · simp [lookup_cons_eq, is_first, differ]
          · simp [lookup_cons_eq, is_first, ih]
      · rfl

theorem lookup_longestFirst (name : String) (placeholders : List (String × Field)) :
    (longestFirst placeholders).lookup name = placeholders.lookup name := by
  induction placeholders with
  | nil => rfl
  | cons placeholder rest ih =>
      rw [longestFirst, lookup_insertByLength, lookup_cons_eq, lookup_cons_eq, ih]

end Sorting

theorem mem_sought : found ∈ sought placeholders ↔ found ∈ placeholders ∧ found.1 ≠ "" := by
  rw [sought, (longestFirst_perm _).mem_iff, List.mem_filter]
  simp

theorem lookup_sought {name : String} (not_empty : name ≠ "") :
    (sought placeholders).lookup name = placeholders.lookup name := by
  rw [sought, lookup_longestFirst]
  induction placeholders with
  | nil => rfl
  | cons placeholder rest ih =>
      by_cases is_empty : placeholder.1 = ""
      · simp [lookup_cons_eq, is_empty, not_empty, ih]
      · simp [lookup_cons_eq, is_empty, ih]

theorem isLongest_of_leading? (leads : leading? (sought placeholders) text = some found) :
    IsLongest placeholders text found := by
  rcases List.find?_eq_some_iff_append.mp leads with ⟨begins, before, after, split, before_not⟩
  rw [List.isPrefixOf_iff_prefix] at begins
  have found_sought : found ∈ sought placeholders := by simp [split]
  have not_empty := (mem_sought.mp found_sought).2
  -- What stands before it in the order is no prefix of the text.
  have not_before : ∀ other ∈ before, ¬StandsAt other.1 text := by
    intro other other_mem other_stands
    have refused := before_not other other_mem
    rw [List.isPrefixOf_iff_prefix.mpr other_stands.2] at refused
    cases refused
  refine ⟨⟨not_empty, begins⟩, ?_, ?_⟩
  · rw [← lookup_sought not_empty, List.lookup_eq_some_iff]
    refine ⟨before, after, split, ?_⟩
    intro other other_mem
    simp only [bne_iff_ne, ne_eq]
    intro same
    apply not_before other other_mem
    rw [← same]
    exact ⟨not_empty, begins⟩
  · intro other other_mem other_stands
    have other_sought : other ∈ sought placeholders := mem_sought.mpr ⟨other_mem, other_stands.1⟩
    rw [split, List.mem_append, List.mem_cons] at other_sought
    rcases other_sought with earlier | rfl | later
    · exact absurd other_stands (not_before other earlier)
    · exact le_refl _
    · apply length_le_of_utf8ByteSize_le other_stands.2 begins
      have sorted : Sorted (sought placeholders) := sorted_longestFirst _
      rw [Sorted, split] at sorted
      have behind := (List.pairwise_append.mp sorted).2.1
      exact (List.pairwise_cons.mp behind).1 other later

theorem leading?_eq_none_iff :
    leading? (sought placeholders) text = none ↔
      ∀ placeholder ∈ placeholders, ¬StandsAt placeholder.1 text := by
  simp only [leading?, List.find?_eq_none, mem_sought, List.isPrefixOf_iff_prefix, StandsAt,
    not_and, and_imp]

/-- The first placeholder in the order of their lengths is the longest that stands there. -/
theorem leading?_eq_some_iff :
    leading? (sought placeholders) text = some found ↔ IsLongest placeholders text found := by
  constructor
  · exact isLongest_of_leading?
  · intro longest
    cases leads : leading? (sought placeholders) text with
    | none =>
        have none_stands := leading?_eq_none_iff.mp leads
        exact absurd longest.stands (none_stands found (mem_of_lookup longest.declared))
    | some other => rw [(isLongest_of_leading? leads).eq longest]

section Substitution

theorem substituteAfter_eq_drop (placeholders : List (String × Field)) (skip : ℕ)
    (text : List Char) :
    substituteAfter placeholders skip text = substituteAfter placeholders 0 (text.drop skip) := by
  induction text generalizing skip with
  | nil => simp [substituteAfter]
  | cons c rest ih =>
      cases skip with
      | zero => rfl
      | succ skip => exact ih skip

theorem substituteAfter_of_isLongest {rest : List Char}
    (longest : IsLongest placeholders (found.1.toList ++ rest) found) :
    substituteAfter (sought placeholders) 0 (found.1.toList ++ rest) =
      found.2.path.toList ++ substituteAfter (sought placeholders) 0 rest := by
  have leads := leading?_eq_some_iff.mpr longest
  have not_empty : found.1.toList ≠ [] := fun is_empty =>
    longest.stands.1 (String.toList_eq_nil_iff.mp is_empty)
  rcases List.exists_cons_of_ne_nil not_empty with ⟨c, tail, split⟩
  rw [split, List.cons_append] at leads ⊢
  simp only [substituteAfter, leads, split, List.length_cons, Nat.add_sub_cancel]
  rw [substituteAfter_eq_drop, List.drop_left]

theorem substituteAfter_of_none_stands {c : Char} {rest : List Char}
    (none_stands : ∀ placeholder ∈ placeholders, ¬StandsAt placeholder.1 (c :: rest)) :
    substituteAfter (sought placeholders) 0 (c :: rest) =
      c :: substituteAfter (sought placeholders) 0 rest := by
  simp only [substituteAfter, leading?_eq_none_iff.mpr none_stands]

theorem Substitutes.eq {result : List Char} (reads : Substitutes placeholders text result) :
    result = substituteAfter (sought placeholders) 0 text := by
  induction reads with
  | done => rfl
  | replaced longest tail ih => rw [substituteAfter_of_isLongest longest, ih]
  | copied none_stands tail ih => rw [substituteAfter_of_none_stands none_stands, ih]

/-- A text can be read to its end, since each step passes over a character at least. -/
theorem exists_substitutes (placeholders : List (String × Field)) (text : List Char) :
    ∃ result, Substitutes placeholders text result := by
  induction length_eq : text.length using Nat.strongRecOn generalizing text with
  | _ length ih =>
      rcases text with _ | ⟨c, rest⟩
      · exact ⟨[], .done⟩
      · cases leads : leading? (sought placeholders) (c :: rest) with
        | none =>
            rcases ih rest.length (by simp [← length_eq]) rest rfl with ⟨result, tail⟩
            exact ⟨_, .copied (leading?_eq_none_iff.mp leads) tail⟩
        | some found =>
            have longest := leading?_eq_some_iff.mp leads
            rcases longest.stands with ⟨not_empty, behind, split⟩
            have shorter : behind.length < length := by
              have some_passed : 0 < found.1.toList.length :=
                List.length_pos_iff.mpr fun is_empty =>
                  not_empty (String.toList_eq_nil_iff.mp is_empty)
              rw [← length_eq, ← split, List.length_append]
              omega
            rcases ih behind.length shorter behind rfl with ⟨result, tail⟩
            rw [← split] at longest ⊢
            exact ⟨_, .replaced longest tail⟩

theorem substitutes_iff {result : List Char} :
    Substitutes placeholders text result ↔
      result = substituteAfter (sought placeholders) 0 text := by
  constructor
  · exact Substitutes.eq
  · rintro rfl
    rcases exists_substitutes placeholders text with ⟨result, reads⟩
    rwa [← reads.eq]

theorem Substitutes.refl
    (none_occurs : ∀ placeholder ∈ placeholders, placeholder.1 ≠ "" →
      ¬placeholder.1.toList <:+: text) : Substitutes placeholders text text := by
  induction text with
  | nil => exact .done
  | cons c rest ih =>
      refine .copied ?_ (ih ?_)
      · rintro placeholder listed ⟨not_empty, stands⟩
        exact none_occurs placeholder listed not_empty stands.isInfix
      · intro placeholder listed not_empty occurs
        exact none_occurs placeholder listed not_empty (List.infix_cons occurs)

end Substitution

section Permutation

variable {others : List (String × Field)}

/-- If no two placeholders are equal, their order does not matter. -/
theorem IsLongest.perm (longest : IsLongest placeholders text found)
    (distinct : (placeholders.map Prod.fst).Nodup) (reordered : others.Perm placeholders) :
    IsLongest others text found := by
  have distinct' : (others.map Prod.fst).Nodup := (reordered.map Prod.fst).nodup_iff.mpr distinct
  refine ⟨longest.stands, ?_, ?_⟩
  · rw [lookup_eq_some_iff_mem distinct', reordered.mem_iff]
    exact mem_of_lookup longest.declared
  · intro other listed
    exact longest.longest other (reordered.mem_iff.mp listed)

theorem Substitutes.perm {result : List Char} (reads : Substitutes placeholders text result)
    (distinct : (placeholders.map Prod.fst).Nodup) (reordered : others.Perm placeholders) :
    Substitutes others text result := by
  induction reads with
  | done => exact .done
  | replaced longest tail ih => exact .replaced (longest.perm distinct reordered) ih
  | copied none_stands tail ih =>
      refine .copied ?_ ih
      intro placeholder listed
      exact none_stands placeholder (reordered.mem_iff.mp listed)

end Permutation

end Fragment

namespace PersonalCriteria

variable (personal : PersonalCriteria)

theorem substitutes_iff_text (result : String) :
    Fragment.Substitutes personal.placeholders personal.query.toList result.toList ↔
      result = personal.text := by
  rw [Fragment.substitutes_iff, text, Fragment.substitute, ← String.toList_inj]
  simp

/-- The text of a fragment is what one reading of it from left to right comes to, in which the
longest placeholder at each position is replaced and what replaces it is not read again. A fragment
without placeholders in it stays as it is, and if the placeholders are distinct, it does not matter
in which order they are declared. -/
theorem text_replaces_longest :
    (∀ result : String,
      Fragment.Substitutes personal.placeholders personal.query.toList result.toList ↔
        result = personal.text) ∧
    ((∀ placeholder ∈ personal.placeholders, placeholder.1 ≠ "" →
        ¬placeholder.1.toList <:+: personal.query.toList) → personal.text = personal.query) ∧
    ((personal.placeholders.map Prod.fst).Nodup →
      ∀ others : List (String × Field), others.Perm personal.placeholders →
        text { personal with placeholders := others } = personal.text) := by
  refine ⟨personal.substitutes_iff_text, ?_, ?_⟩
  · intro none_occurs
    symm
    rw [← substitutes_iff_text]
    exact .refl none_occurs
  · intro distinct others reordered
    symm
    rw [← substitutes_iff_text]
    exact ((personal.substitutes_iff_text _).mpr rfl).perm distinct reordered

/-- One placeholder is a part of another one and stands in the path of a third, and the longest in
bytes is not the longest in characters. -/
theorem text_replaces_longest_of_overlap :
    let personal : PersonalCriteria := {
      query := "naïve prop10 = prop OR propi = √√"
      placeholders := [("prop", { name := "a" }), ("prop1", { name := "prop" }),
        ("√√", { name := "b" }), ("", { name := "c" })] }
    let others := personal.placeholders.reverse
    let untouched : PersonalCriteria := { personal with query := "1 = 1" }
    (personal.placeholders.map Prod.fst).Nodup ∧ others.Perm personal.placeholders ∧
      (∀ placeholder ∈ untouched.placeholders, placeholder.1 ≠ "" →
        ¬placeholder.1.toList <:+: untouched.query.toList) ∧
      personal.text = "naïve e.prop0 = e.a OR e.ai = e.b" ∧
      text { personal with placeholders := others } = personal.text ∧
      untouched.text = untouched.query := by
  intro personal others untouched
  have distinct : (personal.placeholders.map Prod.fst).Nodup := by decide
  have reordered : others.Perm personal.placeholders := List.reverse_perm _
  have none_occurs : ∀ placeholder ∈ untouched.placeholders, placeholder.1 ≠ "" →
      ¬placeholder.1.toList <:+: untouched.query.toList := by
    decide
  exact ⟨distinct, reordered, none_occurs, by decide,
    (text_replaces_longest personal).2.2 distinct others reordered,
    (text_replaces_longest untouched).2.1 none_occurs⟩

end PersonalCriteria

end ObjectQuery
