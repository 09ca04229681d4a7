import ObjectQuery.Proofs.Text.Placeholders

/-!
# Masked texts

A text in which one mark stands for every placeholder, whatever its name. Two texts that are put
together alike, from the same words and from placeholders at the same places, are the same once they
are masked. `Twins` says so of two parts, whatever comes behind them, so that it needs no care where
a name ends: what goes on into a name is masked with it on both sides.
-/

namespace ObjectQuery

/-- A text with a mark for each colon and the name behind it. Within a name, characters of names are
passed over. -/
def maskWithin (mark : List Char) : (within : Bool) → List Char → List Char
  | _, [] => []
  | within, c :: rest =>
      if c = ':' then mark ++ maskWithin mark true rest
      else if within && isNameChar c then maskWithin mark true rest
      else c :: maskWithin mark false rest

/-- A text with a mark in the place of each placeholder. -/
def masked (mark text : String) : String :=
  String.ofList (maskWithin mark.toList false text.toList)

example : masked "?" "UPPER(e.a) = :a_17_1 AND e.b IN (:b_)" =
    "UPPER(e.a) = ? AND e.b IN (?)" := by
  decide

/-- The longest run of name characters goes with the colon before it. -/
theorem maskWithin_true (mark text : List Char) :
    maskWithin mark true text = maskWithin mark false (text.dropWhile isNameChar) := by
  induction text with
  | nil => rfl
  | cons c rest ih =>
      by_cases name_char : isNameChar c = true
      · have not_colon : c ≠ ':' := by
          rintro rfl
          exact absurd name_char (by decide)
        rw [List.dropWhile_cons_of_pos name_char, ← ih]
        simp [maskWithin, not_colon, name_char]
      · rw [List.dropWhile_cons_of_neg name_char]
        simp [maskWithin, name_char]

/-- Two texts are masked alike if what stands behind them is. -/
def Twins (first second : String) : Prop :=
  ∀ mark rest rest', (∀ within, maskWithin mark within rest = maskWithin mark within rest') →
    ∀ within, maskWithin mark within (first.toList ++ rest) =
      maskWithin mark within (second.toList ++ rest')

namespace Twins

variable {first first' second second' : String} {texts texts' : List String}

theorem refl (text : String) : Twins text text := by
  intro mark rest rest' same
  induction text.toList with
  | nil => exact same
  | cons c more ih =>
      intro within
      simp only [List.cons_append, maskWithin, ih]

theorem append (left : Twins first first') (right : Twins second second') :
    Twins (first ++ second) (first' ++ second') := by
  intro mark rest rest' same within
  rw [String.toList_append, String.toList_append, List.append_assoc, List.append_assoc]
  apply left
  intro within
  exact right mark rest rest' same within

theorem maskWithin_name {name : List Char} (name_chars : ∀ c ∈ name, isNameChar c = true)
    (mark rest : List Char) :
    maskWithin mark true (name ++ rest) = maskWithin mark true rest := by
  rw [maskWithin_true, List.dropWhile_append_of_pos name_chars, ← maskWithin_true]

/-- A name does not show behind its colon. -/
theorem placeholder {name name' : String} (name_chars : ∀ c ∈ name.toList, isNameChar c = true)
    (name_chars' : ∀ c ∈ name'.toList, isNameChar c = true) :
    Twins (placeholderText name) (placeholderText name') := by
  intro mark rest rest' same within
  simp only [placeholderText, String.toList_append, List.append_assoc]
  change mark ++ maskWithin mark true (name.toList ++ rest) =
    mark ++ maskWithin mark true (name'.toList ++ rest')
  rw [maskWithin_name name_chars, maskWithin_name name_chars', same]

theorem intercalate (between : String) (twins : List.Forall₂ Twins texts texts') :
    Twins (between.intercalate texts) (between.intercalate texts') := by
  induction twins with
  | nil => exact refl _
  | @cons text text' more more' first rest ih =>
      cases rest with
      | nil => simpa using first
      | cons second others =>
          rw [String.intercalate_cons_cons, String.intercalate_cons_cons]
          exact (first.append (refl between)).append ih

theorem masked_eq (twins : Twins first second) (mark : String) :
    masked mark first = masked mark second := by
  have same := twins mark.toList [] [] (fun _ => rfl) false
  simp only [List.append_nil] at same
  rw [masked, masked, same]

end Twins

end ObjectQuery
