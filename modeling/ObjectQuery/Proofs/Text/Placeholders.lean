import Mathlib.Data.List.Basic
import ObjectQuery.Condition.Basic

/-!
# Placeholders in texts

A placeholder is a colon with the longest run of name characters behind it. Where a text is put
together from parts, its placeholders are those of the parts in order, as long as no part goes on
with a name character right after a placeholder. `Shows` says so of a part whatever comes next.
-/

namespace ObjectQuery

/-- The characters that names of parameters are made of. -/
def isNameChar (c : Char) : Bool :=
  c.isAlphanum || c == '_'

/-- The names behind the colons of a text, from left to right. A name holds no colon, so reading
can go on right behind the colon. -/
def placeholderNames : List Char → List String
  | [] => []
  | c :: rest =>
      if c = ':' then String.ofList (rest.takeWhile isNameChar) :: placeholderNames rest
      else placeholderNames rest

/-- No name goes on into these characters. -/
def EndsName (rest : List Char) : Prop :=
  ∀ c ∈ rest.head?, isNameChar c = false

/-- A text has these placeholders, whatever stands behind it. -/
def Shows (text : String) (names : List String) : Prop :=
  ∀ rest, EndsName rest → placeholderNames (text.toList ++ rest) = names ++ placeholderNames rest

/-- A text without placeholders. -/
def Silent (text : String) : Prop :=
  ':' ∉ text.toList

/-- A text that keeps the placeholders on both of its sides apart. -/
def Divides (text : String) : Prop :=
  Silent text ∧ (text.toList.head?.any fun c => !isNameChar c) = true

instance (text : String) : Decidable (Silent text) :=
  inferInstanceAs (Decidable (_ ∉ _))

instance (text : String) : Decidable (Divides text) :=
  inferInstanceAs (Decidable (_ ∧ _))

@[simp]
theorem silent_append (first second : String) :
    Silent (first ++ second) ↔ Silent first ∧ Silent second := by
  simp [Silent]

theorem placeholderNames_append_of_notMem {text : List Char} (silent : ':' ∉ text)
    (rest : List Char) : placeholderNames (text ++ rest) = placeholderNames rest := by
  induction text with
  | nil => rfl
  | cons c text ih =>
      simp only [List.mem_cons, not_or] at silent
      rw [List.cons_append, placeholderNames, if_neg (Ne.symm silent.1), ih silent.2]

namespace Silent

variable {text first second : String}

theorem shows (silent : Silent text) : Shows text [] := by
  intro rest _
  exact placeholderNames_append_of_notMem silent rest

theorem intercalate {texts : List String} (divider : Silent text)
    (silent : ∀ part ∈ texts, Silent part) : Silent (text.intercalate texts) := by
  induction texts with
  | nil => simp [Silent]
  | cons part more ih =>
      simp only [List.forall_mem_cons] at silent
      cases more with
      | nil => simpa using silent.1
      | cons next others =>
          rw [String.intercalate_cons_cons, silent_append, silent_append]
          exact ⟨⟨silent.1, divider⟩, ih silent.2⟩

theorem join {texts : List String} (silent : ∀ part ∈ texts, Silent part) :
    Silent (String.join texts) := by
  induction texts with
  | nil => simp [Silent]
  | cons part more ih =>
      simp only [List.forall_mem_cons] at silent
      rw [String.join_cons, silent_append]
      exact ⟨silent.1, ih silent.2⟩

end Silent

namespace Divides

variable {first second text : String}

theorem append (divides : Divides first) (silent : Silent second) : Divides (first ++ second) := by
  refine ⟨(silent_append first second).mpr ⟨divides.1, silent⟩, ?_⟩
  have starts := divides.2
  cases first_eq : first.toList with
  | nil => simp [first_eq] at starts
  | cons c rest => simpa [first_eq] using starts

theorem endsName (divides : Divides text) (rest : List Char) : EndsName (text.toList ++ rest) := by
  have starts := divides.2
  cases text_eq : text.toList with
  | nil => simp [text_eq] at starts
  | cons c others => simpa [EndsName, text_eq] using starts

end Divides

namespace Shows

variable {first second between text : String} {names more : List String}

theorem placeholder {name : String} (name_chars : ∀ c ∈ name.toList, isNameChar c = true) :
    Shows (placeholderText name) [name] := by
  intro rest ends
  have colon : ':' ∉ name.toList := by
    intro colon_mem
    exact absurd (name_chars ':' colon_mem) (by decide)
  have run : (name.toList ++ rest).takeWhile isNameChar = name.toList := by
    rw [List.takeWhile_append_of_pos name_chars]
    cases rest with
    | nil => simp
    | cons c others => simp [ends c rfl]
  have text_eq : (placeholderText name).toList = ':' :: name.toList := by
    simp [placeholderText]
  rw [text_eq, List.cons_append, placeholderNames, if_pos rfl, run,
    placeholderNames_append_of_notMem colon, String.ofList_toList]
  rfl

theorem prepend (silent : Silent first) (shows : Shows second names) :
    Shows (first ++ second) names := by
  intro rest ends
  rw [String.toList_append, List.append_assoc, placeholderNames_append_of_notMem silent,
    shows rest ends]

theorem close (shows : Shows first names) (divides : Divides second) :
    Shows (first ++ second) names := by
  intro rest ends
  rw [String.toList_append, List.append_assoc, shows _ (divides.endsName rest),
    placeholderNames_append_of_notMem divides.1]

theorem divide (left : Shows first names) (divides : Divides between)
    (right : Shows second more) : Shows (first ++ between ++ second) (names ++ more) := by
  intro rest ends
  calc
    placeholderNames ((first ++ between ++ second).toList ++ rest)
      = placeholderNames (first.toList ++ (between.toList ++ (second.toList ++ rest))) := by
        simp only [String.toList_append, List.append_assoc]
    _ = names ++ placeholderNames (second.toList ++ rest) := by
        rw [left _ (divides.endsName _), placeholderNames_append_of_notMem divides.1]
    _ = names ++ more ++ placeholderNames rest := by
        rw [right rest ends, List.append_assoc]

theorem intercalate {α : Type} {items : List α} {part : α → String} {namesOf : α → List String}
    (divides : Divides between) (shows : ∀ item ∈ items, Shows (part item) (namesOf item)) :
    Shows (between.intercalate (items.map part)) (items.flatMap namesOf) := by
  induction items with
  | nil => exact Silent.shows (by simp [Silent])
  | cons item rest ih =>
      simp only [List.forall_mem_cons] at shows
      cases rest with
      | nil => simpa using shows.1
      | cons next others =>
          simp only [List.map_cons, String.intercalate_cons_cons]
          exact shows.1.divide divides (ih shows.2)

theorem placeholderNames_eq (shows : Shows text names) : placeholderNames text.toList = names := by
  have read := shows [] (by simp [EndsName])
  simpa [placeholderNames] using read

end Shows

end ObjectQuery
