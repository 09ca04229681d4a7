import Mathlib.Data.List.Forall2
import ObjectQuery.Criteria.Basic
import ObjectQuery.Statement.From

/-!
# Mentions in texts

A text is put together from words and from what it mentions: the aliases that it introduces, the
fields that it names by their paths, and texts that are taken over as they are given. Words have no
dots, so no path is left unnoticed in them. A path begins with an alias, and a text can only be
understood if each of its paths begins with an alias that was introduced before.
-/

namespace ObjectQuery

inductive Mention where
  /-- An alias is given to a source. -/
  | introduced (aliasName : String)
  /-- A field is named by its path. -/
  | path (field : Field)
  | verbatim (content : String)
deriving DecidableEq

def Mention.text : Mention → String
  | .introduced aliasName => aliasName
  | .path field => field.owner.aliasName ++ "." ++ field.name
  | .verbatim content => content

/-- No path stands in a text, since it has no dots. -/
def NoPath (text : String) : Prop :=
  '.' ∉ text.toList

instance (text : String) : Decidable (NoPath text) :=
  inferInstanceAs (Decidable (¬_))

theorem noPath_append {first second : String} :
    NoPath (first ++ second) ↔ NoPath first ∧ NoPath second := by
  simp [NoPath]

/-- A text is made of words and of these mentions, in this order. -/
inductive Mentions : String → List Mention → Prop where
  | empty : Mentions "" []
  | words {words text : String} {mentions : List Mention} (no_path : NoPath words)
      (behind : Mentions text mentions) : Mentions (words ++ text) mentions
  | mention (mention : Mention) {text : String} {mentions : List Mention}
      (behind : Mentions text mentions) : Mentions (mention.text ++ text) (mention :: mentions)

namespace Mentions

variable {first second words : String} {mentions more : List Mention}

theorem ofWords (no_path : NoPath words) : Mentions words [] := by
  simpa using Mentions.words no_path .empty

theorem single (mention : Mention) : Mentions mention.text [mention] := by
  simpa using Mentions.mention mention .empty

theorem ofPath (field : Field) : Mentions field.path [.path field] :=
  single (.path field)

theorem ofAlias (aliasName : String) : Mentions aliasName [.introduced aliasName] :=
  single (.introduced aliasName)

theorem ofVerbatim (content : String) : Mentions content [.verbatim content] :=
  single (.verbatim content)

theorem append (left : Mentions first mentions) (right : Mentions second more) :
    Mentions (first ++ second) (mentions ++ more) := by
  induction left with
  | empty => simpa using right
  | words no_path behind ih =>
      rw [String.append_assoc]
      exact .words no_path ih
  | mention mention behind ih =>
      rw [String.append_assoc]
      exact .mention mention ih

theorem followed (mentioned : Mentions first mentions) (no_path : NoPath words) :
    Mentions (first ++ words) mentions := by
  simpa using mentioned.append (ofWords no_path)

theorem intercalate {between : String} {texts : List String} {parts : List (List Mention)}
    (no_path : NoPath between) (mentioned : List.Forall₂ Mentions texts parts) :
    Mentions (between.intercalate texts) parts.flatten := by
  induction mentioned with
  | nil => exact .empty
  | cons first rest ih =>
      cases rest with
      | nil => simpa using first
      | cons second others =>
          rw [String.intercalate_cons_cons, List.flatten_cons]
          exact (first.followed no_path).append ih

theorem join {α : Type} {text : α → String} {mentionsOf : α → List Mention}
    (mentioned : ∀ item, Mentions (text item) (mentionsOf item)) (items : List α) :
    Mentions (String.join (items.map text)) (items.flatMap mentionsOf) := by
  induction items with
  | nil => exact .empty
  | cons item rest ih =>
      rw [List.map_cons, String.join_cons, List.flatMap_cons]
      exact (mentioned item).append ih

end Mentions

/-- Each path begins with an alias that was introduced before it. -/
def InScope (mentions : List Mention) : Prop :=
  ∀ before field after, mentions = before ++ .path field :: after →
    .introduced field.owner.aliasName ∈ before

namespace InScope

variable {mentions more : List Mention}

theorem nil : InScope [] := by
  intro before field after impossible
  simp at impossible

/-- Whatever only uses what is known already can follow. -/
theorem append (in_scope : InScope mentions)
    (known : ∀ field, .path field ∈ more → .introduced field.owner.aliasName ∈ mentions) :
    InScope (mentions ++ more) := by
  intro before field after split
  rcases List.append_eq_append_iff.mp split with
    ⟨between, before_eq, more_eq⟩ | ⟨rest, mentions_eq, rest_eq⟩
  · rw [before_eq]
    apply List.mem_append_left
    apply known
    simp [more_eq]
  · cases rest with
    | nil =>
        rw [List.append_nil] at mentions_eq
        rw [← mentions_eq]
        apply known
        simp [← show _ = more from rest_eq]
    | cons mention rest =>
        rw [List.cons_append, List.cons.injEq] at rest_eq
        rw [← rest_eq.1] at mentions_eq
        exact in_scope before field rest mentions_eq

end InScope

end ObjectQuery
