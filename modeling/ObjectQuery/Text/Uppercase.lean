import ObjectQuery.Text.Uppercase.Table

/-!
# Upper-case text

A text is upper-cased character by character. A letter may become several characters, and a
character that is no lower-case letter stays as it is.
-/

namespace ObjectQuery.Uppercase

/-- The upper-case form of a code point. -/
def ofCode (code : Nat) : List Nat :=
  match expansions.lookup code with
  | some codes => codes
  | none =>
      match runs.find? fun run => run.contains code with
      | some run => [(code + run.shift).toNat]
      | none => [code]

/-- The upper-case form of a character. -/
def ofChar (c : Char) : List Char :=
  (ofCode c.toNat).map Char.ofNat

/-- The upper-case form of a text. -/
def ofText (s : String) : String :=
  String.ofList (s.toList.flatMap ofChar)

end ObjectQuery.Uppercase
