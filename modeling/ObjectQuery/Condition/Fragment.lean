import ObjectQuery.Criteria.Basic

/-!
# Fragments

The text of personal criteria, with the paths of fields in the place of its placeholders. The
placeholders are put in order, longer ones first, and then the text is read once from left to right.
At each position the first placeholder that stands there is replaced and passed over; what replaces
it is not read again.
-/

namespace ObjectQuery.Fragment

/-- Placeholders in order with one more among them, behind those that are longer. -/
def insertByLength (placeholder : String × Field) : List (String × Field) → List (String × Field)
  | [] => [placeholder]
  | first :: rest =>
      if placeholder.1.utf8ByteSize < first.1.utf8ByteSize then
        first :: insertByLength placeholder rest
      else placeholder :: first :: rest

/-- Placeholders by the number of their bytes, those with more of them first. Placeholders of one
length stay in the order in which they are declared. -/
def longestFirst : List (String × Field) → List (String × Field)
  | [] => []
  | placeholder :: rest => insertByLength placeholder (longestFirst rest)

/-- The first placeholder that a text starts with, and its field. -/
def leading? (placeholders : List (String × Field)) (text : List Char) : Option (String × Field) :=
  placeholders.find? fun placeholder => placeholder.1.toList.isPrefixOf text

/-- A text with its placeholders replaced, once `skip` characters have been passed over. -/
def substituteAfter (placeholders : List (String × Field)) : (skip : Nat) → List Char → List Char
  | _, [] => []
  | skip + 1, _ :: rest => substituteAfter placeholders skip rest
  | 0, c :: rest =>
      match leading? placeholders (c :: rest) with
      | some (placeholder, field) =>
          field.path.toList ++ substituteAfter placeholders (placeholder.toList.length - 1) rest
      | none => c :: substituteAfter placeholders 0 rest

/-- Placeholders in the order in which they are looked for. Empty ones are not. -/
def sought (placeholders : List (String × Field)) : List (String × Field) :=
  longestFirst (placeholders.filter fun placeholder => !placeholder.1.isEmpty)

/-- A text with each placeholder replaced by the path of its field. -/
def substitute (placeholders : List (String × Field)) (query : String) : String :=
  String.ofList (substituteAfter (sought placeholders) 0 query.toList)

/-- Whether a text contains another one. -/
def occursIn (pattern : List Char) : List Char → Bool
  | [] => pattern.isEmpty
  | c :: rest => pattern.isPrefixOf (c :: rest) || occursIn pattern rest

end Fragment

namespace PersonalCriteria

variable (personal : PersonalCriteria)

/-- The text of a fragment in a statement. -/
def text : String :=
  Fragment.substitute personal.placeholders personal.query

/-- Whether the text of a fragment refers to a parameter. -/
def mentions (name : String) : Bool :=
  Fragment.occursIn (':' :: name.toList) personal.text.toList

end PersonalCriteria

end ObjectQuery
