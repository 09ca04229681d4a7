import ObjectQuery.Json.Basic

/-!
# Decoding documents

Decoders for the parts that documents are made of. A decoder refuses a document of another shape.
Members that a decoder does not ask for are ignored. A member that may be left out has a default,
which stands for the missing member only: a null in its place is decoded like any other document.
-/

namespace ObjectQuery.Json

variable {α β : Type}

def text? : Json → Option String
  | .text s => some s
  | _ => none

def bool? : Json → Option Bool
  | .bool b => some b
  | _ => none

/-- A whole number that is a signed 64-bit integer. -/
def int64? : Json → Option Int64
  | .integer i =>
      if Int64.minValue.toInt ≤ i ∧ i ≤ Int64.maxValue.toInt then some (Int64.ofInt i) else none
  | _ => none

/-- A whole number that is an unsigned 64-bit integer. -/
def nat64? : Json → Option Nat
  | .integer i => if 0 ≤ i ∧ i < UInt64.size then some i.toNat else none
  | _ => none

/-- Null, or what `decode` accepts. -/
def nullable? (decode : Json → Option α) : Json → Option (Option α)
  | .null => some none
  | document => some <$> decode document

/-- A list of what `decode` accepts. -/
def items? (decode : Json → Option α) : Json → Option (List α)
  | .list items => items.mapM decode
  | _ => none

/-- A list of exactly two items. -/
def pair? (first : Json → Option α) (second : Json → Option β) : Json → Option (α × β)
  | .list [a, b] => do return (← first a, ← second b)
  | _ => none

/-- A member that must be there. -/
def field? (document : Json) (name : String) (decode : Json → Option α) : Option α :=
  document.member? name >>= fun member => decode member.1

/-- A member of an object that may be left out. -/
def fieldOr? (document : Json) (name : String) (default : α) (decode : Json → Option α) :
    Option α :=
  match document, document.member? name with
  | .object _, none => some default
  | _, some member => decode member.1
  | _, none => none

/-- A member of an object that may be left out or null. -/
def optional? (document : Json) (name : String) (decode : Json → Option α) : Option (Option α) :=
  document.fieldOr? name none (nullable? decode)

/-- The document of a value that may be missing. -/
def ofOption (encode : α → Json) : Option α → Json
  | none => .null
  | some a => encode a

end ObjectQuery.Json
