import ObjectQuery.Decimal.Literal
import ObjectQuery.Json.Writer
import ObjectQuery.Value.Basic

/-!
# Values as JSON

Every value is a JSON document, and every document that contains no object is a value. The compact
text of a value's document is its canonical text; the names of parameters depend on it. Floats that
are no finite number have the canonical text of null.
-/

namespace ObjectQuery.Value

mutual

/-- The document of a value. -/
def toJson : Value → Json
  | .null => .null
  | .bool b => .bool b
  | .int i => .integer i.toInt
  | .float x => .decimal x
  | .text s => .text s
  | .list items => .list (itemsToJson items)

/-- The documents of the items of a list. -/
def itemsToJson : List Value → List Json
  | [] => []
  | item :: rest => item.toJson :: itemsToJson rest

end

/-- The value of a whole number. One that is no 64-bit integer becomes the nearest float. -/
def ofInteger (i : Int) : Value :=
  if Int64.minValue.toInt ≤ i ∧ i ≤ Int64.maxValue.toInt then .int (Int64.ofInt i)
  else .float (Decimal.Literal.ofInt i).toFloat

mutual

/-- The value that a document is. -/
def ofJson? : Json → Option Value
  | .null => some .null
  | .bool b => some (.bool b)
  | .integer i => some (ofInteger i)
  | .decimal x => some (.float x)
  | .text s => some (.text s)
  | .list items => .list <$> itemsOfJson? items
  | .object _ => none

/-- The values that the items of a list are. -/
def itemsOfJson? : List Json → Option (List Value)
  | [] => some []
  | item :: rest => do
      let value ← ofJson? item
      let values ← itemsOfJson? rest
      return value :: values

end

/-- The canonical text of a value. -/
def canonical (value : Value) : String :=
  value.toJson.compact

end ObjectQuery.Value
