import ObjectQuery.Decimal.Format
import ObjectQuery.Text.Uppercase

/-!
# Values

The literal operands of criteria, which are also what parameters are bound to. Two values are equal
if they are of one type and have equal content. Floats are compared as numbers, so a value that
holds no number is not equal to itself, and two equal values may still be written differently.
-/

namespace ObjectQuery

inductive Value where
  | null
  | bool (b : Bool)
  | int (i : Int64)
  | float (x : Float)
  | text (s : String)
  | list (items : List Value)

namespace Value

def isNull : Value → Bool
  | .null => true
  | _ => false

def isText : Value → Bool
  | .text _ => true
  | _ => false

mutual

/-- Equality of type and content. -/
def equal : Value → Value → Bool
  | .null, .null => true
  | .bool b, .bool b' => b == b'
  | .int i, .int i' => i == i'
  | .float x, .float x' => (Binary.ofFloat x).equal (Binary.ofFloat x')
  | .text s, .text s' => s == s'
  | .list items, .list items' => equalItems items items'
  | _, _ => false

/-- Equality of items, one by one. -/
def equalItems : List Value → List Value → Bool
  | [], [] => true
  | item :: rest, item' :: rest' => item.equal item' && equalItems rest rest'
  | _, _ => false

end

instance : BEq Value where
  beq := equal

/-- In messages no number has an exponent, and whole ones have no point. Of two equally close
decimals the larger one is taken. -/
def displayFormat : Decimal.Format where
  positional := none
  keepsPoint := false
  tie := .upward

def displayFloat (x : Float) : String :=
  match Binary.ofFloat x with
  | .nan => "NaN"
  | .infinite negative => if negative then "-inf" else "inf"
  | .finite negative significand exponent =>
      displayFormat.finiteText negative significand exponent

mutual

/-- The text of a value in messages: texts stand without quotes, lists in brackets. -/
def display : Value → String
  | .null => "null"
  | .bool true => "true"
  | .bool false => "false"
  | .int i => toString i.toInt
  | .float x => displayFloat x
  | .text s => s
  | .list items => "[" ++ ", ".intercalate (displayItems items) ++ "]"

/-- The texts of the items of a list. -/
def displayItems : List Value → List String
  | [] => []
  | item :: rest => item.display :: displayItems rest

end

/-- The upper-case text of a value. Null has no text and stays null. -/
def toUpper (value : Value) : Value :=
  match value with
  | .null => .null
  | value => .text (Uppercase.ofText value.display)

end Value

end ObjectQuery
