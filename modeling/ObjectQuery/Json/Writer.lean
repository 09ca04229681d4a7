import ObjectQuery.Decimal.Format
import ObjectQuery.Json.Basic

/-!
# Compact JSON text

A document is written without blanks. In a text the quote, the backslash and the control characters
are escaped, and every other character stands for itself. JSON has no text for the floats that are
no finite number; they are written as `null`.
-/

namespace ObjectQuery.Json

/-- Decimal numbers are written without an exponent from `10 ^ -5` up to `10 ^ 16`, and whole ones
keep `.0`, which tells them from whole numbers. Of two equally close decimals the even one is
written. -/
def numberFormat : Decimal.Format where
  positional := some (-5, 16)
  keepsPoint := true
  tie := .toEven

/-- A hexadecimal digit, in lower case. -/
def hexDigit (n : Nat) : Char :=
  if n < 10 then Char.ofNat ('0'.toNat + n) else Char.ofNat ('a'.toNat + (n - 10))

/-- A character as it is written inside quotes. -/
def escape (c : Char) : List Char :=
  match c with
  | '"' => ['\\', '"']
  | '\\' => ['\\', '\\']
  | '\x08' => ['\\', 'b']
  | '\x0c' => ['\\', 'f']
  | '\n' => ['\\', 'n']
  | '\r' => ['\\', 'r']
  | '\t' => ['\\', 't']
  | c =>
      if c.toNat < 0x20 then ['\\', 'u', '0', '0', hexDigit (c.toNat / 16), hexDigit (c.toNat % 16)]
      else [c]

/-- A text in quotes. -/
def quote (s : String) : List Char :=
  '"' :: s.toList.flatMap escape ++ ['"']

/-- The text of a decimal number. -/
def decimalText (x : Float) : List Char :=
  match Binary.ofFloat x with
  | .finite negative significand exponent =>
      (numberFormat.finiteText negative significand exponent).toList
  | _ => "null".toList

mutual

/-- The characters of a document. -/
def write : Json → List Char
  | .null => "null".toList
  | .bool true => "true".toList
  | .bool false => "false".toList
  | .integer i => (toString i).toList
  | .decimal x => decimalText x
  | .text s => quote s
  | .list items => '[' :: writeItems items ++ [']']
  | .object members => '{' :: writeMembers members ++ ['}']

/-- Items with commas between them. -/
def writeItems : List Json → List Char
  | [] => []
  | [item] => write item
  | item :: next :: rest => write item ++ ',' :: writeItems (next :: rest)

/-- Members with commas between them. -/
def writeMembers : List (String × Json) → List Char
  | [] => []
  | [(key, value)] => quote key ++ ':' :: write value
  | (key, value) :: next :: rest =>
      quote key ++ ':' :: write value ++ ',' :: writeMembers (next :: rest)

end

/-- The compact text of a document. -/
def compact (document : Json) : String :=
  String.ofList document.write

end ObjectQuery.Json
