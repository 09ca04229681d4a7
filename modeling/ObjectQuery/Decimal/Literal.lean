import ObjectQuery.Decimal.Shortest

/-!
# Decimal literals

Numbers read from text: a sign, digits, a fraction and an exponent. A literal is kept exactly, as a
signed decimal, and rounded to a float only on demand. `Literal.scan?` reads the longest literal at
the head of a text and returns what follows it.
-/

namespace ObjectQuery.Decimal

/-- Decimals whose leading digit stands for less than `10 ^ -400` are below half of the least
positive float, and those above `10 ^ 400` are beyond the greatest finite one. -/
def magnitudeLimit : Int := 400

/-- The exponent of the leading digit. -/
def leading (decimal : Decimal) : Int :=
  (toString decimal.digits).length - 1 + decimal.exponent

/-- The nearest float, which may be zero or infinite. -/
def toFloat (decimal : Decimal) : Float :=
  if decimal.digits = 0 ∨ decimal.leading < -magnitudeLimit then 0.0
  else if magnitudeLimit < decimal.leading then 1.0 / 0.0
  else Float.ofScientific decimal.digits (decimal.exponent < 0) decimal.exponent.natAbs

/-- The nearest 32-bit float, which may be zero or infinite, widened to 64 bits. -/
def toNarrowFloat (decimal : Decimal) : Float :=
  if decimal.digits = 0 ∨ decimal.leading < -magnitudeLimit then 0.0
  else if magnitudeLimit < decimal.leading then 1.0 / 0.0
  else
    (Float32.ofScientific decimal.digits (decimal.exponent < 0) decimal.exponent.natAbs).toFloat

/-- A number as it was written. -/
structure Literal where
  negative : Bool
  decimal : Decimal
  /-- The number was written without a point and without an exponent. -/
  whole : Bool
deriving DecidableEq, Repr

/-- A whole number as a literal. -/
def Literal.ofInt (i : Int) : Literal where
  negative := decide (i < 0)
  decimal := { digits := i.natAbs, exponent := 0 }
  whole := true

/-- The number that a run of digits stands for. -/
def ofDigits (digits : List Char) : Nat :=
  digits.foldl (fun value digit => 10 * value + (digit.toNat - '0'.toNat)) 0

/-- A fraction's digits, if the text starts with a point. A point needs a digit after it. -/
def scanFraction? (text : List Char) : Option (List Char × List Char) :=
  match text with
  | '.' :: rest =>
      let (digits, following) := rest.span Char.isDigit
      if digits.isEmpty then none else some (digits, following)
  | _ => some ([], text)

/-- An exponent, if the text starts with its mark. The mark needs a digit after it. -/
def scanExponent? (text : List Char) : Option (Option Int × List Char) :=
  let magnitude? (negate : Bool) (rest : List Char) :=
    let (digits, following) := rest.span Char.isDigit
    if digits.isEmpty then none
    else some (some (if negate then -(ofDigits digits : Int) else ofDigits digits), following)
  let signed? (rest : List Char) :=
    match rest with
    | '-' :: rest => magnitude? true rest
    | '+' :: rest => magnitude? false rest
    | _ => magnitude? false rest
  match text with
  | 'e' :: rest => signed? rest
  | 'E' :: rest => signed? rest
  | _ => some (none, text)

/-- The literal at the head of a text, and the text after it. -/
def Literal.scan? (text : List Char) : Option (Literal × List Char) := do
  let (negative, unsigned) :=
    match text with
    | '-' :: rest => (true, rest)
    | _ => (false, text)
  let (digits, afterDigits) := unsigned.span Char.isDigit
  if digits.isEmpty then none
  let (fraction, afterFraction) ← scanFraction? afterDigits
  let (exponent, following) ← scanExponent? afterFraction
  let decimal :=
    { digits := ofDigits (digits ++ fraction), exponent := exponent.getD 0 - fraction.length }
  some ({ negative, decimal, whole := fraction.isEmpty && exponent.isNone }, following)

/-- The literal that a whole text is. -/
def Literal.read? (text : String) : Option Literal :=
  match Literal.scan? text.toList with
  | some (literal, []) => some literal
  | _ => none

/-- The nearest float, with the sign of the literal also on zero. -/
def Literal.toFloat (literal : Literal) : Float :=
  if literal.negative then -literal.decimal.toFloat else literal.decimal.toFloat

/-- The nearest 32-bit float, widened, with the sign of the literal also on zero. -/
def Literal.toNarrowFloat (literal : Literal) : Float :=
  if literal.negative then -literal.decimal.toNarrowFloat else literal.decimal.toNarrowFloat

/-- The whole number that a literal without point and exponent stands for. -/
def Literal.toInt? (literal : Literal) : Option Int :=
  if literal.whole then
    some (if literal.negative then -(literal.decimal.digits : Int) else literal.decimal.digits)
  else none

end ObjectQuery.Decimal
