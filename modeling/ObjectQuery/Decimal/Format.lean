import ObjectQuery.Decimal.Shortest

/-!
# Number formats

How a finite float is laid out in text. The digits are those of its shortest decimal. A `Format`
holds the decisions that remain: which numbers are written with an exponent, whether a whole number
keeps a zero after its point, and which of two equally close decimals is taken.
-/

namespace ObjectQuery.Decimal

/-- The decisions of a number format. -/
structure Format where
  /-- Numbers whose leading digit has an exponent in this range, its end excluded, are written
  without an exponent; if there is no range, all numbers are. -/
  positional : Option (Int × Int)
  /-- Whether a whole number written without an exponent ends in `.0`. -/
  keepsPoint : Bool
  tie : Tie
deriving Repr

namespace Format

variable (format : Format)

/-- Whether a number whose leading digit stands for `10 ^ leading` has no exponent in its text. -/
def isPositional (leading : Int) : Bool :=
  match format.positional with
  | none => true
  | some (first, limit) => first ≤ leading && leading < limit

/-- Digits with a point in its place and no exponent. -/
def positionalText (digits : List Char) (exponent : Int) : List Char :=
  let whole := digits.length + exponent
  if 0 ≤ exponent then
    digits ++ List.replicate exponent.toNat '0' ++ if format.keepsPoint then ['.', '0'] else []
  else if 0 < whole then digits.take whole.toNat ++ '.' :: digits.drop whole.toNat
  else '0' :: '.' :: (List.replicate (-whole).toNat '0' ++ digits)

/-- Digits with a point after the first one, if there are more, and a signed exponent. -/
def scientificText (digits : List Char) (leading : Int) : List Char :=
  let significand :=
    match digits with
    | first :: second :: rest => first :: '.' :: second :: rest
    | short => short
  let sign := if leading < 0 then '-' else '+'
  significand ++ 'e' :: sign :: (toString leading.natAbs).toList

/-- The text of an unsigned decimal. -/
def decimalText (decimal : Decimal) : List Char :=
  let digits := (toString decimal.digits).toList
  let leading := digits.length - 1 + decimal.exponent
  if format.isPositional leading then format.positionalText digits decimal.exponent
  else scientificText digits leading

/-- The text of `significand * 2 ^ exponent`, negated if `negative`. -/
def finiteText (negative : Bool) (significand : Nat) (exponent : Int) : String :=
  let text := format.decimalText (shortest format.tie significand exponent)
  String.ofList (if negative then '-' :: text else text)

end Format

end ObjectQuery.Decimal
