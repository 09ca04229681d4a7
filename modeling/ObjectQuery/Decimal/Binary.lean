/-!
# Binary floating-point numbers

The bits of a 64-bit float, decoded into what they stand for: no number, an infinity, or a signed
whole number times a power of two. Text and equality of floats are defined on the decoded form.
-/

namespace ObjectQuery

/-- What a 64-bit float stands for. -/
inductive Binary where
  | nan
  | infinite (negative : Bool)
  /-- The number `significand * 2 ^ exponent`, negated if `negative`; zero has both signs. -/
  | finite (negative : Bool) (significand : Nat) (exponent : Int)
deriving DecidableEq, Repr

namespace Binary

/-- The reading of one sign bit, eleven exponent bits and fifty-two fraction bits. -/
def ofBits (bits : UInt64) : Binary :=
  let negative := bits >>> 63 == 1
  let scale := ((bits >>> 52) &&& 0x7FF).toNat
  let fraction := (bits &&& 0xFFFFFFFFFFFFF).toNat
  if scale = 0x7FF then
    if fraction = 0 then .infinite negative else .nan
  else if scale = 0 then .finite negative fraction (-1074)
  else .finite negative (Nat.pow 2 52 + fraction) ((scale : Int) - 1075)

def ofFloat (x : Float) : Binary :=
  ofBits x.toBits

/-- Numeric equality: no number equals nothing, and the two zeros are equal. -/
def equal : Binary → Binary → Bool
  | .infinite negative, .infinite negative' => negative == negative'
  | .finite negative significand exponent, .finite negative' significand' exponent' =>
      significand == significand' &&
        (significand == 0 || (exponent == exponent' && negative == negative'))
  | _, _ => false

@[simp]
theorem equal_self (x : Binary) : x.equal x = true ↔ x ≠ .nan := by
  cases x <;> simp [equal]

end Binary

end ObjectQuery
