import KeywordBridge.Number.Power

/-!
# Binary floating-point numbers, exactly

A finite double is an integer times a power of two. Decoding it to that form
makes rounding it to an integer, and choosing decimal digits for it, exact
integer arithmetic.
-/

namespace KeywordBridge

/-- The value of a double. -/
inductive Binary64 where
  /-- The number `significand * 2 ^ exponent`, negated where `negative` holds. -/
  | finite (negative : Bool) (significand : Nat) (exponent : Int)
  | infinite (negative : Bool)
  | notANumber
deriving DecidableEq

namespace Binary64

/-- The value that a bit pattern stands for: a sign bit, eleven bits of biased
exponent and fifty-two bits of fraction. -/
def ofBits (bits : Nat) : Binary64 :=
  let negative := bits / twoTo 63 % 2 == 1
  let biased : Nat := bits / twoTo 52 % twoTo 11
  let fraction := bits % twoTo 52
  if biased = 2047 then
    if fraction = 0 then infinite negative else notANumber
  else if biased = 0 then finite negative fraction (-1074)
  else finite negative (twoTo 52 + fraction) ((biased : Int) - 1075)

/-- The value of a floating-point number. -/
def ofFloat (x : Float) : Binary64 :=
  ofBits x.toBits.toNat

/-- The magnitude of a finite number as a fraction: numerator and denominator. -/
def fraction (significand : Nat) (exponent : Int) : Nat × Nat :=
  (significand * twoTo exponent.toNat, twoTo (-exponent).toNat)

/-- An integer with the given sign. -/
def signed (negative : Bool) (magnitude : Nat) : Int :=
  if negative then -(magnitude : Int) else magnitude

/-- A finite number rounded toward zero. -/
def truncate (negative : Bool) (significand : Nat) (exponent : Int) : Int :=
  let (numerator, denominator) := fraction significand exponent
  signed negative (numerator / denominator)

/-- A finite number rounded to the nearest integer, a half going to the even
neighbour. -/
def roundHalfEven (negative : Bool) (significand : Nat) (exponent : Int) : Int :=
  let (numerator, denominator) := fraction significand exponent
  let floor := numerator / denominator
  let twiceRest := 2 * (numerator % denominator)
  let up := twiceRest > denominator || (twiceRest == denominator && floor % 2 == 1)
  signed negative (if up then floor + 1 else floor)

end Binary64

end KeywordBridge
