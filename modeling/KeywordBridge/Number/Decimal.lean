import KeywordBridge.Number.Binary64
import KeywordBridge.Text.Basic

/-!
# Decimal notation

Integers are written in plain decimal digits. A floating-point number is written
with the fewest digits that read back as the same number, and among those with
the digits nearest to it. Numbers from 0.0001 up to, but not including, 10^16 are
written positionally, with at least one digit after the point; all others are
written with an exponent of at least two digits.
-/

namespace KeywordBridge

namespace Text

/-- The decimal digits of a natural number. -/
def ofNat (n : Nat) : Text :=
  Nat.toDigits 10 n

/-- The decimal digits of an integer, with a minus sign where it is negative. -/
def ofInt (i : Int) : Text :=
  if i < 0 then '-' :: ofNat i.natAbs else ofNat i.natAbs

end Text

namespace Binary64

/-- The numbers that read back as a positive double form an interval. Its ends
lie halfway to the neighbouring doubles and belong to it when the significand is
even. Lower end, value and upper end have the common denominator `denominator`. -/
structure Interval where
  lower : Nat
  value : Nat
  upper : Nat
  denominator : Nat
  closed : Bool

/-- The interval of a positive double. The neighbour below a power of two is half
as far away as the one above, except at the smallest exponent. -/
def interval (significand : Nat) (exponent : Int) : Interval :=
  let gapBelow := if significand = twoTo 52 && exponent > -1074 then 1 else 2
  let scaled (quarters : Nat) := quarters * twoTo (exponent - 2).toNat
  { lower := scaled (4 * significand - gapBelow)
    value := scaled (4 * significand)
    upper := scaled (4 * significand + 2)
    denominator := twoTo (2 - exponent).toNat
    closed := significand % 2 == 0 }

/-- Does the decimal number `digits * 10 ^ place` read back as the double? -/
def Interval.contains (range : Interval) (digits : Nat) (place : Int) : Bool :=
  let point := digits * tenTo place.toNat * range.denominator
  let scale := tenTo (-place).toNat
  if range.closed then range.lower * scale ≤ point && point ≤ range.upper * scale
  else range.lower * scale < point && point < range.upper * scale

/-- The decimal exponent of the first digit of a positive value. -/
def leadingPlace (range : Interval) : Int :=
  if range.denominator ≤ range.value then
    (Nat.toDigits 10 (range.value / range.denominator)).length - 1
  else
    match (List.range 330).find?
        (fun k => range.denominator ≤ range.value * tenTo (k + 1)) with
    | some k => -((k : Int) + 1)
    | none => -331

/-- The better of the two neighbours of the value with the given last place, if
one of them reads back as the double. -/
def neighbour? (range : Interval) (place : Int) : Option Nat :=
  let numerator := range.value * tenTo (-place).toNat
  let denominator := range.denominator * tenTo place.toNat
  let below := numerator / denominator
  let twiceRest := 2 * (numerator % denominator)
  let preferAbove :=
    twiceRest > denominator || (twiceRest == denominator && below % 2 == 1)
  match range.contains below place && below != 0, range.contains (below + 1) place with
  | true, true => some (if preferAbove then below + 1 else below)
  | true, false => some below
  | false, true => some (below + 1)
  | false, false => none

/-- The fewest digits that read back as the double, and the decimal exponent of
the last of them. -/
def shortestDigits (significand : Nat) (exponent : Int) : Nat × Int :=
  let range := interval significand exponent
  let leading := leadingPlace range
  let found := (List.range 17).findSome? fun (extra : Nat) =>
    let place := leading - extra
    (neighbour? range place).map (·, place)
  found.getD (range.value / range.denominator, 0)

/-- Drop the zeros at the end of a decimal number; each raises the last place. -/
def dropZeros : Nat → Nat → Int → Nat × Int
  | 0, digits, place => (digits, place)
  | fuel + 1, digits, place =>
      if digits != 0 && digits % 10 == 0 then dropZeros fuel (digits / 10) (place + 1)
      else (digits, place)

/-- The notation of a positive number with the given digits, `point` of which
stand before the decimal point. -/
def positionalOrScientific (digits : Text) (point : Int) : Text :=
  if -4 < point && point ≤ 16 then
    if point ≤ 0 then "0." ++ List.replicate (-point).toNat '0' ++ digits
    else
      let whole := digits.take point.toNat
      let rest := digits.drop point.toNat
      whole ++ List.replicate (point.toNat - whole.length) '0' ++ "."
        ++ (if rest.isEmpty then ['0'] else rest)
  else
    let exponent := point - 1
    let exponentDigits := Text.ofNat exponent.natAbs
    let mantissa :=
      match digits with
      | [] => []
      | [digit] => [digit]
      | digit :: rest => digit :: '.' :: rest
    mantissa ++ (if exponent < 0 then "e-" else "e+")
      ++ (if exponentDigits.length < 2 then '0' :: exponentDigits else exponentDigits)

/-- The decimal notation of a double. -/
def toText : Binary64 → Text
  | notANumber => "nan"
  | infinite negative => if negative then "-inf" else "inf"
  | finite negative significand exponent =>
      let magnitude : Text :=
        if significand = 0 then "0.0"
        else
          let (shortest, place) := shortestDigits significand exponent
          let (digits, last) := dropZeros 20 shortest place
          let text := Text.ofNat digits
          positionalOrScientific text (text.length + last)
      if negative then '-' :: magnitude else magnitude

end Binary64

end KeywordBridge
