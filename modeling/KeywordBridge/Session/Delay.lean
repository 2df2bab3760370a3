import KeywordBridge.Number.Integer

/-!
# Delays

The delay between a change and its validation is given in milliseconds and kept
in seconds as a double. Schedulers that count in whole units take it from there:
one rounds it to microseconds, another cuts it to milliseconds, so the division
by a thousand may cost a millisecond.
-/

namespace KeywordBridge

/-- Why a number of milliseconds cannot serve as a delay. -/
inductive DelayError where
  | integer (cause : IntegerError)
  /-- The number is larger than every double. -/
  | tooLarge
deriving DecidableEq

/-- The wording of a refusal. -/
def DelayError.message : DelayError → Text
  | .integer cause => cause.message
  | .tooLarge => "int too large to convert to float"

namespace Delay

/-- The delay in milliseconds unless a host asks for another. -/
def default : Int := 500

/-- The delay in seconds. A negative number of milliseconds is no delay. -/
def seconds (milliseconds : Json) : Except DelayError Float := do
  let milliseconds ← milliseconds.toInteger.mapError .integer
  let count := Float.ofNat milliseconds.toNat
  if count.isFinite then return count / 1000.0 else throw .tooLarge

/-- The delay rounded to microseconds, a half going to the even neighbour. -/
def microseconds (seconds : Float) : Int :=
  match Binary64.ofFloat (seconds * 1000000.0) with
  | .finite negative significand exponent =>
      Binary64.roundHalfEven negative significand exponent
  | _ => 0

/-- The delay cut to milliseconds. -/
def milliseconds (seconds : Float) : Int :=
  match Binary64.ofFloat (seconds * 1000.0) with
  | .finite negative significand exponent => Binary64.truncate negative significand exponent
  | _ => 0

end Delay

end KeywordBridge
