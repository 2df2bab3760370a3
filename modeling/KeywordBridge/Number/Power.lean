/-!
# Powers of two and ten

The scales on which binary and decimal numbers are compared.
-/

namespace KeywordBridge

/-- Two to the given power. -/
def twoTo (exponent : Nat) : Nat :=
  Nat.pow 2 exponent

/-- Ten to the given power. -/
def tenTo (exponent : Nat) : Nat :=
  Nat.pow 10 exponent

/-- The next power of two is twice as large. -/
theorem twoTo_succ (exponent : Nat) : twoTo (exponent + 1) = twoTo exponent * 2 :=
  rfl

/-- The next power of ten is ten times as large. -/
theorem tenTo_succ (exponent : Nat) : tenTo (exponent + 1) = tenTo exponent * 10 :=
  rfl

end KeywordBridge
