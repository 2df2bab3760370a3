import KeywordBridge.Text.CodePoint

/-!
# Wide encodings

UTF-16 and UTF-32 write a text in units of two or four octets, whose most
significant octet may come first or last. In UTF-32 every unit is a code point.
In UTF-16 a character beyond the basic plane takes two units, a high and a low
surrogate; a surrogate without its partner is kept as it is.
-/

namespace KeywordBridge

/-- Which octet of a unit comes first. -/
inductive OctetOrder where
  | mostFirst
  | leastFirst
deriving DecidableEq

namespace OctetOrder

/-- The value of a unit of octets. -/
def value (order : OctetOrder) (octets : List UInt8) : Nat :=
  let ordered := match order with
    | mostFirst => octets
    | leastFirst => octets.reverse
  ordered.foldl (fun total octet => total * 256 + octet.toNat) 0

/-- Read units of four octets. -/
def points32? (order : OctetOrder) : List UInt8 → Option (List CodePoint)
  | [] => some []
  | a :: b :: c :: d :: rest => do
      let point ← CodePoint.ofValue? (order.value [a, b, c, d])
      return point :: (← points32? order rest)
  | _ => none

/-- Read units of two octets, each for itself. -/
def units16? (order : OctetOrder) : List UInt8 → Option (List CodePoint)
  | [] => some []
  | a :: b :: rest => do
      let unit ← CodePoint.ofValue? (order.value [a, b])
      return unit :: (← units16? order rest)
  | _ => none

end OctetOrder

/-- Join the surrogates that form pairs. -/
def CodePoint.join : List CodePoint → List CodePoint
  | first :: second :: rest =>
      match first.pair? second with
      | some c => .char c :: join rest
      | none => first :: join (second :: rest)
  | points => points

/-- A text has no surrogates to join. -/
theorem CodePoint.join_toPoints (text : Text) : join text.toPoints = text.toPoints := by
  induction text with
  | nil => rfl
  | cons c rest ih =>
      cases rest with
      | nil => rfl
      | cons next others =>
          simp only [Text.toPoints, List.map_cons] at ih ⊢
          simp [join, pair?, ih]

/-- Read units of two octets. -/
def OctetOrder.points16? (order : OctetOrder) (octets : List UInt8) :
    Option (List CodePoint) :=
  (order.units16? octets).map CodePoint.join

end KeywordBridge
