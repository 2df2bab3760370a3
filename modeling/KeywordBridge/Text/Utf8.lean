import KeywordBridge.Text.CodePoint

/-!
# Reading octets as text

Files and requests arrive as octets. In UTF-8 a character takes one to four
octets, and the first octet tells how many. The octet after the first has a
narrower range for some first octets, so that no character can be written in two
ways and, unless it is wanted, no surrogate at all.

Octets that fit into no character are malformed. An incomplete character counts
as one malformed piece up to the octet that does not fit, and that octet starts
anew. A reader that must not fail shows a replacement character for every
malformed piece, a strict reader refuses the whole. Names in a file system are kept
octet by octet: a malformed octet is known by a surrogate.
-/

namespace KeywordBridge

namespace Utf8

/-- A character of which some octets have been read. The next octet has to lie
between `low` and `high`, and `more` octets follow that one. -/
structure Partial where
  value : Nat
  low : UInt8 := 0x80
  high : UInt8 := 0xBF
  more : Nat

/-- What an octet gives that does not continue a character. A piece is a code
point, or nothing where the octets are malformed. Surrogates may be taken or
count as malformed. -/
def start (surrogates : Bool) (octet : UInt8) :
    List (Option CodePoint) × Option Partial :=
  if octet < 0x80 then ([CodePoint.ofValue? octet.toNat], none)
  else if octet < 0xC2 then ([none], none)
  else if octet < 0xE0 then ([], some { value := octet.toNat % 32, more := 0 })
  else if octet = 0xE0 then ([], some { value := octet.toNat % 16, low := 0xA0, more := 1 })
  else if octet = 0xED then
    ([], some {
      value := octet.toNat % 16
      high := if surrogates then 0xBF else 0x9F
      more := 1 })
  else if octet < 0xF0 then ([], some { value := octet.toNat % 16, more := 1 })
  else if octet = 0xF0 then ([], some { value := octet.toNat % 8, low := 0x90, more := 2 })
  else if octet < 0xF4 then ([], some { value := octet.toNat % 8, more := 2 })
  else if octet = 0xF4 then ([], some { value := octet.toNat % 8, high := 0x8F, more := 2 })
  else ([none], none)

/-- What an octet gives behind a partial character. -/
def continued (surrogates : Bool) (character : Partial) (octet : UInt8) :
    List (Option CodePoint) × Option Partial :=
  if character.low ≤ octet ∧ octet ≤ character.high then
    let value := character.value * 64 + octet.toNat % 64
    match character.more with
    | 0 => ([CodePoint.ofValue? value], none)
    | more + 1 => ([], some { value, more })
  else
    let (pieces, next) := start surrogates octet
    (none :: pieces, next)

/-- The pieces of a sequence of octets, the first of which may continue a partial
character. -/
def piecesFrom (surrogates : Bool) : Option Partial → List UInt8 → List (Option CodePoint)
  | none, [] => []
  | some _, [] => [none]
  | none, octet :: rest =>
      let (pieces, next) := start surrogates octet
      pieces ++ piecesFrom surrogates next rest
  | some character, octet :: rest =>
      let (pieces, next) := continued surrogates character octet
      pieces ++ piecesFrom surrogates next rest

/-- The pieces of a sequence of octets. -/
def pieces (surrogates : Bool) (octets : List UInt8) : List (Option CodePoint) :=
  piecesFrom surrogates none octets

/-- The code points that the octets stand for, surrogates included, if none of
the octets is malformed. -/
def points? (octets : List UInt8) : Option (List CodePoint) :=
  (pieces true octets).mapM id

/-- The text that the octets stand for, with replacements where they are
malformed. -/
def decode (octets : List UInt8) : Text :=
  (pieces false octets).map fun piece => (piece.map CodePoint.toChar).getD replacement

/-- Where no octet is malformed, nothing has to be replaced. -/
theorem decode_of_pieces {octets : List UInt8} {text : Text}
    (whole : pieces false octets = text.map fun c => some (.char c)) :
    decode octets = text := by
  simp [decode, whole, Function.comp_def, CodePoint.toChar]

end Utf8

/-- The octets of a text in UTF-8. -/
def Text.toUtf8 (text : Text) : List UInt8 :=
  (String.ofList text).toUTF8.toList

/-- The octets that a code point stands for. An octet that is part of no character is
known as the surrogate whose number is greater by 0xDC00; all other surrogates stand
for no octets. -/
def CodePoint.octets? : CodePoint → Option (List UInt8)
  | char c => some (String.utf8EncodeChar c)
  | surrogate offset =>
      if 0x480 ≤ offset.val ∧ offset.val < 0x500 then some [UInt8.ofNat (offset.val - 0x400)]
      else none

/-- The octets that code points stand for, if each of them stands for some. -/
def Utf8.encode? : List CodePoint → Option (List UInt8)
  | [] => some []
  | point :: rest => do return (← point.octets?) ++ (← encode? rest)

end KeywordBridge
