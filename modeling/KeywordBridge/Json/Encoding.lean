import KeywordBridge.Json.Reader
import KeywordBridge.Text.Utf8
import KeywordBridge.Text.WideEncoding

/-!
# The encoding of a JSON document

A document may say how it is encoded by a mark at its start. Without a mark the
zeros among its first four octets tell: a document starts with two characters
below the octet 128, whose units in a wide encoding hold zeros. Everything else
is read as UTF-8.
-/

namespace KeywordBridge

/-- The encodings that a document may have. -/
inductive JsonEncoding where
  | utf8
  | utf16 (order : OctetOrder)
  | utf32 (order : OctetOrder)
deriving DecidableEq

namespace JsonEncoding

/-- The encoding of a document without a mark. -/
def ofZeros : List UInt8 → JsonEncoding
  | [0, _] => .utf16 .mostFirst
  | [_, 0] => .utf16 .leastFirst
  | 0 :: second :: _ :: _ :: _ =>
      if second = 0 then .utf32 .mostFirst else .utf16 .mostFirst
  | _ :: 0 :: third :: fourth :: _ =>
      if third = 0 ∧ fourth = 0 then .utf32 .leastFirst else .utf16 .leastFirst
  | _ => .utf8

/-- The encoding of a document, with its octets behind the mark. -/
def detect : List UInt8 → JsonEncoding × List UInt8
  | 0x00 :: 0x00 :: 0xFE :: 0xFF :: rest => (.utf32 .mostFirst, rest)
  | 0xFF :: 0xFE :: 0x00 :: 0x00 :: rest => (.utf32 .leastFirst, rest)
  | 0xFE :: 0xFF :: rest => (.utf16 .mostFirst, rest)
  | 0xFF :: 0xFE :: rest => (.utf16 .leastFirst, rest)
  | 0xEF :: 0xBB :: 0xBF :: rest => (.utf8, rest)
  | octets => (ofZeros octets, octets)

/-- The code points of octets in this encoding. -/
def points? : JsonEncoding → List UInt8 → Option (List CodePoint)
  | utf8, octets => Utf8.points? octets
  | utf16 order, octets => order.points16? octets
  | utf32 order, octets => order.points32? octets

end JsonEncoding

/-- The value that the octets of a document stand for, in which arrays and objects are
nested up to a limit. -/
def Json.ofOctets (limit : Nat) (octets : List UInt8) : Except ReadError Json := do
  let (encoding, octets) := JsonEncoding.detect octets
  Json.read limit (← expected (encoding.points? octets))

end KeywordBridge
