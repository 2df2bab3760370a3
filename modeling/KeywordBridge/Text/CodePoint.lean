import KeywordBridge.Text.Basic

/-!
# Code points

A code point is a number below 0x110000. All code points are characters but for
2048 of them, the surrogates, which stand for a character only in pairs of a high
and a low one. Data from outside may hold a surrogate that stands alone, so it is
read as a list of code points, in which nothing is lost. A program is a text, and
where a program is wanted a surrogate gives way to the replacement character,
which is neither a blank nor part of a word, just as the surrogate is.
-/

namespace KeywordBridge

/-- A code point. -/
inductive CodePoint where
  | char (c : Char)
  /-- The surrogate at this distance from the first one. -/
  | surrogate (offset : Fin 2048)
deriving DecidableEq

/-- What stands for something that is no character. -/
def replacement : Char := '\uFFFD'

namespace CodePoint

/-- The number of a code point. -/
def value : CodePoint → Nat
  | char c => c.toNat
  | surrogate offset => 0xD800 + offset.val

/-- The code point with a given number. -/
def ofValue? (value : Nat) : Option CodePoint :=
  if bounds : 0xD800 ≤ value ∧ value < 0xE000 then
    some (.surrogate ⟨value - 0xD800, by omega⟩)
  else if value < 0x110000 then some (.char (Char.ofNat value))
  else none

/-- Code points are ordered by their numbers. -/
instance : LT CodePoint := ⟨fun first second => first.value < second.value⟩

instance : DecidableLT CodePoint := fun first second =>
  inferInstanceAs (Decidable (first.value < second.value))

/-- Every code point is known by its number. -/
theorem ofValue?_value (point : CodePoint) : ofValue? point.value = some point := by
  cases point with
  | char c =>
      have valid : c.toNat < 0xD800 ∨ 0xDFFF < c.toNat ∧ c.toNat < 0x110000 := c.valid
      have outside : ¬ (0xD800 ≤ c.toNat ∧ c.toNat < 0xE000) := by omega
      have below : c.toNat < 0x110000 := by omega
      simp [ofValue?, value, outside, below]
  | surrogate offset =>
      have bounds : 0xD800 ≤ 0xD800 + offset.val ∧ 0xD800 + offset.val < 0xE000 := by omega
      simp [ofValue?, value, bounds]

/-- Is this a surrogate? -/
def isSurrogate : CodePoint → Bool
  | surrogate _ => true
  | char _ => false

/-- Is this the first of a pair of surrogates? -/
def isHigh : CodePoint → Bool
  | surrogate offset => offset.val < 1024
  | char _ => false

/-- The character that a high and a low surrogate stand for. -/
def pair? : CodePoint → CodePoint → Option Char
  | surrogate high, surrogate low =>
      if high.val < 1024 ∧ 1024 ≤ low.val then
        some (Char.ofNat (0x10000 + high.val * 1024 + (low.val - 1024)))
      else none
  | _, _ => none

/-- The character in a text that stands for a code point. -/
def toChar : CodePoint → Char
  | char c => c
  | surrogate _ => replacement

end CodePoint

namespace Text

/-- A text as code points. -/
def toPoints (text : Text) : List CodePoint :=
  text.map .char

/-- The text of code points, with replacements for surrogates. -/
def ofPoints (points : List CodePoint) : Text :=
  points.map CodePoint.toChar

/-- A text is not changed on the way through code points. -/
theorem ofPoints_toPoints (text : Text) : ofPoints text.toPoints = text := by
  simp [ofPoints, toPoints, Function.comp_def, CodePoint.toChar]

/-- A code point takes one character of a text. -/
theorem length_ofPoints (points : List CodePoint) :
    (ofPoints points).length = points.length := by
  simp [ofPoints]

end Text

/-- A text is read as the list of its code points. -/
instance : Coe Text (List CodePoint) := ⟨Text.toPoints⟩

end KeywordBridge
