import KeywordBridge.Text.InversionList

/-!
# Blank characters

A blank is a character that leaves white space on the page or separates items of
text: the Unicode white space together with the four information separators
U+001C to U+001F. A text of blanks alone counts as empty, and blanks are what is
dropped at the ends of a line.
-/

namespace KeywordBridge

/-- White space and the information separators. -/
def blankCharacters : InversionList :=
  [
    9, 14, 28, 33, 0x85, 0x86, 0xa0, 0xa1, 0x1680, 0x1681, 0x2000, 0x200b, 0x2028, 0x202a,
    0x202f, 0x2030, 0x205f, 0x2060, 0x3000, 0x3001
  ]

/-- Is the character white space or an information separator? -/
def isBlankChar (c : Char) : Bool :=
  blankCharacters.contains c.toNat

/-- Every character that is white space in the narrow sense is a blank. -/
theorem isBlankChar_of_isWhitespace {c : Char} (white : c.isWhitespace = true) :
    isBlankChar c = true := by
  simp only [Char.isWhitespace, Bool.or_eq_true, decide_eq_true_eq] at white
  rcases white with ((rfl | rfl) | rfl) | rfl <;> decide

end KeywordBridge
