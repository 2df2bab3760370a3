import KeywordBridge.Text.Basic

/-!
# Shortened texts

A label has room for a limited number of characters. A text that is too long for
it loses its middle: a start and an end of equal length remain, with three dots
between them.
-/

namespace KeywordBridge

namespace Text

/-- The number of characters in a label unless it is chosen otherwise. -/
def defaultLabelLength : Int := 60

/-- The text in at most `limit` characters. Limits below three leave no room for
the dots. From seven characters down nothing is left to cut the text by: an end
of no characters is taken for the whole text, and a negative length counts from
the other end. -/
def shortened (limit : Int) (text : Text) : Text :=
  if text.length ≤ limit then text
  else
    let kept := limit / 2 - 3
    takeInt kept text ++ "..." ++ dropInt (-kept) text

/-- A text that fits is kept. -/
theorem shortened_of_length_le {limit : Int} {text : Text} (fits : text.length ≤ limit) :
    text.shortened limit = text := by
  simp [shortened, fits]

end Text

end KeywordBridge
