import KeywordBridge.Text.Shortened

/-!
# The limit of a shortened text

A text that is too long for its limit keeps a start and an end of equal length, with three
dots in between. From a limit of eight on there is a character to keep at either end, and
the result fits. Below, too little is cut off to make room for the dots: with no character
to keep, the end is taken for the whole text, and with a negative number of them only as
many are left out of the start and of the end, so that what is in both is written twice.
-/

namespace KeywordBridge

namespace Text

/-- A start and an end of the text, equally long, with three dots between them. -/
def KeepsEnds (text short : Text) : Prop :=
  ∃ start finish : Text, start <+: text ∧ finish <:+ text ∧ finish.length = start.length ∧
    short = start ++ "..." ++ finish

/-! ## Texts that are too long -/

section TooLong

variable {limit : Int} {text : Text} (long : limit < text.length)
include long

theorem shortened_of_lt_length :
    text.shortened limit =
      takeInt (limit / 2 - 3) text ++ "..." ++ dropInt (-(limit / 2 - 3)) text :=
  if_neg (Int.not_le.2 long)

/-- Unless the number of characters to keep is zero, the two ends are equally long. -/
theorem keepsEnds_shortened (ends : limit / 2 ≠ 3) : text.KeepsEnds (text.shortened limit) :=
  ⟨_, _, takeInt_prefix _ _, dropInt_suffix _ _, length_dropInt_neg (by omega) _,
    shortened_of_lt_length long⟩

/-- With no character to keep, the dots stand in front of the whole text. -/
theorem shortened_of_no_ends (noEnds : limit / 2 = 3) :
    text.shortened limit = "..." ++ text := by
  rw [shortened_of_lt_length long, noEnds]
  rfl

theorem length_shortened_of_ends (ends : limit / 2 ≠ 3) :
    (text.shortened limit).length = 2 * (takeInt (limit / 2 - 3) text).length + 3 := by
  have dots : ("..." : Text).length = 3 := rfl
  rw [shortened_of_lt_length long, List.length_append, List.length_append,
    length_dropInt_neg (by omega), dots]
  omega

/-- From eight on, the ends and the dots leave three or four characters unused. -/
theorem length_shortened_of_eight_le (roomy : 8 ≤ limit) :
    ((text.shortened limit).length : Int) = 2 * (limit / 2) - 3 := by
  rw [length_shortened_of_ends long (by omega), length_takeInt, if_neg (by omega)]
  omega

/-- Below eight, the limit is passed. -/
theorem lt_length_shortened (tight : limit < 8) : limit < (text.shortened limit).length := by
  by_cases noEnds : limit / 2 = 3
  · rw [shortened_of_no_ends long noEnds, List.length_append]
    omega
  · rw [length_shortened_of_ends long noEnds, length_takeInt, if_pos (by omega)]
    omega

/-- A longer text fits exactly if there is a character to keep at either end. -/
theorem length_shortened_le_iff : (text.shortened limit).length ≤ limit ↔ 8 ≤ limit := by
  constructor
  · intro fits
    exact Int.not_lt.1 fun tight => Int.not_le.2 (lt_length_shortened long tight) fits
  · intro roomy
    rw [length_shortened_of_eight_le long roomy]
    omega

end TooLong

/-- Whatever the limit, a text keeps to it when shortened exactly if it does so on its own
or the limit is eight or more. A text that fits is kept, and of a longer one two ends of
equal length are kept; but for the limits six and seven the dots are put in front of the
whole text. -/
theorem shortened_fits_iff (limit : Int) (text : Text) :
    let short := text.shortened limit
    (short.length ≤ limit ↔ text.length ≤ limit ∨ 8 ≤ limit) ∧
      if text.length ≤ limit then short = text
      else if limit / 2 = 3 then short = "..." ++ text
      else text.KeepsEnds short := by
  intro short
  by_cases fits : text.length ≤ limit
  · have kept : short = text := shortened_of_length_le fits
    rw [if_pos fits, kept]
    exact ⟨⟨.inl, fun _ => fits⟩, rfl⟩
  · have long : limit < text.length := Int.not_le.1 fits
    rw [if_neg fits, or_iff_right fits]
    refine ⟨length_shortened_le_iff long, ?_⟩
    split
    · next noEnds => exact shortened_of_no_ends long noEnds
    · next ends => exact keepsEnds_shortened long ends

example : shortened 8 "abcdefghi" = ("a...i" : Text) := by decide

/-- Shortened to three characters, four become seven. -/
theorem shortened_past_limit :
    let limit : Int := 3
    let text : Text := "abcd"
    3 ≤ limit ∧ text.shortened limit = ("ab...cd" : Text) ∧
      ¬ (text.shortened limit).length ≤ limit := by
  decide

end Text

end KeywordBridge
