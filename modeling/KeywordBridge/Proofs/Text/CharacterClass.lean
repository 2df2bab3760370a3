import KeywordBridge.Text.Blank
import KeywordBridge.Text.Digit
import KeywordBridge.Text.Word

/-!
# How the character classes lie to each other

Blanks, decimal digits and word characters are given as inversion lists. Whether
one set lies within another is decided by comparing intervals, so that nothing
has to be enumerated: every decimal digit is a word character, and no blank is
one. The complement of a set is written by one more boundary at its beginning.
-/

namespace KeywordBridge

namespace InversionList

/-- The boundaries without the intervals that end at or before a point. -/
def startingAt : InversionList → (point : Nat) → InversionList
  | lower :: upper :: rest, point =>
      if (lower.ble point && upper.ble point) = true then startingAt rest point
      else lower :: upper :: rest
  | [boundary], _ => [boundary]
  | [], _ => []

/-- Is every interval of the first set within an interval of the second? Both
sets are walked through once. -/
def within : InversionList → InversionList → Bool
  | [], _ => true
  | [_], _ => false
  | first :: last :: rest, outer =>
      match outer.startingAt first with
      | lower :: upper :: more =>
          lower.ble first && last.ble upper && within rest (lower :: upper :: more)
      | _ => false

/-- Intervals that end at or before a point have no point from there on. -/
theorem contains_startingAt (boundaries : InversionList) {first point : Nat}
    (behind : first ≤ point) :
    (boundaries.startingAt first).contains point = boundaries.contains point := by
  fun_induction startingAt boundaries first with
  | case1 lower upper rest first passed ih =>
      simp only [Bool.and_eq_true, Nat.ble_eq] at passed
      rw [ih behind, contains_cons_cons, if_neg (by omega), if_neg (by omega)]
  | case2 => rfl
  | case3 => rfl
  | case4 => rfl

/-- A set that lies within another has all its points there. -/
theorem contains_of_within {inner outer : InversionList} {point : Nat}
    (inside : inner.within outer = true) (member : inner.contains point = true) :
    outer.contains point = true := by
  fun_induction within inner outer with
  | case1 => simp [contains, containsFrom] at member
  | case2 => simp at inside
  | case3 first last rest outer lower upper more started ih =>
      simp only [Bool.and_eq_true, Nat.ble_eq] at inside
      obtain ⟨⟨fromLower, toUpper⟩, later⟩ := inside
      rw [contains_cons_cons] at member
      split at member
      · simp at member
      · rw [← contains_startingAt outer (show first ≤ point by omega), started]
        split at member
        · rw [contains_cons_cons, if_neg (by omega), if_pos (by omega)]
        · exact ih later member
  | case4 => simp at inside

theorem containsFrom_not (inside : Bool) (boundaries : InversionList) (point : Nat) :
    containsFrom (!inside) boundaries point = !containsFrom inside boundaries point := by
  induction boundaries generalizing inside with
  | nil => rfl
  | cons boundary rest ih =>
      simp only [containsFrom]
      split
      · rfl
      · exact ih (!inside)

/-- A boundary at zero turns a set into its complement. -/
theorem contains_zero_cons (boundaries : InversionList) (point : Nat) :
    contains (0 :: boundaries) point = !contains boundaries point := by
  rw [contains, containsFrom, if_neg (Nat.not_lt_zero point)]
  exact containsFrom_not false boundaries point

end InversionList

theorem decimalDigits_within : decimalDigits.within alphanumericCharacters = true := by
  decide +kernel

theorem blankCharacters_within : blankCharacters.within (0 :: alphanumericCharacters) = true := by
  decide +kernel

/-- Every decimal digit is a word character. -/
theorem isWordChar_of_isDecimalDigit {c : Char} (digit : isDecimalDigit c = true) :
    isWordChar c = true := by
  have alphanumeric := InversionList.contains_of_within decimalDigits_within digit
  simp [isWordChar, alphanumeric]

/-- No word character is a blank. -/
theorem isBlankChar_eq_false_of_isWordChar {c : Char} (word : isWordChar c = true) :
    isBlankChar c = false := by
  cases blank : isBlankChar c with
  | false => rfl
  | true =>
      have outside := InversionList.contains_of_within blankCharacters_within blank
      rw [InversionList.contains_zero_cons, Bool.not_eq_true'] at outside
      rw [isWordChar, outside, Bool.or_false, beq_iff_eq] at word
      subst word
      exact absurd blank (by decide)

end KeywordBridge
