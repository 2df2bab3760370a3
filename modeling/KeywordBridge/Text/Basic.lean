import KeywordBridge.Text.Blank
import KeywordBridge.Text.Digit
import KeywordBridge.Text.Word

/-!
# Texts

A text is a list of characters, so that a position counts characters and every
scan is a recursion on the rest of the text. The operations here are the ones
that several parts of the library share: cutting a text into lines, trimming
blanks, and recognising words, names and the boundaries between words.
-/

namespace KeywordBridge

/-- A text as the list of its characters. -/
abbrev Text := List Char

/-- A string is read as the text of its characters. -/
instance : Coe String Text := ⟨String.toList⟩

namespace Text

/-! ## Lines -/

/-- The parts of a list between the occurrences of a mark. There is one part more
than there are marks, so the empty list has one empty part. -/
def cutAt {α : Type} [DecidableEq α] (mark : α) : List α → List (List α)
  | [] => [[]]
  | c :: rest =>
      if c = mark then [] :: cutAt mark rest
      else
        match cutAt mark rest with
        | [] => [[c]]
        | part :: others => (c :: part) :: others

section

variable {α : Type} [DecidableEq α]

/-- A list always has a first part. -/
theorem cutAt_ne_nil (mark : α) (items : List α) : cutAt mark items ≠ [] := by
  cases items with
  | nil => simp [cutAt]
  | cons c rest =>
      simp only [cutAt]
      split
      · simp
      · split <;> simp

/-- There is one part more than there are marks. -/
theorem length_cutAt (mark : α) (items : List α) :
    (cutAt mark items).length = items.count mark + 1 := by
  induction items with
  | nil => rfl
  | cons c rest ih =>
      by_cases h : c = mark
      · simp [cutAt, h, ih]
      · have := cutAt_ne_nil mark rest
        cases hc : cutAt mark rest with
        | nil => contradiction
        | cons part others => simp_all [cutAt]

end

/-- The lines of a text, cut at every line feed. -/
def lines (text : Text) : List Text :=
  cutAt '\n' text

/-- A text always has a first line. -/
theorem lines_ne_nil (text : Text) : text.lines ≠ [] :=
  cutAt_ne_nil '\n' text

/-- There is one line more than there are line feeds. -/
theorem length_lines (text : Text) : text.lines.length = text.count '\n' + 1 :=
  length_cutAt '\n' text

/-- Whichever way the lines of a text end, let them end with a line feed: a
carriage return counts together with a line feed that follows it. -/
def unifyLineEnds : Text → Text
  | [] => []
  | '\r' :: '\n' :: rest => '\n' :: unifyLineEnds rest
  | '\r' :: rest => '\n' :: unifyLineEnds rest
  | c :: rest => c :: unifyLineEnds rest

/-! ## Trimming -/

/-- Drop the longest end of the text all of whose characters satisfy `p`. -/
def dropEndWhile (p : Char → Bool) (text : Text) : Text :=
  (text.reverse.dropWhile p).reverse

/-- Drop the blanks at the end. -/
def trimEnd (text : Text) : Text :=
  text.dropEndWhile isBlankChar

/-- Drop the blanks at both ends. -/
def trim (text : Text) : Text :=
  trimEnd (text.dropWhile isBlankChar)

/-- Drop the carriage returns at the end, which a line keeps when the file it
comes from ends its lines with a return and a line feed. -/
def dropReturns (text : Text) : Text :=
  text.dropEndWhile (· == '\r')

/-- Does the text consist of blanks alone? -/
def isBlank (text : Text) : Bool :=
  text.all isBlankChar

/-! ## Words and names -/

/-- Is there a word character on this side of a position? The ends of the text
count as no word character. -/
def isWordSide : Option Char → Bool
  | some c => isWordChar c
  | none => false

/-- A position is a word boundary when exactly one of its sides has a word
character. -/
def isBoundary (before after : Option Char) : Bool :=
  isWordSide before != isWordSide after

/-- May a name start with this character? A name is a word that does not start
with a decimal digit. -/
def startsName (c : Char) : Bool :=
  isWordChar c && !isDecimalDigit c

/-- The name at the start of the text, with what follows it. -/
def name? : Text → Option (Text × Text)
  | c :: rest =>
      if startsName c then some (c :: rest.takeWhile isWordChar, rest.dropWhile isWordChar)
      else none
  | [] => none

/-- A name and what follows it make up the text. -/
theorem name?_append {text name rest : Text} (found : text.name? = some (name, rest)) :
    text = name ++ rest := by
  cases text with
  | nil => simp [name?] at found
  | cons c tail =>
      simp only [name?] at found
      split at found
      · cases found
        simp
      · simp at found

/-- What follows `start`, when the text starts with it. -/
def dropStart? (start text : Text) : Option Text :=
  if start.isPrefixOf text then some (text.drop start.length) else none

/-- What follows at least one blank at the start of the text. -/
def dropBlanks? : Text → Option Text
  | c :: rest => if isBlankChar c then some (rest.dropWhile isBlankChar) else none
  | [] => none

/-- The maximal word at the end of the text, less the decimal digits it starts
with: the name that is being typed there. -/
def lastName (text : Text) : Text :=
  ((text.reverse.takeWhile isWordChar).reverse).dropWhile isDecimalDigit

/-! ## Cutting to size -/

/-- The first characters up to a limit; a negative limit counts from the end. -/
def takeInt {α : Type} (limit : Int) (items : List α) : List α :=
  if limit < 0 then items.take (items.length - limit.natAbs) else items.take limit.natAbs

/-- What remains after a number of items; a negative number counts from the
end. -/
def dropInt {α : Type} (start : Int) (items : List α) : List α :=
  if start < 0 then items.drop (items.length - start.natAbs) else items.drop start.natAbs

section

variable {α : Type}

theorem takeInt_prefix (limit : Int) (items : List α) : takeInt limit items <+: items := by
  rw [takeInt]
  split <;> exact List.take_prefix _ _

theorem dropInt_suffix (start : Int) (items : List α) : dropInt start items <:+ items := by
  rw [dropInt]
  split <;> exact List.drop_suffix _ _

theorem length_takeInt (limit : Int) (items : List α) :
    (takeInt limit items).length =
      if limit < 0 then items.length - limit.natAbs else min limit.natAbs items.length := by
  rw [takeInt, apply_ite List.length, List.length_take, List.length_take,
    Nat.min_eq_left (Nat.sub_le _ _)]

/-- A limit that is large enough for all cuts off none. -/
theorem takeInt_of_length_le {limit : Int} {items : List α} (large : items.length ≤ limit) :
    takeInt limit items = items := by
  rw [takeInt, if_neg (by omega), List.take_of_length_le (by omega)]

/-- As many are left from the other end as are taken from the start, unless none are
taken. -/
theorem length_dropInt_neg {kept : Int} (nonzero : kept ≠ 0) (items : List α) :
    (dropInt (-kept) items).length = (takeInt kept items).length := by
  rw [length_takeInt, dropInt, apply_ite List.length, List.length_drop, List.length_drop,
    Int.natAbs_neg]
  -- Only at zero would both sides count from the start.
  rcases Int.lt_or_gt_of_ne nonzero with negative | positive
  · rw [if_neg (by omega), if_pos negative]
  · rw [if_pos (by omega), if_neg (by omega)]
    omega

end

end Text

end KeywordBridge
