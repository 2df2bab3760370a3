import KeywordBridge.Text.Basic

/-!
# Keywords in a text

A keyword stands at a position of a text when its characters follow there and
both of its ends are word boundaries, so a keyword that is part of a longer word
is not one. Where several keywords stand at one position the longest counts.
Reading a text from left to right in this way cuts it into segments: keywords,
and single characters outside them. What a text contains and how it is
translated are both read off its segments.

The empty word stands at every word boundary where no longer keyword does. It
takes up no characters, so the character after it is kept and the search goes on
behind that character.
-/

namespace KeywordBridge

/-- Does the word stand at the start of the text, where `before` is the
character in front of it? -/
def standsAt (before : Option Char) (text word : Text) : Bool :=
  word.isPrefixOf text && Text.isBoundary before text.head? &&
    Text.isBoundary (word.getLast?.or before) (text.drop word.length).head?

/-- The longest word of a list, the earlier one of two equally long. -/
def longest? : List Text → Option Text
  | [] => none
  | word :: others =>
      match longest? others with
      | none => some word
      | some other => if other.length ≤ word.length then some word else some other

/-- The longest word is one of the list. -/
theorem mem_of_longest? {words : List Text} {word : Text} (found : longest? words = some word) :
    word ∈ words := by
  induction words generalizing word with
  | nil => simp [longest?] at found
  | cons first others ih =>
      simp only [longest?] at found
      split at found
      · simp_all
      · split at found <;> simp_all

/-- No word of the list is longer than the longest. -/
theorem length_le_of_longest? {words : List Text} {word : Text}
    (found : longest? words = some word) : ∀ other ∈ words, other.length ≤ word.length := by
  induction words generalizing word with
  | nil => simp
  | cons first others ih =>
      simp only [longest?] at found
      split at found
      · rename_i none_left
        cases others with
        | nil => simp_all
        | cons second rest =>
            simp only [longest?] at none_left
            split at none_left
            · simp at none_left
            · split at none_left <;> simp at none_left
      · rename_i other is_longest
        have below := ih is_longest
        split at found
        · cases found
          simp only [List.mem_cons, forall_eq_or_imp, Nat.le_refl, true_and]
          intro w listed
          exact Nat.le_trans (below w listed) ‹_›
        · cases found
          simp only [List.mem_cons, forall_eq_or_imp]
          exact ⟨by omega, below⟩

/-- The keyword that stands at the start of the text. -/
def keywordAt? (words : List Text) (before : Option Char) (text : Text) : Option Text :=
  longest? (words.filter (standsAt before text))

/-- A keyword that is found belongs to the list and stands there. -/
theorem standsAt_of_keywordAt? {words : List Text} {before : Option Char} {text word : Text}
    (found : keywordAt? words before text = some word) :
    word ∈ words ∧ standsAt before text word = true :=
  List.mem_filter.1 (mem_of_longest? found)

/-- A piece of a text: a keyword, or a character outside all keywords. -/
inductive Segment where
  | kept (c : Char)
  | keyword (word : Text)
deriving DecidableEq

namespace Segment

/-- The characters of the text that the segment covers. -/
def source : Segment → Text
  | kept c => [c]
  | keyword word => word

/-- The segment with a keyword replaced by its image. -/
def render (image : Text → Text) : Segment → Text
  | kept c => [c]
  | keyword word => image word

/-- Is the segment a keyword? -/
def isKeyword : Segment → Bool
  | kept _ => false
  | keyword _ => true

/-- Replacing every keyword by itself gives the covered characters back. -/
@[simp]
theorem render_id (segment : Segment) : segment.render id = segment.source := by
  cases segment <;> rfl

end Segment

/-- The segments of a text whose first `covered` characters belong to a keyword
found earlier. -/
def segmentsFrom (words : List Text) :
    (covered : Nat) → (before : Option Char) → Text → List Segment
  | _, before, [] =>
      match keywordAt? words before [] with
      | some word => [.keyword word]
      | none => []
  | covered + 1, _, c :: rest => segmentsFrom words covered (some c) rest
  | 0, before, c :: rest =>
      match keywordAt? words before (c :: rest) with
      | none => .kept c :: segmentsFrom words 0 (some c) rest
      | some [] => .keyword [] :: .kept c :: segmentsFrom words 0 (some c) rest
      | some (first :: others) =>
          .keyword (first :: others) :: segmentsFrom words others.length (some c) rest

/-- The segments of a text with respect to a list of keywords. -/
def segments (words : List Text) (text : Text) : List Segment :=
  segmentsFrom words 0 none text

/-- The segments cover the text from where the last keyword ends, in order and
without a gap. -/
theorem flatMap_source_segmentsFrom (words : List Text) (covered : Nat) (before : Option Char)
    (text : Text) :
    (segmentsFrom words covered before text).flatMap Segment.source = text.drop covered := by
  fun_induction segmentsFrom words covered before text with
  | case1 covered before word found =>
      have stands := (standsAt_of_keywordAt? found).2
      simp only [standsAt, Bool.and_eq_true, List.isPrefixOf_iff_prefix, List.prefix_nil] at stands
      simp [Segment.source, stands]
  | case2 => simp
  | case3 before covered c rest ih => simpa using ih
  | case4 before c rest found ih => simpa [Segment.source] using ih
  | case5 before c rest found ih => simpa [Segment.source] using ih
  | case6 before c rest first others found ih =>
      have stands := (standsAt_of_keywordAt? found).2
      simp only [standsAt, Bool.and_eq_true, List.isPrefixOf_iff_prefix] at stands
      obtain ⟨⟨⟨tail, cut⟩, -⟩, -⟩ := stands
      rw [List.flatMap_cons, ih]
      simp only [List.cons_append, List.cons.injEq] at cut
      obtain ⟨rfl, rfl⟩ := cut
      simp [Segment.source]

/-- The segments of a text make up the text. -/
theorem flatMap_source_segments (words : List Text) (text : Text) :
    (segments words text).flatMap Segment.source = text := by
  simp [segments, flatMap_source_segmentsFrom]

end KeywordBridge
