import KeywordBridge.Proofs.Keyword.WordKeywords
import KeywordBridge.Proofs.Text.CharacterClass
import KeywordBridge.Translation

/-!
# Translation word by word

Where keywords are words, replacing them in a text replaces the maximal runs of
word characters that are listed and keeps all others, and a text contains a
keyword exactly when one of its runs is listed. In which order keywords are
tried and which of them are parts of others makes no difference.
-/

namespace KeywordBridge

/-- The image of a word that is listed; any other word is its own. -/
def replaceListed (words : List Text) (image : Text → Text) (run : Text) : Text :=
  if words.contains run then image run else run

theorem replaceListed_of_mem {words : List Text} {run : Text} (image : Text → Text)
    (listed : run ∈ words) : replaceListed words image run = image run := by
  rw [replaceListed, if_pos (List.contains_iff_mem.2 listed)]

theorem replaceListed_of_not_mem {words : List Text} {run : Text} (image : Text → Text)
    (unlisted : run ∉ words) : replaceListed words image run = run := by
  rw [replaceListed, if_neg fun listed => unlisted (List.contains_iff_mem.1 listed)]

/-- Replacing the keywords of a piece replaces its run if that is listed. -/
theorem Piece.flatMap_render_segments (words : List Text) (image : Text → Text)
    (piece : Piece) :
    (piece.segments words).flatMap (Segment.render image) =
      (piece.map (replaceListed words image)).source := by
  cases piece with
  | mark c => rfl
  | word run =>
      by_cases listed : run ∈ words
      · rw [Piece.segments_of_mem listed, Piece.map, replaceListed_of_mem image listed]
        simp [Segment.render, Piece.source]
      · rw [Piece.segments_of_not_mem listed, Piece.map, replaceListed_of_not_mem image listed]
        simp [Segment.render, Piece.source, List.flatMap_map]

/-- The run of a piece is listed exactly when it has a keyword. -/
theorem Piece.any_isKeyword_segments (words : List Text) (piece : Piece) :
    (piece.segments words).any Segment.isKeyword =
      piece.run?.any fun run => decide (run ∈ words) := by
  cases piece with
  | mark c => rfl
  | word run =>
      by_cases listed : run ∈ words
      · simp [Piece.segments_of_mem listed, Piece.run?, listed, Segment.isKeyword]
      · simp [Piece.segments_of_not_mem listed, Piece.run?, listed, Segment.isKeyword]

/-- The image of words under a replacement by words are words. -/
theorem isWord_replaceListed {words : List Text} {image : Text → Text}
    (isWord : ∀ word ∈ words, (image word).IsWord) (run : Text) (isRun : run.IsWord) :
    (replaceListed words image run).IsWord := by
  by_cases listed : run ∈ words
  · rw [replaceListed_of_mem image listed]
    exact isWord run listed
  · rw [replaceListed_of_not_mem image listed]
    exact isRun

/-- A text that begins with a word character is not blank. -/
theorem isBlank_of_hasWordEnds {word : Text} (ends : word.HasWordEnds) :
    word.isBlank = false := by
  cases word with
  | nil => exact absurd rfl ends.ne_nil
  | cons c others =>
      have written : isBlankChar c = false := isBlankChar_eq_false_of_isWordChar ends.1
      rw [Text.isBlank, List.all_cons, written, Bool.false_and]

/-- A word is not blank. -/
theorem isBlank_of_isWord {word : Text} (isWord : word.IsWord) : word.isBlank = false :=
  isBlank_of_hasWordEnds isWord.hasWordEnds

/-- Replacing words by words leaves nothing but blanks only where there was
nothing else. -/
theorem isBlank_mapWords {image : Text → Text}
    (words : ∀ run : Text, run.IsWord → (image run).IsWord) (text : Text) :
    (text.mapWords image).isBlank = text.isBlank := by
  have same : ∀ piece ∈ text.pieces,
      (piece.map image).source.isBlank = piece.source.isBlank := by
    intro piece member
    cases piece with
    | mark c => rfl
    | word run =>
        have isRun := Text.isWord_of_mem_wordRuns (Text.mem_wordRuns.2 member)
        rw [Piece.map, Piece.source, Piece.source, isBlank_of_isWord isRun,
          isBlank_of_isWord (words run isRun)]
  calc
    (text.mapWords image).isBlank =
        text.pieces.all fun piece => (piece.map image).source.isBlank := by
      rw [Text.isBlank, Text.mapWords, List.all_flatMap, List.all_map]
      rfl
    _ = text.pieces.all fun piece => piece.source.isBlank := by
      rw [Bool.eq_iff_iff, List.all_eq_true, List.all_eq_true]
      exact forall₂_congr fun piece member => by rw [same piece member]
    _ = Text.isBlank (text.pieces.flatMap Piece.source) := by
      rw [Text.isBlank, List.all_flatMap]
      rfl
    _ = text.isBlank := by rw [Text.flatMap_source_pieces]

section

variable {words : List Text} (isWord : ∀ word ∈ words, word.IsWord)

include isWord

/-- Replacing keywords that are words is replacing the runs that are listed. -/
theorem replaceKeywords_eq_mapWords (image : Text → Text) {text : Text}
    (written : text.isBlank = false) :
    replaceKeywords words image text = text.mapWords (replaceListed words image) := by
  rw [replaceKeywords, if_neg (by simp [written]), segments,
    segmentsFrom_eq_pieces isWord (.inl rfl), List.flatMap_assoc, Text.mapWords,
    List.flatMap_map]
  simp only [Piece.flatMap_render_segments]

/-- A text contains a keyword exactly when one of its runs is listed. -/
theorem containsKeyword_iff (text : Text) :
    containsKeyword words text = true ↔ ∃ run ∈ text.wordRuns, run ∈ words := by
  rw [containsKeyword, segments, segmentsFrom_eq_pieces isWord (.inl rfl), List.any_flatMap]
  simp only [Piece.any_isKeyword_segments, List.any_eq_true, Option.any_eq_true,
    decide_eq_true_eq, Text.wordRuns, List.mem_filterMap]
  constructor
  · rintro ⟨piece, member, run, isRun, listed⟩
    exact ⟨run, ⟨piece, member, isRun⟩, listed⟩
  · rintro ⟨run, ⟨piece, member, isRun⟩, listed⟩
    exact ⟨piece, member, run, isRun, listed⟩

end

end KeywordBridge
