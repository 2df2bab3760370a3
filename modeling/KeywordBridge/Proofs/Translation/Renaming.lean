import KeywordBridge.Proofs.Text.MappedWords
import KeywordBridge.Proofs.Token.KeywordTokens
import KeywordBridge.Proofs.Token.QuoteAgreement
import KeywordBridge.Proofs.Token.Rules
import KeywordBridge.Proofs.Translation.WordReplacement

/-!
# Code under a renaming of keywords

A renaming replaces listed names by new ones, all of them at least two characters
long, and keeps all other words. Behind a character in front of it, a text in code is
rendered with its keywords replaced. Outside keywords this changes nothing, and where
a keyword stands a name stands afterwards. So the rules that look ahead over digits,
blanks or operators, none of which starts a name, find the same characters, and every
token that is no keyword is found again.
-/

namespace KeywordBridge

/-- The listed words are names that are replaced by new names, and all other words are
kept. Every name in question has at least two characters. -/
structure Renaming (words : List Text) (image : Text → Text) : Prop where
  kept : ∀ run, run ∉ words → image run = run
  isName : ∀ word ∈ words, word.IsName
  isNewName : ∀ word ∈ words, (image word).IsName ∧ image word ∉ words
  long : ∀ word ∈ words, 2 ≤ word.length ∧ 2 ≤ (image word).length

/-- The text behind `before` with its keywords replaced. -/
def renderFrom (words : List Text) (image : Text → Text) (before : Option Char) (text : Text) :
    Text :=
  (segmentsFrom words 0 before text).flatMap (Segment.render image)

section

variable {words : List Text} {image : Text → Text} (renames : Renaming words image)

include renames

theorem Renaming.isWord : ∀ word ∈ words, word.IsWord :=
  fun word listed => (renames.isName word listed).1

theorem Renaming.isWord_image (run : Text) (isRun : run.IsWord) : (image run).IsWord := by
  by_cases listed : run ∈ words
  · exact (renames.isNewName run listed).1.1
  · rw [renames.kept run listed]
    exact isRun

theorem Renaming.replaceListed_eq : replaceListed words image = image := by
  funext run
  by_cases listed : run ∈ words
  · exact replaceListed_of_mem image listed
  · rw [replaceListed_of_not_mem image listed, renames.kept run listed]

/-! ## Rendering -/

/-- Where no word is cut, a text is rendered by replacing its words. -/
theorem Renaming.renderFrom_eq_mapWords {before : Option Char} {text : Text}
    (apart : Text.isWordSide before = false ∨ Text.isWordSide text.head? = false) :
    renderFrom words image before text = text.mapWords image := by
  rw [renderFrom, segmentsFrom_eq_pieces renames.isWord apart, List.flatMap_assoc,
    Text.mapWords, List.flatMap_map]
  simp only [Piece.flatMap_render_segments, renames.replaceListed_eq]

omit renames in
/-- Characters at none of which a keyword stands are rendered as they are. -/
theorem renderFrom_append_kept {before : Option Char} {value rest : Text}
    (free : ∀ head c tail, value = head ++ c :: tail →
      keywordAt? words (head.getLast?.or before) (c :: tail ++ rest) = none) :
    renderFrom words image before (value ++ rest) =
      value ++ renderFrom words image (value.getLast?.or before) rest := by
  rw [renderFrom, segmentsFrom_append_kept free, List.flatMap_append, List.flatMap_map, renderFrom]
  exact congrArg (· ++ _) (List.flatMap_singleton' value)

omit renames in
theorem renderFrom_cons_of_free {before : Option Char} {c : Char} {rest : Text}
    (free : keywordAt? words before (c :: rest) = none) :
    renderFrom words image before (c :: rest) = c :: renderFrom words image (some c) rest := by
  rw [renderFrom, segmentsFrom, free]
  rfl

/-- A keyword is rendered as its image, and what follows it by replacing words. -/
theorem Renaming.renderFrom_append_keyword {before : Option Char} {word after : Text}
    (listed : word ∈ words) (start : Text.isWordSide before = false)
    (stop : Text.isWordSide after.head? = false) :
    renderFrom words image before (word ++ after) = image word ++ after.mapWords image := by
  have isWord := renames.isWord word listed
  have cut : Text.isWordSide before = false ∨ Text.isWordSide (word ++ after).head? = false :=
    .inl start
  rw [renames.renderFrom_eq_mapWords cut, Text.mapWords_append_of_stop image isWord stop]

theorem Renaming.renderFrom_nil (before : Option Char) : renderFrom words image before [] = [] := by
  rw [renames.renderFrom_eq_mapWords (.inr rfl), Text.mapWords_nil]

/-- Behind a word character a text is rendered with its first character. -/
theorem Renaming.renderFrom_cons_behind_word {before : Option Char}
    (inside : Text.isWordSide before = true) (c : Char) (rest : Text) :
    renderFrom words image before (c :: rest) = c :: renderFrom words image (some c) rest :=
  renderFrom_cons_of_free (keywordAt?_behind_word renames.isWord (c :: rest) inside)

theorem Renaming.renderFrom_cons_of_nameless (before : Option Char) {c : Char} (rest : Text)
    (nameless : Text.startsName c = false) :
    renderFrom words image before (c :: rest) = c :: renderFrom words image (some c) rest :=
  renderFrom_cons_of_free (keywordAt?_of_nameless renames.isName before rest nameless)

/-- Behind a word character the word is rendered as it goes on. -/
theorem Renaming.renderFrom_behind_word {before : Option Char}
    (inside : Text.isWordSide before = true) (text : Text) :
    renderFrom words image before text =
      text.takeWhile isWordChar ++ Text.mapWords image (text.dropWhile isWordChar) := by
  have stop := Text.isWordSide_head?_dropWhile text
  rw [← renames.renderFrom_eq_mapWords (.inr stop), ← renderFrom_append_kept,
    List.takeWhile_append_dropWhile]
  intro head c tail split
  apply keywordAt?_behind_word renames.isWord
  cases last : head.getLast? with
  | none => exact inside
  | some d =>
      have member : d ∈ text.takeWhile isWordChar := by
        rw [split]
        exact List.mem_append_left _ (List.mem_of_mem_getLast? last)
      exact (List.mem_takeWhile_imp member : isWordChar d = true)

/-- Behind a word character the same word goes on in the rendering. -/
theorem Renaming.takeWhile_word_renderFrom {before : Option Char}
    (inside : Text.isWordSide before = true) (text : Text) :
    (renderFrom words image before text).takeWhile isWordChar = text.takeWhile isWordChar := by
  have stop := Text.isWordSide_head?_dropWhile text
  rw [renames.renderFrom_behind_word inside]
  apply Text.takeWhile_append_of_stop fun d member => List.mem_takeWhile_imp member
  rw [Text.head?_mapWords image stop, stop]

/-- Where a name starts, a name starts in the rendering. -/
theorem Renaming.renderFrom_of_startsName (before : Option Char) {c : Char} (rest : Text)
    (starts : Text.startsName c = true) :
    ∃ d others, renderFrom words image before (c :: rest) = d :: others ∧
      Text.startsName d = true := by
  cases found : keywordAt? words before (c :: rest) with
  | none => exact ⟨c, _, renderFrom_cons_of_free found, starts⟩
  | some word =>
      obtain ⟨listed, -⟩ := standsAt_of_keywordAt? found
      obtain ⟨d, others, name, startsImage, -⟩ := (renames.isNewName word listed).1.exists_cons
      obtain ⟨first, behind, rfl, -⟩ := (renames.isName word listed).exists_cons
      refine ⟨d, others ++ (segmentsFrom words behind.length (some c) rest).flatMap
        (Segment.render image), ?_, startsImage⟩
      rw [renderFrom, segmentsFrom, found]
      simp only [List.flatMap_cons, Segment.render, name, List.cons_append]

/-! ## Looking ahead -/

variable {p : Char → Bool} (nameless : ∀ d, p d = true → Text.startsName d = false)

include nameless

/-- Characters with which no name starts are rendered as they are. -/
theorem Renaming.renderFrom_run (before : Option Char) (text : Text) :
    renderFrom words image before text =
      text.takeWhile p ++
        renderFrom words image ((text.takeWhile p).getLast?.or before) (text.dropWhile p) := by
  rw [← renderFrom_append_kept, List.takeWhile_append_dropWhile]
  intro head c tail split
  have inside : c ∈ text.takeWhile p := by
    rw [split]
    exact List.mem_append_right head List.mem_cons_self
  exact keywordAt?_of_nameless renames.isName _ _ (nameless c (List.mem_takeWhile_imp inside))

/-- A text that starts with none of these characters is rendered as one that starts
with none of them. -/
theorem Renaming.takeWhile_renderFrom_eq_nil (before : Option Char) {text : Text}
    (stops : text.takeWhile p = []) : (renderFrom words image before text).takeWhile p = [] := by
  cases text with
  | nil => rw [renames.renderFrom_nil, List.takeWhile_nil]
  | cons c rest =>
      have other : ¬ p c = true := by
        intro passed
        rw [List.takeWhile_cons_of_pos passed] at stops
        exact List.cons_ne_nil c _ stops
      by_cases starts : Text.startsName c = true
      · obtain ⟨d, others, rendered, startsImage⟩ :=
          renames.renderFrom_of_startsName before rest starts
        rw [rendered, List.takeWhile_cons_of_neg]
        intro passed
        rw [nameless d passed] at startsImage
        exact Bool.noConfusion startsImage
      · rw [renames.renderFrom_cons_of_nameless before rest (Bool.eq_false_iff.2 starts),
          List.takeWhile_cons_of_neg other]

theorem Renaming.takeWhile_renderFrom (before : Option Char) (text : Text) :
    (renderFrom words image before text).takeWhile p = text.takeWhile p := by
  have stops : (text.dropWhile p).takeWhile p = [] := by
    cases behind : text.dropWhile p with
    | nil => rfl
    | cons c others =>
        have other : ¬ p c = true := by
          have last := List.head?_dropWhile_not p text
          rw [behind, List.head?_cons] at last
          simpa using last
        exact List.takeWhile_cons_of_neg other
  rw [renames.renderFrom_run nameless,
    List.takeWhile_append_of_pos fun d member => List.mem_takeWhile_imp member,
    renames.takeWhile_renderFrom_eq_nil nameless _ stops, List.append_nil]

theorem Renaming.countWhile_renderFrom (before : Option Char) (text : Text) :
    Text.countWhile p (renderFrom words image before text) = Text.countWhile p text := by
  rw [Text.countWhile, renames.takeWhile_renderFrom nameless, Text.countWhile]

theorem Renaming.dropWhile_renderFrom (before : Option Char) (text : Text) :
    (renderFrom words image before text).dropWhile p =
      renderFrom words image ((text.takeWhile p).getLast?.or before) (text.dropWhile p) := by
  rw [← drop_countWhile, renames.countWhile_renderFrom nameless,
    renames.renderFrom_run nameless before, Text.countWhile, List.drop_left]

end

section

variable {words : List Text} {image : Text → Text} (renames : Renaming words image)

include renames

/-! ## Numbers -/

/-- An exponent is found again behind a digit. -/
theorem Renaming.exponentLength_renderFrom {before : Option Char}
    (inside : Text.isWordSide before = true) (text : Text) :
    exponentLength (renderFrom words image before text) = exponentLength text := by
  cases text with
  | nil => rw [renames.renderFrom_nil]
  | cons mark rest =>
      rw [renames.renderFrom_cons_behind_word inside]
      by_cases isMark : (mark == 'e' || mark == 'E') = true
      · have word : Text.isWordSide (some mark) = true := by
          rw [Bool.or_eq_true, beq_iff_eq, beq_iff_eq] at isMark
          rcases isMark with rfl | rfl
          · decide
          · decide
        simp only [exponentLength, if_pos isMark]
        cases rest with
        | nil => rw [renames.renderFrom_nil]
        | cons sign unsigned =>
            have digits := renames.countWhile_renderFrom
              (fun _ => startsName_of_isDecimalDigit) (some mark) (sign :: unsigned)
            have behind := renames.countWhile_renderFrom
              (fun _ => startsName_of_isDecimalDigit) (some sign) unsigned
            rw [renames.renderFrom_cons_behind_word word] at digits ⊢
            simp only [digits, behind]
      · simp only [exponentLength, if_neg isMark]

/-- A number with a fraction is found again. -/
theorem Renaming.floatLength_renderFrom (before : Option Char) (text : Text) :
    floatLength (renderFrom words image before text) = floatLength text := by
  have digit : ∀ d, isDecimalDigit d = true → Text.startsName d = false :=
    fun _ => startsName_of_isDecimalDigit
  have whole := renames.countWhile_renderFrom digit before text
  have behind := renames.dropWhile_renderFrom digit before text
  generalize (text.takeWhile isDecimalDigit).getLast?.or before = last at behind
  cases rest : text.dropWhile isDecimalDigit with
  | nil =>
      rw [rest, renames.renderFrom_nil] at behind
      rw [floatLength_of_no_point (by rw [behind]; decide),
        floatLength_of_no_point (by rw [rest]; decide)]
  | cons c fraction =>
      rw [rest] at behind
      by_cases point : c = '.'
      · subst point
        rw [renames.renderFrom_cons_of_nameless last fraction (by decide)] at behind
        rw [floatLength_of_point behind, floatLength_of_point rest, whole,
          renames.takeWhile_renderFrom digit, renames.countWhile_renderFrom digit,
          renames.dropWhile_renderFrom digit]
        by_cases none : fraction.takeWhile isDecimalDigit = []
        · rw [if_pos none, if_pos none]
        · have inside : Text.isWordSide
              ((fraction.takeWhile isDecimalDigit).getLast?.or (some '.')) = true := by
            rw [List.getLast?_eq_some_getLast none, Option.some_or]
            exact isWordChar_of_isDecimalDigit (List.mem_takeWhile_imp (List.getLast_mem none))
          rw [if_neg none, if_neg none, renames.exponentLength_renderFrom inside]
      · have noPoint : (renderFrom words image last (c :: fraction)).head? ≠ some '.' := by
          by_cases starts : Text.startsName c = true
          · obtain ⟨d, others, rendered, startsImage⟩ :=
              renames.renderFrom_of_startsName last fraction starts
            rw [rendered]
            intro same
            rw [Option.some_inj.1 same] at startsImage
            exact absurd startsImage (by decide)
          · rw [renames.renderFrom_cons_of_nameless last fraction (Bool.eq_false_iff.2 starts)]
            exact fun same => point (Option.some_inj.1 same)
        have noPointHere : some c ≠ some '.' := fun same => point (Option.some_inj.1 same)
        rw [floatLength_of_no_point (by rwa [behind]), floatLength_of_no_point (by rwa [rest])]

/-! ## Tokens -/

/-- Where no keyword stands, none stands in the rendering. -/
theorem Renaming.keywordAt?_renderFrom {before other : Option Char} {c : Char} {rest : Text}
    (sides : Text.isWordSide other = Text.isWordSide before)
    (free : keywordAt? words before (c :: rest) = none) :
    keywordAt? words other (c :: renderFrom words image (some c) rest) = none := by
  by_cases word : isWordChar c = true
  · have inside : Text.isWordSide (some c) = true := word
    rw [keywordAt?_of_isWord renames.isWord, List.takeWhile_cons_of_pos word] at free ⊢
    rw [renames.takeWhile_word_renderFrom inside, sides]
    split at free
    · exact absurd free (Option.some_ne_none _)
    · rw [if_neg ‹_›]
  · exact keywordAt?_of_mark renames.isWord other (Bool.eq_false_iff.2 word)

/-- A token that is neither a keyword nor a string nor a comment is found again. -/
theorem Renaming.plainStep_renderFrom {before : Option Char} {c : Char} {rest : Text}
    (free : keywordAt? words before (c :: rest) = none) (stays : leavesCode c = false) :
    plainStep c (renderFrom words image (some c) rest) = plainStep c rest := by
  have float := renames.floatLength_renderFrom before (c :: rest)
  rw [renderFrom_cons_of_free free] at float
  apply plainStep_congr stays float
  · exact renames.countWhile_renderFrom (fun _ => startsName_of_isDecimalDigit) (some c) rest
  · exact fun _ => renames.countWhile_renderFrom (fun _ => startsName_of_separates) (some c) rest
  · exact renames.countWhile_renderFrom (fun _ => startsName_of_isOperatorChar) (some c) rest
  · intro starts
    have inside : Text.isWordSide (some c) = true := isWordChar_of_startsName starts
    rw [Text.countWhile, renames.takeWhile_word_renderFrom inside, Text.countWhile]

end

end KeywordBridge
