import KeywordBridge.Proofs.Keyword.Lookup
import KeywordBridge.Proofs.Text.CharacterClass
import KeywordBridge.Proofs.Text.Lines
import KeywordBridge.Translation

/-!
# Translation line by line

Keywords need not be words here: they may hold blanks, punctuation and anything else but
a line feed. Such a keyword does not reach across the end of a line, and since a line feed
belongs to no word, the end of a line is as good a word boundary as the end of a text. So
the segments of a text are those of its lines with the line feeds between them, and a text
is translated by translating its lines. Only lines of blanks make a difference: within a
text they stay as they are, while on its own such a line is translated to nothing.
-/

namespace KeywordBridge

/-! ## A keyword at a position -/

/-- A word without the mark stands in front of the mark, if it stands there at all. -/
theorem isPrefixOf_append_mark {mark : Char} {word : Text} (missing : mark ∉ word)
    (front back : Text) : word.isPrefixOf (front ++ mark :: back) = word.isPrefixOf front := by
  induction word generalizing front with
  | nil => rfl
  | cons c others ih =>
      rw [List.mem_cons, not_or] at missing
      cases front with
      | nil =>
          have other : (c == mark) = false := beq_eq_false_iff_ne.2 (Ne.symm missing.1)
          rw [List.nil_append, List.isPrefixOf_cons_cons, other, Bool.false_and]
          rfl
      | cons d rest =>
          rw [List.cons_append, List.isPrefixOf_cons_cons, List.isPrefixOf_cons_cons,
            ih missing.2]

/-- A line feed is no more part of a word than the end of a text. -/
theorem Text.isWordSide_head?_append_newline (front back : Text) :
    isWordSide (front ++ '\n' :: back).head? = isWordSide front.head? := by
  cases front with
  | nil => exact (by decide : isWordChar '\n' = false)
  | cons c rest => rfl

/-- What stands in front of the end of a line does not depend on the lines below. -/
theorem standsAt_append_newline {word : Text} (oneLine : '\n' ∉ word) (before : Option Char)
    (front back : Text) :
    standsAt before (front ++ '\n' :: back) word = standsAt before front word := by
  rw [standsAt, standsAt, isPrefixOf_append_mark oneLine]
  cases starts : word.isPrefixOf front with
  | false => rfl
  | true =>
      obtain ⟨tail, rfl⟩ := List.isPrefixOf_iff_prefix.1 starts
      have behind : (word ++ tail ++ '\n' :: back).drop word.length = tail ++ '\n' :: back := by
        rw [List.append_assoc, List.drop_left]
      rw [behind, List.drop_left, Text.isBoundary, Text.isBoundary, Text.isBoundary,
        Text.isBoundary, Text.isWordSide_head?_append_newline,
        Text.isWordSide_head?_append_newline]

/-- In front of a keyword it only matters whether a word ends there. -/
theorem standsAt_congr {first second : Option Char}
    (same : Text.isWordSide first = Text.isWordSide second) (text word : Text) :
    standsAt first text word = standsAt second text word := by
  have last : Text.isWordSide (word.getLast?.or first) =
      Text.isWordSide (word.getLast?.or second) := by
    cases word.getLast? with
    | none => exact same
    | some c => rfl
  rw [standsAt, standsAt, Text.isBoundary, Text.isBoundary, Text.isBoundary, Text.isBoundary,
    same, last]

/-- No keyword stands between two characters that belong to no word. -/
theorem keywordAt?_of_marks (words : List Text) {before : Option Char}
    (start : Text.isWordSide before = false) {text : Text}
    (stop : Text.isWordSide text.head? = false) : keywordAt? words before text = none := by
  have nowhere : ∀ word ∈ words, ¬ standsAt before text word = true := by
    intro word _
    rw [standsAt, Text.isBoundary, start, stop, bne_self_eq_false, Bool.and_false, Bool.false_and]
    exact Bool.false_ne_true
  rw [keywordAt?, List.filter_eq_nil_iff.2 nowhere]
  rfl

/-! ## The segments of a text -/

theorem segmentsFrom_congr (words : List Text) {first second : Option Char}
    (same : Text.isWordSide first = Text.isWordSide second) (text : Text) :
    segmentsFrom words 0 first text = segmentsFrom words 0 second text := by
  have found : keywordAt? words first text = keywordAt? words second text := by
    rw [keywordAt?, keywordAt?, funext (standsAt_congr same text)]
  cases text with
  | nil => rw [segmentsFrom, segmentsFrom, found]
  | cons c rest => rw [segmentsFrom, segmentsFrom, found]

/-- Keywords without line feeds stand in front of the end of a line or behind it. -/
theorem segmentsFrom_append_newline {words : List Text} (oneLine : ∀ word ∈ words, '\n' ∉ word)
    {covered : Nat} (before : Option Char) {front : Text} (within : covered ≤ front.length)
    (back : Text) :
    segmentsFrom words covered before (front ++ '\n' :: back) =
      segmentsFrom words covered before front ++ .kept '\n' :: segments words back := by
  have same (before : Option Char) (front : Text) :
      keywordAt? words before (front ++ '\n' :: back) = keywordAt? words before front := by
    rw [keywordAt?, keywordAt?]
    exact congrArg longest? (List.filter_congr fun word listed =>
      standsAt_append_newline (oneLine word listed) before front back)
  have noWord : Text.isWordSide (some '\n') = Text.isWordSide none := by decide
  have below : segmentsFrom words 0 (some '\n') back = segments words back :=
    segmentsFrom_congr words noWord back
  induction front generalizing covered before with
  | nil =>
      obtain rfl := Nat.le_zero.1 within
      have here : keywordAt? words before ('\n' :: back) = keywordAt? words before [] :=
        same before []
      rw [List.nil_append, segmentsFrom, segmentsFrom, here, below]
      cases found : keywordAt? words before [] with
      | none => rfl
      | some word =>
          -- Only the empty keyword stands at the end of a line.
          have stands := (standsAt_of_keywordAt? found).2
          simp only [standsAt, Bool.and_eq_true, List.isPrefixOf_iff_prefix,
            List.prefix_nil] at stands
          rw [stands.1.1]
          rfl
  | cons c rest ih =>
      cases covered with
      | succ covered => exact ih (some c) (Nat.le_of_succ_le_succ within)
      | zero =>
          have here := same before (c :: rest)
          rw [List.cons_append] at here
          rw [List.cons_append, segmentsFrom, segmentsFrom, here]
          cases found : keywordAt? words before (c :: rest) with
          | none => simp only [ih (some c) (Nat.zero_le _), List.cons_append]
          | some word =>
              cases word with
              | nil => simp only [ih (some c) (Nat.zero_le _), List.cons_append]
              | cons first others =>
                  have stands := (standsAt_of_keywordAt? found).2
                  simp only [standsAt, Bool.and_eq_true, List.isPrefixOf_iff_prefix] at stands
                  have inside := stands.1.1.length_le
                  rw [List.length_cons, List.length_cons] at inside
                  simp only [ih (some c) (Nat.le_of_succ_le_succ inside), List.cons_append]

/-- Every keyword among the segments is one of the list. -/
theorem mem_of_keyword_mem_segmentsFrom {words : List Text} {covered : Nat}
    {before : Option Char} {text word : Text}
    (member : .keyword word ∈ segmentsFrom words covered before text) : word ∈ words := by
  fun_induction segmentsFrom words covered before text with
  | case1 covered before found isFound =>
      cases List.mem_singleton.1 member
      exact (standsAt_of_keywordAt? isFound).1
  | case2 => cases member
  | case3 before covered c rest ih => exact ih member
  | case4 before c rest missing ih => exact ih (by simpa using member)
  | case5 before c rest isFound ih =>
      rcases List.mem_cons.1 member with same | behind
      · cases same
        exact (standsAt_of_keywordAt? isFound).1
      · exact ih (by simpa using behind)
  | case6 before c rest first others isFound ih =>
      rcases List.mem_cons.1 member with same | behind
      · cases same
        exact (standsAt_of_keywordAt? isFound).1
      · exact ih behind

/-- A text of blanks has no keyword. -/
theorem segmentsFrom_of_isBlank (words : List Text) {before : Option Char}
    (start : Text.isWordSide before = false) {text : Text} (blank : text.isBlank = true) :
    segmentsFrom words 0 before text = text.map .kept := by
  induction text generalizing before with
  | nil =>
      rw [segmentsFrom, keywordAt?_of_marks words start rfl]
      rfl
  | cons c rest ih =>
      rw [Text.isBlank, List.all_cons, Bool.and_eq_true] at blank
      have mark : Text.isWordSide (c :: rest).head? = false := by
        rw [Bool.eq_false_iff]
        intro word
        rw [isBlankChar_eq_false_of_isWordChar word] at blank
        exact Bool.noConfusion blank.1
      rw [segmentsFrom, keywordAt?_of_marks words start mark, List.map_cons]
      exact congrArg _ (ih mark blank.2)

/-! ## The lines of a translation -/

/-- The text that replaced keywords and kept characters make up. -/
def renderSegments (image : Text → Text) (words : List Text) (text : Text) : Text :=
  (segments words text).flatMap (Segment.render image)

section

variable {words : List Text} (image : Text → Text)

/-- A line of blanks stays as it is. -/
theorem renderSegments_of_isBlank {text : Text} (blank : text.isBlank = true) :
    renderSegments image words text = text := by
  rw [renderSegments, segments, segmentsFrom_of_isBlank words rfl blank, List.flatMap_map]
  exact List.flatMap_singleton' text

variable {image} (oneLine : ∀ word ∈ words, '\n' ∉ word ∧ '\n' ∉ image word)

include oneLine

/-- The rendering of a text without line feeds has none. -/
theorem newline_not_mem_renderSegments {text : Text} (single : '\n' ∉ text) :
    '\n' ∉ renderSegments image words text := by
  intro inside
  obtain ⟨segment, member, here⟩ := List.mem_flatMap.1 inside
  cases segment with
  | kept c =>
      apply single
      rw [← flatMap_source_segments words text]
      exact List.mem_flatMap.2 ⟨_, member, here⟩
  | keyword word => exact (oneLine word (mem_of_keyword_mem_segmentsFrom member)).2 here

/-- Keywords are replaced line by line. -/
theorem lines_renderSegments (text : Text) :
    (renderSegments image words text).lines = text.lines.map (renderSegments image words) := by
  -- A step takes off one line, so the induction is on the length of what is left.
  induction size : text.length using Nat.strong_induction_on generalizing text with
  | _ size ih =>
      by_cases inside : '\n' ∈ text
      · obtain ⟨front, back, rfl, single⟩ := List.eq_append_cons_of_mem inside
        rw [List.length_append, List.length_cons] at size
        have split : renderSegments image words (front ++ '\n' :: back) =
            renderSegments image words front ++ '\n' :: renderSegments image words back := by
          rw [renderSegments, segments,
            segmentsFrom_append_newline (fun word listed => (oneLine word listed).1) none
              (Nat.zero_le _), List.flatMap_append, List.flatMap_cons]
          rfl
        rw [split, Text.lines_append_newline, Text.lines_append_newline, List.map_append,
          ih front.length (by omega) front rfl, ih back.length (by omega) back rfl]
      · rw [Text.lines, Text.cutAt_of_not_mem (newline_not_mem_renderSegments oneLine inside),
          Text.lines, Text.cutAt_of_not_mem inside, List.map_singleton]

/-- A line of a text with its keywords replaced is the line with its keywords replaced by
itself, unless it is a line of blanks, which is kept in the text and dropped by itself. -/
theorem lines_replaceKeywords {text : Text} (written : text.isBlank = false) :
    (replaceKeywords words image text).lines.length = text.lines.length ∧
      ∀ (index : Nat) (line : Text), text.lines[index]? = some line →
        (line.isBlank = false → (replaceKeywords words image text).lines[index]? =
          some (replaceKeywords words image line)) ∧
        (line.isBlank = true → (replaceKeywords words image text).lines[index]? = some line ∧
          replaceKeywords words image line = []) := by
  have rendered {text : Text} (written : text.isBlank = false) :
      replaceKeywords words image text = renderSegments image words text := by
    rw [replaceKeywords, if_neg (Bool.eq_false_iff.1 written), renderSegments]
  rw [rendered written, lines_renderSegments oneLine]
  refine ⟨List.length_map _, fun index line isLine => ⟨fun here => ?_, fun blank => ⟨?_, ?_⟩⟩⟩
  · rw [List.getElem?_map, isLine, rendered here, Option.map_some]
  · rw [List.getElem?_map, isLine, Option.map_some, renderSegments_of_isBlank image blank]
  · rw [replaceKeywords, if_pos blank]

end

namespace Table

/-- No keyword of the table, on either side, holds a line feed. -/
def HasOneLineKeywords (table : Table) : Prop :=
  ∀ entry ∈ table.entries, '\n' ∉ entry.surface ∧ '\n' ∉ entry.target

instance (table : Table) : Decidable table.HasOneLineKeywords :=
  inferInstanceAs (Decidable (∀ entry ∈ table.entries, _ ∧ _))

/-- Where no keyword holds a line feed, a translation has the lines of the text, and each
of them is what the line is translated to by itself. Only a line of blanks is kept within
the text and translated to nothing by itself. -/
theorem translation_lineByLine {table : Table} (oneLine : table.HasOneLineKeywords)
    {text : Text} (written : text.isBlank = false) :
    ((table.forward text).lines.length = text.lines.length ∧
        ∀ (index : Nat) (line : Text), text.lines[index]? = some line →
          (line.isBlank = false → (table.forward text).lines[index]? =
            (table.forwardLines text.lines)[index]?) ∧
          (line.isBlank = true → (table.forward text).lines[index]? = some line ∧
            (table.forwardLines text.lines)[index]? = some [])) ∧
      (table.reverse text).lines.length = text.lines.length ∧
        ∀ (index : Nat) (line : Text), text.lines[index]? = some line →
          (line.isBlank = false → (table.reverse text).lines[index]? =
            (table.reverseLines text.lines)[index]?) ∧
          (line.isBlank = true → (table.reverse text).lines[index]? = some line ∧
            (table.reverseLines text.lines)[index]? = some []) := by
  have surfaces : ∀ word ∈ table.surfaces, '\n' ∉ word := by
    intro word listed
    obtain ⟨entry, member, rfl⟩ := List.mem_map.1 listed
    exact (oneLine entry member).1
  have targets : ∀ word ∈ table.targets, '\n' ∉ word := by
    intro word listed
    obtain ⟨entry, member, rfl⟩ := List.mem_map.1 listed
    exact (oneLine entry member).2
  obtain ⟨sameLength, forwards⟩ := lines_replaceKeywords (fun word listed =>
    ⟨surfaces word listed, targets _ (table.forwardWord_of_mem_surfaces listed).1⟩) written
  obtain ⟨sameLength', backwards⟩ := lines_replaceKeywords (fun word listed =>
    ⟨targets word listed, surfaces _ (table.reverseWord_of_mem_targets listed).1⟩) written
  refine ⟨⟨sameLength, fun index line isLine => ?_⟩, sameLength', fun index line isLine => ?_⟩
  · rw [forwardLines, List.getElem?_map, isLine, Option.map_some, Option.some_inj]
    exact forwards index line isLine
  · rw [reverseLines, List.getElem?_map, isLine, Option.map_some, Option.some_inj]
    exact backwards index line isLine

/-- A table whose keywords hold blanks, punctuation and one another. -/
def phrases : Table :=
  ⟨[⟨"nge xesha", "while", "during the time", "loop", none⟩,
    ⟨"nge", "with (as", "with", "scope", none⟩,
    ⟨"xesha", "t", "time", "scope", none⟩], by decide +kernel⟩

/-- A phrase is found within a line and not across its end, where the words of the phrase
are found, and the blanks of the second line are kept. -/
theorem translation_lineByLine_phrases :
    let text : Text := "nge xesha x:\n \t\nnge\nxesha"
    phrases.HasOneLineKeywords ∧ text.isBlank = false ∧
      phrases.forward text = ("while x:\n \t\nwith (as\nt" : Text) ∧
      phrases.forwardLines text.lines = (["while x:", "", "with (as", "t"] : List Text) ∧
      (phrases.forward text).lines.length = text.lines.length ∧
      (phrases.forward text).lines[0]? = (phrases.forwardLines text.lines)[0]? ∧
      (phrases.forward text).lines[1]? = some (" \t" : Text) ∧
      (phrases.reverse text).lines[3]? = (phrases.reverseLines text.lines)[3]? := by
  intro text
  have oneLine : phrases.HasOneLineKeywords := by decide +kernel
  have written : text.isBlank = false := by decide +kernel
  obtain ⟨⟨sameLength, forwards⟩, -, backwards⟩ := translation_lineByLine oneLine written
  refine ⟨oneLine, written, ?_, ?_, sameLength, (forwards 0 "nge xesha x:" rfl).1 ?_,
    ((forwards 1 " \t" rfl).2 ?_).1, (backwards 3 "xesha" rfl).1 ?_⟩
  all_goals decide +kernel

end Table

end KeywordBridge
