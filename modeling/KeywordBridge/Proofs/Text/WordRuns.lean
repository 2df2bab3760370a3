import KeywordBridge.Text.Basic
import Mathlib.Data.List.DropRight
import Mathlib.Data.List.TakeWhile

/-!
# The words of a text

A text is cut into pieces: maximal runs of word characters, and the single
characters between them. Replacing runs by other words changes no piece that is
not replaced, since the marks between the runs stay where they are. So the
pieces of the result are the pieces of the text with their runs replaced, and
two replacements one after the other amount to one.
-/

namespace KeywordBridge

/-- A piece of a text. -/
inductive Piece where
  /-- A maximal run of word characters. -/
  | word (run : Text)
  /-- A character that belongs to no word. -/
  | mark (c : Char)
deriving DecidableEq

namespace Piece

/-- The piece with a run replaced by its image. -/
def map (image : Text → Text) : Piece → Piece
  | word run => word (image run)
  | mark c => mark c

/-- The characters of the piece. -/
def source : Piece → Text
  | word run => run
  | mark c => [c]

/-- The run that a piece may be. -/
def run? : Piece → Option Text
  | word run => some run
  | mark _ => none

theorem map_map (first second : Text → Text) (piece : Piece) :
    (piece.map first).map second = piece.map (second ∘ first) := by
  cases piece <;> rfl

end Piece

/-! ## Scans that stop in front of a second part -/

section

variable {α : Type} {p : α → Bool} {first second : List α}

theorem takeWhile_append_of_head (stop : ∀ item ∈ second.head?, p item = false) :
    (first ++ second).takeWhile p = first.takeWhile p := by
  induction first with
  | nil =>
      cases second with
      | nil => rfl
      | cons item others =>
          have here := stop item rfl
          rw [List.nil_append, List.takeWhile_cons_of_neg (Bool.eq_false_iff.1 here),
            List.takeWhile_nil]
  | cons item others ih => rw [List.cons_append, List.takeWhile_cons, List.takeWhile_cons, ih]

theorem dropWhile_append_of_head (stop : ∀ item ∈ second.head?, p item = false) :
    (first ++ second).dropWhile p = first.dropWhile p ++ second := by
  have whole := List.takeWhile_append_dropWhile (p := p) (l := first ++ second)
  have front := List.takeWhile_append_dropWhile (p := p) (l := first)
  rw [takeWhile_append_of_head stop] at whole
  apply (List.append_right_inj (first.takeWhile p)).1
  rw [whole, ← List.append_assoc, front]

variable (stops : ∀ item ∈ second, p item = false)

include stops

theorem takeWhile_append_of_stops : (first ++ second).takeWhile p = first.takeWhile p :=
  takeWhile_append_of_head fun item isHead => stops item (List.mem_of_mem_head? isHead)

theorem dropWhile_append_of_stops :
    (first ++ second).dropWhile p = first.dropWhile p ++ second :=
  dropWhile_append_of_head fun item isHead => stops item (List.mem_of_mem_head? isHead)

end

theorem isWordChar_of_startsName {c : Char} (starts : Text.startsName c = true) :
    isWordChar c = true := by
  rw [Text.startsName, Bool.and_eq_true] at starts
  exact starts.1

namespace Text

/-- A word is a text of at least one character with word characters alone. -/
def IsWord (text : Text) : Prop :=
  text ≠ [] ∧ ∀ c ∈ text, isWordChar c = true

instance (text : Text) : Decidable text.IsWord :=
  decidable_of_iff (text ≠ [] ∧ text.all isWordChar = true)
    (and_congr_right fun _ => List.all_eq_true)

/-- A word character stands at either end of the text. -/
def HasWordEnds (text : Text) : Prop :=
  isWordSide text.head? = true ∧ isWordSide text.getLast? = true

instance (text : Text) : Decidable text.HasWordEnds :=
  inferInstanceAs (Decidable (_ ∧ _))

/-- Between `before` and `after` the word `run` goes on to neither side. -/
structure IsMaximalRun (before run after : Text) : Prop where
  isWord : run.IsWord
  start : isWordSide before.getLast? = false
  stop : isWordSide after.head? = false

/-- Is the text cut between two words in front of the character with the index? -/
def IsCutAt (text : Text) (index : Nat) : Prop :=
  isWordSide (text.take index).getLast? = false ∨ isWordSide (text.drop index).head? = false

instance (text : Text) (index : Nat) : Decidable (text.IsCutAt index) :=
  inferInstanceAs (Decidable (_ ∨ _))

/-- The pieces of a text. -/
def pieces : Text → List Piece
  | [] => []
  | c :: rest =>
      if isWordChar c then
        .word (c :: rest.takeWhile isWordChar) :: pieces (rest.dropWhile isWordChar)
      else .mark c :: pieces rest
termination_by text => text.length
decreasing_by
  · simpa using Nat.lt_succ_of_le (List.length_dropWhile_le isWordChar rest)
  · simp

/-- The text with every maximal run of word characters replaced by its image. -/
def mapWords (image : Text → Text) (text : Text) : Text :=
  (text.pieces.map (Piece.map image)).flatMap Piece.source

/-- The maximal runs of word characters in order. -/
def wordRuns (text : Text) : List Text :=
  text.pieces.filterMap Piece.run?

/-! ## Where a run ends -/

theorem isWordSide_head?_dropWhile (text : Text) :
    isWordSide (text.dropWhile isWordChar).head? = false := by
  induction text with
  | nil => rfl
  | cons c rest ih =>
      rw [List.dropWhile_cons]
      split
      · exact ih
      · rename_i mark
        simpa [isWordSide] using mark

theorem isCutAt_append {front back : Text} :
    IsCutAt (front ++ back) front.length ↔
      isWordSide front.getLast? = false ∨ isWordSide back.head? = false := by
  rw [IsCutAt, List.take_left, List.drop_left]

/-- Word characters in front of something else are the whole run. -/
theorem takeWhile_append_of_stop {run after : Text} (word : ∀ c ∈ run, isWordChar c = true)
    (stop : isWordSide after.head? = false) :
    (run ++ after).takeWhile isWordChar = run := by
  rw [List.takeWhile_append_of_pos word]
  cases after with
  | nil => simp
  | cons c rest =>
      have mark : isWordChar c = false := stop
      simp [mark]

theorem dropWhile_append_of_stop {run after : Text} (word : ∀ c ∈ run, isWordChar c = true)
    (stop : isWordSide after.head? = false) :
    (run ++ after).dropWhile isWordChar = after := by
  rw [List.dropWhile_append_of_pos word]
  cases after with
  | nil => rfl
  | cons c rest =>
      have mark : isWordChar c = false := stop
      simp [mark]

theorem isWordSide_getLast?_cons_mark {c : Char} (mark : isWordChar c = false) (rest : Text) :
    isWordSide (c :: rest).getLast? = isWordSide rest.getLast? := by
  rw [List.getLast?_cons]
  cases rest.getLast? with
  | none => exact mark
  | some d => rfl

theorem IsWord.not_mem {word : Text} (isWord : word.IsWord) {c : Char}
    (mark : isWordChar c = false) : c ∉ word := by
  intro inside
  rw [isWord.2 c inside] at mark
  exact Bool.noConfusion mark

/-- The last character of a word is a word character. -/
theorem IsWord.isWordSide_getLast? {word : Text} (isWord : word.IsWord) :
    isWordSide word.getLast? = true := by
  rw [List.getLast?_eq_some_getLast isWord.1]
  exact isWord.2 _ (List.getLast_mem isWord.1)

/-- The first character of a word is a word character. -/
theorem IsWord.isWordSide_head? {word : Text} (isWord : word.IsWord) :
    isWordSide word.head? = true := by
  rw [List.head?_eq_some_head isWord.1]
  exact isWord.2 _ (List.head_mem isWord.1)

theorem IsWord.hasWordEnds {word : Text} (isWord : word.IsWord) : word.HasWordEnds :=
  ⟨isWord.isWordSide_head?, isWord.isWordSide_getLast?⟩

theorem HasWordEnds.ne_nil {word : Text} (ends : word.HasWordEnds) : word ≠ [] := by
  rintro rfl
  exact Bool.noConfusion ends.1

theorem HasWordEnds.head?_append {word : Text} (ends : word.HasWordEnds) (rest : Text) :
    (word ++ rest).head? = word.head? := by
  cases word with
  | nil => exact absurd rfl ends.ne_nil
  | cons c others => rfl

theorem HasWordEnds.getLast?_or {word : Text} (ends : word.HasWordEnds)
    (before : Option Char) : word.getLast?.or before = word.getLast? := by
  rw [List.getLast?_eq_some_getLast ends.ne_nil, Option.some_or]

theorem IsWord.head?_append {word : Text} (isWord : word.IsWord) (rest : Text) :
    (word ++ rest).head? = word.head? :=
  isWord.hasWordEnds.head?_append rest

theorem IsWord.getLast?_or {word : Text} (isWord : word.IsWord) (before : Option Char) :
    word.getLast?.or before = word.getLast? :=
  isWord.hasWordEnds.getLast?_or before

/-- What a text starts with is a word as soon as its first character is one. -/
theorem isWord_takeWhile {c : Char} {rest : Text} (word : isWordChar c = true) :
    IsWord (c :: rest.takeWhile isWordChar) := by
  refine ⟨List.cons_ne_nil _ _, ?_⟩
  intro d member
  rcases List.mem_cons.1 member with rfl | later
  · exact word
  · exact List.mem_takeWhile_imp later

/-- A text is its first character with the word characters behind it, and the rest. -/
theorem cons_eq_run_append (c : Char) (rest : Text) :
    c :: rest = (c :: rest.takeWhile isWordChar) ++ rest.dropWhile isWordChar := by
  rw [List.cons_append, List.takeWhile_append_dropWhile]

/-! ## Pieces -/

@[simp]
theorem pieces_nil : pieces [] = [] := by
  rw [pieces]

theorem pieces_cons_mark {c : Char} (rest : Text) (mark : isWordChar c = false) :
    pieces (c :: rest) = .mark c :: pieces rest := by
  rw [pieces, mark]
  rfl

/-- A word in front of something else is one piece. -/
theorem pieces_append_of_stop {run after : Text} (isWord : run.IsWord)
    (stop : isWordSide after.head? = false) :
    pieces (run ++ after) = .word run :: pieces after := by
  obtain ⟨nonempty, word⟩ := isWord
  cases run with
  | nil => contradiction
  | cons c others =>
      have wordFirst : isWordChar c = true := word c List.mem_cons_self
      have wordOthers : ∀ d ∈ others, isWordChar d = true :=
        fun d member => word d (List.mem_cons_of_mem c member)
      rw [List.cons_append, pieces, if_pos wordFirst,
        takeWhile_append_of_stop wordOthers stop, dropWhile_append_of_stop wordOthers stop]

/-- Induction on the pieces of a text: a property of all texts holds of the empty text
and passes from what follows a mark or a whole run to the text with it in front. -/
@[elab_as_elim]
theorem induction_on_pieces {motive : Text → Prop} (text : Text) (nil : motive [])
    (mark : ∀ c rest, isWordChar c = false → motive rest → motive (c :: rest))
    (word : ∀ run after : Text, run.IsWord → isWordSide after.head? = false → motive after →
      motive (run ++ after)) : motive text := by
  fun_induction pieces text with
  | case1 => exact nil
  | case2 c rest first ih =>
      have isRun : IsWord (c :: rest.takeWhile isWordChar) := isWord_takeWhile first
      have whole := word _ _ isRun (isWordSide_head?_dropWhile rest) ih
      rwa [← cons_eq_run_append] at whole
  | case3 c rest other ih => exact mark c rest (Bool.eq_false_iff.2 other) ih

/-- On both sides of a cut between words the pieces are found by themselves. -/
theorem pieces_append_of_apart {front back : Text}
    (apart : isWordSide front.getLast? = false ∨ isWordSide back.head? = false) :
    pieces (front ++ back) = front.pieces ++ back.pieces := by
  induction front using induction_on_pieces with
  | nil => rw [pieces_nil, List.nil_append, List.nil_append]
  | mark c rest mark ih =>
      rw [isWordSide_getLast?_cons_mark mark] at apart
      rw [List.cons_append, pieces_cons_mark _ mark, pieces_cons_mark _ mark, ih apart,
        List.cons_append]
  | word run after isWord stop ih =>
      cases after with
      | nil =>
          rw [List.append_nil, isWord.isWordSide_getLast?] at apart
          have stops := apart.resolve_left (Bool.noConfusion ·)
          have alone := pieces_append_of_stop isWord stop
          rw [List.append_nil, pieces_nil] at alone
          rw [List.append_nil, alone, pieces_append_of_stop isWord stops, List.singleton_append]
      | cons d others =>
          have stops : isWordSide (d :: others ++ back).head? = false := stop
          rw [List.getLast?_append_of_ne_nil _ (List.cons_ne_nil d others)] at apart
          rw [List.append_assoc, pieces_append_of_stop isWord stops,
            pieces_append_of_stop isWord stop, ih apart, List.cons_append]

/-- The pieces make up the text. -/
theorem flatMap_source_pieces (text : Text) : text.pieces.flatMap Piece.source = text := by
  fun_induction pieces text with
  | case1 => rfl
  | case2 c rest _ ih =>
      rw [List.flatMap_cons, ih, Piece.source, List.cons_append,
        List.takeWhile_append_dropWhile]
  | case3 c rest _ ih =>
      rw [List.flatMap_cons, ih]
      rfl

theorem mem_wordRuns {text run : Text} : run ∈ text.wordRuns ↔ .word run ∈ text.pieces := by
  rw [wordRuns, List.mem_filterMap]
  constructor
  · rintro ⟨piece, member, isRun⟩
    cases piece with
    | mark c => simp [Piece.run?] at isRun
    | word other =>
        rw [Piece.run?, Option.some_inj] at isRun
        rwa [isRun] at member
  · intro member
    exact ⟨_, member, rfl⟩

/-- Every run is a word. -/
theorem isWord_of_mem_wordRuns {text run : Text} (member : run ∈ text.wordRuns) :
    run.IsWord := by
  rw [mem_wordRuns] at member
  fun_induction pieces text with
  | case1 => simp at member
  | case2 c rest word ih =>
      rw [List.mem_cons, Piece.word.injEq] at member
      rcases member with rfl | later
      · exact isWord_takeWhile word
      · exact ih later
  | case3 c rest _ ih => exact ih (by simpa using member)

/-- A word that goes on to neither side is a run of the text. -/
theorem IsMaximalRun.mem_wordRuns {before run after : Text}
    (maximal : IsMaximalRun before run after) : run ∈ (before ++ (run ++ after)).wordRuns := by
  rw [Text.mem_wordRuns, pieces_append_of_apart (.inl maximal.start),
    pieces_append_of_stop maximal.isWord maximal.stop]
  exact List.mem_append_right _ List.mem_cons_self

/-- A word that stops where it ends is the end of a run. -/
theorem exists_isMaximalRun (front : Text) {word after : Text} (isWord : word.IsWord)
    (stop : isWordSide after.head? = false) :
    ∃ before start, front = before ++ start ∧ IsMaximalRun before (start ++ word) after := by
  refine ⟨front.rdropWhile isWordChar, front.rtakeWhile isWordChar,
    List.rdropWhile_append_rtakeWhile.symm, ⟨?_, ?_⟩, ?_, stop⟩
  · exact List.append_ne_nil_of_right_ne_nil _ isWord.1
  · intro c member
    rcases List.mem_append.1 member with start | inside
    · exact List.mem_rtakeWhile_imp start
    · exact isWord.2 c inside
  · by_cases empty : front.rdropWhile isWordChar = []
    · rw [empty]
      rfl
    · rw [List.getLast?_eq_some_getLast empty]
      exact Bool.eq_false_iff.2 (List.rdropWhile_last_not _ _ empty)

/-! ## Replacing words -/

/-- Replacing runs leaves the marks at the beginning of a text in place. -/
theorem head?_mapWords {text : Text} (image : Text → Text)
    (stop : isWordSide text.head? = false) :
    (text.mapWords image).head? = text.head? := by
  cases text with
  | nil => simp [mapWords]
  | cons c rest =>
      have mark : isWordChar c = false := stop
      simp [mapWords, pieces_cons_mark rest mark, Piece.map, Piece.source]

/-- As long as words are replaced by words, the pieces of the result are the
pieces of the text with their runs replaced. -/
theorem pieces_mapWords {image : Text → Text}
    (words : ∀ run : Text, run.IsWord → (image run).IsWord) (text : Text) :
    (text.mapWords image).pieces = text.pieces.map (Piece.map image) := by
  unfold mapWords
  fun_induction pieces text with
  | case1 => simp
  | case2 c rest word ih =>
      have stop := head?_mapWords image (isWordSide_head?_dropWhile rest)
      rw [mapWords] at stop
      rw [List.map_cons, List.flatMap_cons, Piece.map, Piece.source, pieces_append_of_stop, ih]
      · exact words _ (isWord_takeWhile word)
      · rw [stop]
        exact isWordSide_head?_dropWhile rest
  | case3 c rest mark ih =>
      rw [Bool.not_eq_true] at mark
      rw [List.map_cons, List.flatMap_cons, Piece.map, Piece.source, List.singleton_append,
        pieces_cons_mark _ mark, ih]

/-- The runs of the result are the images of the runs of the text. -/
theorem wordRuns_mapWords {image : Text → Text}
    (words : ∀ run : Text, run.IsWord → (image run).IsWord) (text : Text) :
    (text.mapWords image).wordRuns = text.wordRuns.map image := by
  have same : Piece.run? ∘ Piece.map image = fun piece => piece.run?.map image := by
    funext piece
    cases piece with
    | word run => rfl
    | mark c => rfl
  rw [wordRuns, pieces_mapWords words, List.filterMap_map, same, wordRuns, List.map_filterMap]

/-- Two replacements one after the other amount to one. -/
theorem mapWords_mapWords {first : Text → Text}
    (words : ∀ run : Text, run.IsWord → (first run).IsWord) (second : Text → Text)
    (text : Text) :
    (text.mapWords first).mapWords second = text.mapWords (second ∘ first) := by
  rw [mapWords, pieces_mapWords words, List.map_map]
  simp only [mapWords, Function.comp_def, Piece.map_map]

/-- A replacement that keeps every run of a text keeps the text. -/
theorem mapWords_eq_self {image : Text → Text} {text : Text}
    (kept : ∀ run ∈ text.wordRuns, image run = run) : text.mapWords image = text := by
  have same : text.pieces.map (Piece.map image) = text.pieces.map id := by
    refine List.map_congr_left fun piece member => ?_
    cases piece with
    | mark c => rfl
    | word run => rw [Piece.map, kept run (mem_wordRuns.2 member), id_eq]
  rw [mapWords, same, List.map_id, flatMap_source_pieces]

end Text

end KeywordBridge
