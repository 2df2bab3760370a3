import KeywordBridge.Keyword.Default
import KeywordBridge.Keyword.Segment
import KeywordBridge.Proofs.Text.WordRuns

/-!
# Keywords that are words

A keyword that consists of word characters stands at a position exactly when it
is the whole run of word characters there. So at most one such keyword stands at
a position, the search for the longest one is a look-up of the run, and the
segments of a text are its pieces: a run that is listed is a keyword, and
everything else is kept character by character.
-/

namespace KeywordBridge

/-- The keywords of both sides are words. -/
def Table.HasWordKeywords (table : Table) : Prop :=
  ∀ entry ∈ table.entries, entry.surface.IsWord ∧ entry.target.IsWord

instance (table : Table) : Decidable table.HasWordKeywords :=
  inferInstanceAs (Decidable (∀ entry ∈ table.entries, _ ∧ _))

/-- The keywords of the default table are words. -/
theorem Table.default_hasWordKeywords : Table.default.HasWordKeywords := by
  decide +kernel

theorem Table.HasWordKeywords.isWord_of_mem_surfaces {table : Table}
    (words : table.HasWordKeywords) : ∀ word ∈ table.surfaces, word.IsWord :=
  List.forall_mem_map.2 fun entry listed => (words entry listed).1

theorem Table.HasWordKeywords.isWord_of_mem_targets {table : Table}
    (words : table.HasWordKeywords) : ∀ word ∈ table.targets, word.IsWord :=
  List.forall_mem_map.2 fun entry listed => (words entry listed).2

/-! ## Where a word stands -/

/-- A keyword with word characters at its ends stands where its neighbours belong to no
word. -/
theorem standsAt_iff_of_hasWordEnds {word : Text} (ends : word.HasWordEnds)
    (before : Option Char) (text : Text) :
    standsAt before text word = true ↔
      Text.isWordSide before = false ∧
        ∃ rest, word ++ rest = text ∧ Text.isWordSide rest.head? = false := by
  simp only [standsAt, Bool.and_eq_true, List.isPrefixOf_iff_prefix, Text.isBoundary,
    bne_iff_ne, ne_eq, ends.getLast?_or, ends.2]
  constructor
  · rintro ⟨⟨⟨rest, rfl⟩, opens⟩, closes⟩
    rw [ends.head?_append, ends.1, Bool.not_eq_true] at opens
    rw [List.drop_left, eq_comm, Bool.not_eq_true] at closes
    exact ⟨opens, rest, rfl, closes⟩
  · rintro ⟨opens, rest, rfl, closes⟩
    rw [ends.head?_append, ends.1, opens, List.drop_left, closes]
    exact ⟨⟨List.prefix_append _ _, by simp⟩, by simp⟩

/-- Behind something other than a word character, a word stands exactly where it
is the run of word characters that starts there. -/
theorem standsAt_iff_of_isWord {word : Text} (isWord : word.IsWord) (before : Option Char)
    (text : Text) :
    standsAt before text word = true ↔
      Text.isWordSide before = false ∧ text.takeWhile isWordChar = word := by
  rw [standsAt_iff_of_hasWordEnds isWord.hasWordEnds]
  refine and_congr_right fun _ => ⟨?_, fun run => ?_⟩
  · rintro ⟨rest, rfl, stop⟩
    exact Text.takeWhile_append_of_stop isWord.2 stop
  · rw [← run]
    exact ⟨_, List.takeWhile_append_dropWhile, Text.isWordSide_head?_dropWhile text⟩

theorem longest?_isSome {words : List Text} {word : Text} (listed : word ∈ words) :
    (longest? words).isSome = true := by
  cases words with
  | nil => simp at listed
  | cons first others =>
      simp only [longest?]
      split
      · rfl
      · split <;> rfl

/-- Where a keyword stands, one that is at least as long is found. -/
theorem exists_keywordAt?_of_standsAt {words : List Text} {before : Option Char}
    {text word : Text} (listed : word ∈ words) (stands : standsAt before text word = true) :
    ∃ found, keywordAt? words before text = some found ∧ word.length ≤ found.length := by
  have candidate := List.mem_filter.2 ⟨listed, stands⟩
  obtain ⟨found, isFound⟩ := Option.isSome_iff_exists.1 (longest?_isSome candidate)
  exact ⟨found, isFound, length_le_of_longest? isFound word candidate⟩

/-- Looking for a keyword among words is looking up the run that starts there. -/
theorem keywordAt?_of_isWord {words : List Text} (isWord : ∀ word ∈ words, word.IsWord)
    (before : Option Char) (text : Text) :
    keywordAt? words before text =
      if Text.isWordSide before = false ∧ text.takeWhile isWordChar ∈ words then
        some (text.takeWhile isWordChar)
      else none := by
  split
  · rename_i listed
    obtain ⟨opens, listed⟩ := listed
    have stands := (standsAt_iff_of_isWord (isWord _ listed) before text).2 ⟨opens, rfl⟩
    obtain ⟨found, isFound, -⟩ := exists_keywordAt?_of_standsAt listed stands
    have same := standsAt_of_keywordAt? isFound
    rw [standsAt_iff_of_isWord (isWord _ same.1)] at same
    rw [isFound, same.2.2]
  · rename_i unlisted
    cases found : keywordAt? words before text with
    | none => rfl
    | some word =>
        obtain ⟨listed, stands⟩ := standsAt_of_keywordAt? found
        rw [standsAt_iff_of_isWord (isWord _ listed)] at stands
        rw [stands.2] at unlisted
        exact absurd ⟨stands.1, listed⟩ unlisted

/-! ## Segments -/

/-- The character in front of what follows a text is the last of the text. -/
theorem getLast?_cons_or (c : Char) (others : Text) (before : Option Char) :
    (c :: others).getLast?.or before = others.getLast?.or (some c) := by
  rw [List.getLast?_cons]
  cases others.getLast? <;> rfl

/-- The characters of a keyword that was found are passed over. -/
theorem segmentsFrom_append_covered (words : List Text) (before : Option Char)
    (value rest : Text) :
    segmentsFrom words value.length before (value ++ rest) =
      segmentsFrom words 0 (value.getLast?.or before) rest := by
  induction value generalizing before with
  | nil => rfl
  | cons c others ih =>
      rw [List.length_cons, List.cons_append, segmentsFrom, ih, getLast?_cons_or]

/-- Characters at none of which a keyword stands are kept. -/
theorem segmentsFrom_append_kept {words : List Text} {before : Option Char}
    {value rest : Text}
    (free : ∀ head c tail, value = head ++ c :: tail →
      keywordAt? words (head.getLast?.or before) (c :: tail ++ rest) = none) :
    segmentsFrom words 0 before (value ++ rest) =
      value.map .kept ++ segmentsFrom words 0 (value.getLast?.or before) rest := by
  induction value generalizing before with
  | nil => rfl
  | cons c others ih =>
      have here : keywordAt? words before (c :: (others ++ rest)) = none :=
        free [] c others rfl
      have behind : ∀ head d tail, others = head ++ d :: tail →
          keywordAt? words (head.getLast?.or (some c)) (d :: tail ++ rest) = none := by
        intro head d tail cut
        rw [← getLast?_cons_or c head before]
        exact free (c :: head) d tail (by rw [cut, List.cons_append])
      rw [List.cons_append, segmentsFrom, here, List.map_cons, List.cons_append,
        getLast?_cons_or, ← ih behind]

/-- The segments of a piece: a run that is listed is a keyword. -/
def Piece.segments (words : List Text) : Piece → List Segment
  | word run => if words.contains run then [.keyword run] else run.map .kept
  | mark c => [.kept c]

theorem Piece.segments_of_mem {words : List Text} {run : Text} (listed : run ∈ words) :
    (word run).segments words = [.keyword run] := by
  rw [segments, if_pos (List.contains_iff_mem.2 listed)]

theorem Piece.segments_of_not_mem {words : List Text} {run : Text} (unlisted : run ∉ words) :
    (word run).segments words = run.map .kept := by
  rw [segments, if_neg fun listed => unlisted (List.contains_iff_mem.1 listed)]

section

variable {words : List Text} (isWord : ∀ word ∈ words, word.IsWord)

include isWord

/-- No keyword stands at a character that is not a word character. -/
theorem keywordAt?_of_mark (before : Option Char) {text : Text}
    (mark : Text.isWordSide text.head? = false) : keywordAt? words before text = none := by
  have empty : text.takeWhile isWordChar = [] := by
    cases text with
    | nil => rfl
    | cons c rest => exact List.takeWhile_cons_of_neg (Bool.eq_false_iff.1 mark)
  rw [keywordAt?_of_isWord isWord, empty, if_neg]
  rintro ⟨-, listed⟩
  exact (isWord [] listed).1 rfl

/-- No keyword stands behind a word character. -/
theorem keywordAt?_behind_word {before : Option Char} (text : Text)
    (inside : Text.isWordSide before = true) : keywordAt? words before text = none := by
  rw [keywordAt?_of_isWord isWord, if_neg]
  rintro ⟨outside, -⟩
  rw [inside] at outside
  exact Bool.noConfusion outside

/-- A run of word characters is one keyword or is kept. -/
theorem segmentsFrom_append_run {run after : Text} (isRun : run.IsWord)
    {before : Option Char} (start : Text.isWordSide before = false)
    (stop : Text.isWordSide after.head? = false) :
    segmentsFrom words 0 before (run ++ after) =
      (Piece.word run).segments words ++ segmentsFrom words 0 run.getLast? after := by
  have found := keywordAt?_of_isWord isWord before (run ++ after)
  rw [Text.takeWhile_append_of_stop isRun.2 stop] at found
  by_cases listed : run ∈ words
  · rw [if_pos ⟨start, listed⟩] at found
    rw [Piece.segments_of_mem listed]
    cases run with
    | nil => exact absurd rfl isRun.1
    | cons c others =>
        rw [List.cons_append] at found
        rw [List.cons_append, segmentsFrom, found]
        simp only [segmentsFrom_append_covered, ← getLast?_cons_or c others none,
          Option.or_none, List.singleton_append]
  · rw [if_neg fun both => listed both.2] at found
    rw [Piece.segments_of_not_mem listed, segmentsFrom_append_kept, isRun.getLast?_or]
    intro head c tail cut
    cases head with
    | nil =>
        rw [List.nil_append] at cut
        rw [← cut]
        exact found
    | cons d others =>
        have passed : Text.IsWord (d :: others) := by
          refine ⟨List.cons_ne_nil d others, fun e member => isRun.2 e ?_⟩
          rw [cut]
          exact List.mem_append_left _ member
        apply keywordAt?_behind_word isWord
        rw [passed.getLast?_or]
        exact passed.isWordSide_getLast?

/-- The segments of a text are those of its pieces. -/
theorem segmentsFrom_eq_pieces {before : Option Char} {text : Text}
    (apart : Text.isWordSide before = false ∨ Text.isWordSide text.head? = false) :
    segmentsFrom words 0 before text = text.pieces.flatMap (Piece.segments words) := by
  fun_induction Text.pieces text generalizing before with
  | case1 =>
      rw [segmentsFrom, keywordAt?_of_mark isWord before rfl]
      rfl
  | case2 c rest word ih =>
      have start : Text.isWordSide before = false := by
        rcases apart with outside | mark
        · exact outside
        · exact absurd word (Bool.eq_false_iff.1 mark)
      have stop := Text.isWordSide_head?_dropWhile rest
      have cut := Text.cons_eq_run_append c rest
      rw [cut, segmentsFrom_append_run isWord (Text.isWord_takeWhile word) start stop,
        ih (.inr stop), List.flatMap_cons]
  | case3 c rest mark ih =>
      have outside : Text.isWordSide (some c) = false := Bool.eq_false_iff.2 mark
      have free : keywordAt? words before (c :: rest) = none :=
        keywordAt?_of_mark isWord before outside
      rw [segmentsFrom, free, List.flatMap_cons, ← ih (.inl outside)]
      rfl

end

end KeywordBridge
