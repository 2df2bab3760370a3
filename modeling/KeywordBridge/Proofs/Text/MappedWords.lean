import KeywordBridge.Proofs.Text.Lines
import KeywordBridge.Proofs.Text.WordRuns
import Mathlib.Data.List.DropRight

/-!
# A text with its words replaced

Replacing the words of a text by words keeps the marks between them. So it can be
done on both sides of a mark by itself, it goes line by line, it keeps the returns at
the end of a line, and a scan that passes all word characters stops at the same mark.
-/

namespace KeywordBridge

namespace Text

/-! ## Marks and words -/

section

variable (image : Text → Text)

@[simp]
theorem mapWords_nil : mapWords image [] = [] := by
  rw [mapWords, pieces_nil, List.map_nil, List.flatMap_nil]

theorem mapWords_cons_mark {c : Char} (mark : isWordChar c = false) (rest : Text) :
    mapWords image (c :: rest) = c :: mapWords image rest := by
  rw [mapWords, pieces_cons_mark rest mark, List.map_cons, List.flatMap_cons, Piece.map,
    Piece.source, List.singleton_append, mapWords]

theorem mapWords_of_marks {text : Text} (marks : ∀ c ∈ text, isWordChar c = false) :
    mapWords image text = text := by
  induction text with
  | nil => exact mapWords_nil image
  | cons c rest ih =>
      rw [List.forall_mem_cons] at marks
      rw [mapWords_cons_mark image marks.1, ih marks.2]

theorem mapWords_append_of_stop {run after : Text} (isWord : run.IsWord)
    (stop : isWordSide after.head? = false) :
    mapWords image (run ++ after) = image run ++ mapWords image after := by
  rw [mapWords, pieces_append_of_stop isWord stop, List.map_cons, List.flatMap_cons, Piece.map,
    Piece.source, mapWords]

/-- On both sides of a cut between words, words are replaced by themselves. -/
theorem mapWords_append_of_apart {front back : Text}
    (apart : isWordSide front.getLast? = false ∨ isWordSide back.head? = false) :
    mapWords image (front ++ back) = front.mapWords image ++ back.mapWords image := by
  rw [mapWords, pieces_append_of_apart apart, List.map_append, List.flatMap_append, mapWords,
    mapWords]

/-- On both sides of a mark words are replaced by themselves. -/
theorem mapWords_append_mark (front : Text) {c : Char} (mark : isWordChar c = false)
    (back : Text) :
    mapWords image (front ++ c :: back) = front.mapWords image ++ c :: back.mapWords image := by
  have apart : isWordSide (c :: back).head? = false := mark
  rw [mapWords_append_of_apart image (.inr apart), mapWords_cons_mark image mark]

end

section

variable {image : Text → Text} (words : ∀ run : Text, run.IsWord → (image run).IsWord)

include words

/-- A mark of the result is a mark of the text. -/
theorem mem_of_mem_mapWords {text : Text} {c : Char} (mark : isWordChar c = false)
    (member : c ∈ text.mapWords image) : c ∈ text := by
  rw [← flatMap_source_pieces text]
  obtain ⟨mapped, listed, inside⟩ := List.mem_flatMap.1 member
  obtain ⟨piece, here, rfl⟩ := List.mem_map.1 listed
  refine List.mem_flatMap.2 ⟨piece, here, ?_⟩
  cases piece with
  | mark d => exact inside
  | word run =>
      have word := (words run (isWord_of_mem_wordRuns (mem_wordRuns.2 here))).2 c inside
      rw [mark] at word
      exact Bool.noConfusion word

omit words in
/-- A mark of the text is a mark of the result. -/
theorem mem_mapWords_of_mem {text : Text} {c : Char} (mark : isWordChar c = false)
    (member : c ∈ text) : c ∈ text.mapWords image := by
  rw [← flatMap_source_pieces text] at member
  obtain ⟨piece, here, inside⟩ := List.mem_flatMap.1 member
  refine List.mem_flatMap.2 ⟨piece.map image, List.mem_map_of_mem here, ?_⟩
  cases piece with
  | mark d => exact inside
  | word run =>
      have word := (isWord_of_mem_wordRuns (mem_wordRuns.2 here)).2 c inside
      rw [mark] at word
      cases word

theorem mapWords_eq_nil_iff {text : Text} : text.mapWords image = [] ↔ text = [] := by
  induction text using induction_on_pieces with
  | nil => rw [mapWords_nil]
  | mark c rest mark _ =>
      rw [mapWords_cons_mark image mark]
      exact iff_of_false (List.cons_ne_nil c _) (List.cons_ne_nil c _)
  | word run after isWord stop _ =>
      rw [mapWords_append_of_stop image isWord stop, List.append_eq_nil_iff,
        List.append_eq_nil_iff]
      exact iff_of_false (fun both => (words run isWord).1 both.1) fun both => isWord.1 both.1

/-! ## Lines -/

/-- Words are replaced line by line. -/
theorem lines_mapWords (text : Text) :
    (text.mapWords image).lines = text.lines.map (mapWords image) := by
  have mark : isWordChar '\n' = false := by decide
  induction size : text.length using Nat.strong_induction_on generalizing text with
  | _ size ih =>
      by_cases inside : '\n' ∈ text
      · obtain ⟨front, back, rfl⟩ := List.append_of_mem inside
        rw [List.length_append, List.length_cons] at size
        rw [mapWords_append_mark image front mark, lines_append_newline, lines_append_newline,
          List.map_append, ih front.length (by omega) front rfl,
          ih back.length (by omega) back rfl]
      · have missing : '\n' ∉ text.mapWords image := fun member =>
          inside (mem_of_mem_mapWords words mark member)
        rw [lines, lines, cutAt_of_not_mem missing, cutAt_of_not_mem inside, List.map_singleton]

/-- Lines whose words are replaced as the lines of a text are joined to a text with these
lines, and the words of the two texts are replaced alike. -/
theorem joinLines_of_map_mapWords {text : Text} {lines : List Text}
    (same : lines.map (mapWords image) = text.lines.map (mapWords image)) :
    (joinLines lines).lines = lines ∧
      (joinLines lines).mapWords image = text.mapWords image := by
  have mark : isWordChar '\n' = false := by decide
  have nonempty : lines ≠ [] := by
    rintro rfl
    exact lines_ne_nil text (List.map_eq_nil_iff.1 same.symm)
  have oneLine : ∀ line ∈ lines, '\n' ∉ line := by
    intro line listed inside
    have mapped : line.mapWords image ∈ lines.map (mapWords image) := List.mem_map_of_mem listed
    rw [same] at mapped
    obtain ⟨other, isOther, alike⟩ := List.mem_map.1 mapped
    have member : '\n' ∈ line.mapWords image := mem_mapWords_of_mem mark inside
    rw [← alike] at member
    exact (mem_of_mem_cutAt isOther (mem_of_mem_mapWords words mark member)).2 rfl
  have cut := lines_joinLines nonempty oneLine
  refine ⟨cut, ?_⟩
  rw [← joinLines_lines ((joinLines lines).mapWords image), lines_mapWords words, cut, same,
    ← lines_mapWords words, joinLines_lines]

/-! ## The end of a line -/

/-- The result ends with a word character exactly if the text does. -/
theorem isWordSide_getLast?_mapWords (text : Text) :
    isWordSide (text.mapWords image).getLast? = isWordSide text.getLast? := by
  induction text using induction_on_pieces with
  | nil => rw [mapWords_nil]
  | mark c rest mark ih =>
      rw [mapWords_cons_mark image mark, isWordSide_getLast?_cons_mark mark,
        isWordSide_getLast?_cons_mark mark, ih]
  | word run after isWord stop ih =>
      rw [mapWords_append_of_stop image isWord stop]
      by_cases empty : after = []
      · rw [empty, mapWords_nil, List.append_nil, List.append_nil,
          (words run isWord).isWordSide_getLast?, isWord.isWordSide_getLast?]
      · have mapped : mapWords image after ≠ [] := fun none =>
          empty ((mapWords_eq_nil_iff words).1 none)
        rw [List.getLast?_append_of_ne_nil _ mapped, List.getLast?_append_of_ne_nil _ empty, ih]

omit words in
theorem dropReturns_append_return (text : Text) :
    (text ++ ['\r']).dropReturns = text.dropReturns :=
  List.rdropWhile_concat_pos _ text '\r' (beq_self_eq_true '\r')

omit words in
theorem dropReturns_append_other (text : Text) {c : Char} (other : c ≠ '\r') :
    (text ++ [c]).dropReturns = text ++ [c] :=
  List.rdropWhile_concat_neg _ text c (by simpa using other)

omit words in
/-- The returns at the end of a line are replaced by themselves. -/
theorem mapWords_append_returns (image : Text → Text) (text line : Text) :
    mapWords image (text ++ line.returns) = text.mapWords image ++ line.returns := by
  have marks : ∀ c ∈ line.returns, isWordChar c = false := by
    intro c member
    rw [eq_return_of_mem_returns member]
    decide
  have apart : isWordSide line.returns.head? = false := by
    cases first : line.returns.head? with
    | none => rfl
    | some c => exact marks c (List.mem_of_mem_head? first)
  rw [mapWords_append_of_apart image (.inr apart), mapWords_of_marks image marks]

omit words in
/-- A text that ends with a word has no returns at its end. -/
theorem dropReturns_of_isWordSide {text : Text} (last : isWordSide text.getLast? = true) :
    text.dropReturns = text := by
  obtain ⟨front, c, rfl⟩ := (List.eq_nil_or_concat' text).resolve_left fun empty => by
    rw [empty] at last
    exact Bool.noConfusion last
  apply dropReturns_append_other
  rintro rfl
  rw [List.getLast?_concat] at last
  exact absurd last (by decide)

/-- Words are replaced whether the returns at the end are dropped before or after. -/
theorem dropReturns_mapWords (text : Text) :
    (text.mapWords image).dropReturns = mapWords image text.dropReturns := by
  induction text using List.reverseRecOn with
  | nil => rw [mapWords_nil, dropReturns, dropEndWhile, List.reverse_nil, List.dropWhile_nil,
      List.reverse_nil, mapWords_nil]
  | append_singleton front c ih =>
      by_cases word : isWordChar c = true
      · have last : isWordSide (front ++ [c]).getLast? = true := by
          rw [List.getLast?_concat]
          exact word
        have mapped := last
        rw [← isWordSide_getLast?_mapWords words] at mapped
        rw [dropReturns_of_isWordSide last, dropReturns_of_isWordSide mapped]
      · rw [mapWords_append_mark image front (Bool.eq_false_iff.2 word), mapWords_nil]
        by_cases isReturn : c = '\r'
        · subst isReturn
          rw [dropReturns_append_return, dropReturns_append_return, ih]
        · rw [dropReturns_append_other _ isReturn, dropReturns_append_other _ isReturn,
            mapWords_append_mark image front (Bool.eq_false_iff.2 word), mapWords_nil]

/-- The returns at the end are kept. -/
theorem returns_mapWords (text : Text) : (text.mapWords image).returns = text.returns := by
  have cut := mapWords_append_returns image text.dropReturns text
  have whole := dropReturns_append_returns (text.mapWords image)
  rw [dropReturns_append_returns] at cut
  rw [dropReturns_mapWords words] at whole
  exact List.append_cancel_left (whole.trans cut)

/-! ## Scanning over words -/

variable {p : Char → Bool} (covers : ∀ c, isWordChar c = true → p c = true)

include covers

/-- A scan that passes all word characters stops at the same mark. -/
theorem dropWhile_mapWords (text : Text) :
    (text.mapWords image).dropWhile p = mapWords image (text.dropWhile p) := by
  induction text using induction_on_pieces with
  | nil => rw [mapWords_nil, List.dropWhile_nil, mapWords_nil]
  | mark c rest mark ih =>
      rw [mapWords_cons_mark image mark]
      by_cases passed : p c = true
      · rw [List.dropWhile_cons_of_pos passed, List.dropWhile_cons_of_pos passed, ih]
      · rw [List.dropWhile_cons_of_neg passed, List.dropWhile_cons_of_neg passed,
          mapWords_cons_mark image mark]
  | word run after isWord stop ih =>
      rw [mapWords_append_of_stop image isWord stop,
        List.dropWhile_append_of_pos fun c member => covers c ((words run isWord).2 c member),
        List.dropWhile_append_of_pos fun c member => covers c (isWord.2 c member), ih]

theorem takeWhile_mapWords (text : Text) :
    (text.mapWords image).takeWhile p = mapWords image (text.takeWhile p) := by
  induction text using induction_on_pieces with
  | nil => rw [mapWords_nil, List.takeWhile_nil, mapWords_nil]
  | mark c rest mark ih =>
      rw [mapWords_cons_mark image mark]
      by_cases passed : p c = true
      · rw [List.takeWhile_cons_of_pos passed, List.takeWhile_cons_of_pos passed, ih,
          mapWords_cons_mark image mark]
      · rw [List.takeWhile_cons_of_neg passed, List.takeWhile_cons_of_neg passed, mapWords_nil]
  | word run after isWord stop ih =>
      have stops : isWordSide (after.takeWhile p).head? = false := by
        cases after with
        | nil => rfl
        | cons c others =>
            rw [List.takeWhile_cons]
            split
            · exact stop
            · rfl
      rw [mapWords_append_of_stop image isWord stop,
        List.takeWhile_append_of_pos fun c member => covers c ((words run isWord).2 c member),
        List.takeWhile_append_of_pos fun c member => covers c (isWord.2 c member), ih,
        mapWords_append_of_stop image isWord stops]

end

end Text

end KeywordBridge
