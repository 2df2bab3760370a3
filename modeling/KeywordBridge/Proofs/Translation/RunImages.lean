import KeywordBridge.Proofs.Keyword.Lookup
import KeywordBridge.Proofs.Translation.WordReplacement

/-!
# What a translation makes of the runs of a text

There is one way only to cut a text into maximal runs of word characters and the
marks between them. A translation goes through this cut: a run that is a keyword
becomes its counterpart, and every other run and every mark stays as it is. It is
therefore a look-up word by word, in which neither the length of a keyword nor its
place in the table plays a part.
-/

namespace KeywordBridge

namespace Text

/-- The text consists of the pieces in their order, the words among them go on to
neither side, and the marks among them belong to no word. -/
inductive IsCutInto : Text → List Piece → Prop
  | nil : IsCutInto [] []
  | word {run after : Text} {others : List Piece} (isWord : run.IsWord)
      (stop : isWordSide after.head? = false) (behind : IsCutInto after others) :
      IsCutInto (run ++ after) (.word run :: others)
  | mark {c : Char} {rest : Text} {others : List Piece} (outside : isWordChar c = false)
      (behind : IsCutInto rest others) : IsCutInto (c :: rest) (.mark c :: others)

theorem isCutInto_pieces (text : Text) : text.IsCutInto text.pieces := by
  induction text using induction_on_pieces with
  | nil =>
      rw [pieces_nil]
      exact .nil
  | mark c rest mark ih =>
      rw [pieces_cons_mark rest mark]
      exact .mark mark ih
  | word run after isWord stop ih =>
      rw [pieces_append_of_stop isWord stop]
      exact .word isWord stop ih

/-- No text is cut in two ways. -/
theorem IsCutInto.eq_pieces {text : Text} {others : List Piece} (cut : text.IsCutInto others) :
    others = text.pieces := by
  induction cut with
  | nil => rw [pieces_nil]
  | word isWord stop behind ih => rw [pieces_append_of_stop isWord stop, ih]
  | mark outside behind ih => rw [pieces_cons_mark _ outside, ih]

theorem IsCutInto.flatMap_source {text : Text} {others : List Piece}
    (cut : text.IsCutInto others) : others.flatMap Piece.source = text := by
  rw [cut.eq_pieces, flatMap_source_pieces]

/-- A run among the pieces of a text goes on to neither side. -/
theorem IsCutInto.isMaximalRun {text : Text} {earlier later : List Piece} {run : Text}
    (cut : text.IsCutInto (earlier ++ .word run :: later)) :
    IsMaximalRun (earlier.flatMap Piece.source) run (later.flatMap Piece.source) := by
  induction earlier generalizing text with
  | nil =>
      cases cut with
      | word isWord stop behind => exact ⟨isWord, rfl, by rwa [behind.flatMap_source]⟩
  | cons piece others ih =>
      cases cut with
      | @mark c _ _ outside behind =>
          obtain ⟨isWord, start, stop⟩ := ih behind
          refine ⟨isWord, ?_, stop⟩
          rw [List.flatMap_cons, Piece.source, List.singleton_append, List.getLast?_cons]
          cases last : (others.flatMap Piece.source).getLast? with
          | none => exact outside
          | some d => rwa [last] at start
      | @word other _ _ _ stopOther behind =>
          obtain ⟨isWord, start, stop⟩ := ih behind
          refine ⟨isWord, ?_, stop⟩
          rw [List.flatMap_cons, List.getLast?_append]
          cases last : (others.flatMap Piece.source).getLast? with
          | some d => rwa [last] at start
          | none =>
              -- Two runs would meet here, but the first one stops.
              rw [← behind.flatMap_source, List.append_eq, List.flatMap_append, List.flatMap_cons,
                List.getLast?_eq_none_iff.1 last, List.nil_append, Piece.source,
                isWord.head?_append, isWord.isWordSide_head?] at stopOther
              exact Bool.noConfusion stopOther

end Text

namespace Table

theorem forwardWord_of_not_mem_surfaces (table : Table) {run : Text}
    (unlisted : run ∉ table.surfaces) : table.forwardWord run = run := by
  have missing : table.bySurface? run = none := by
    rw [bySurface?, List.find?_eq_none]
    intro entry listed same
    exact unlisted (List.mem_map.2 ⟨entry, listed, beq_iff_eq.1 same⟩)
  rw [forwardWord, targetFor?, missing, Option.map_none, Option.getD_none]

theorem reverseWord_of_not_mem_targets (table : Table) {run : Text}
    (unlisted : run ∉ table.targets) : table.reverseWord run = run := by
  have missing : table.byTarget? run = none := by
    rw [byTarget?, List.find?_eq_none]
    intro entry listed same
    exact unlisted (List.mem_map.2 ⟨entry, listed, beq_iff_eq.1 same⟩)
  rw [reverseWord, surfaceFor?, missing, Option.map_none, Option.getD_none]

/-- Replacing the surface keywords among all words is looking every word up. -/
theorem replaceListed_surfaces (table : Table) :
    replaceListed table.surfaces table.forwardWord = table.forwardWord := by
  funext run
  by_cases listed : run ∈ table.surfaces
  · exact replaceListed_of_mem _ listed
  · rw [replaceListed_of_not_mem _ listed, table.forwardWord_of_not_mem_surfaces listed]

theorem replaceListed_targets (table : Table) :
    replaceListed table.targets table.reverseWord = table.reverseWord := by
  funext run
  by_cases listed : run ∈ table.targets
  · exact replaceListed_of_mem _ listed
  · rw [replaceListed_of_not_mem _ listed, table.reverseWord_of_not_mem_targets listed]

section

variable {table : Table} (words : table.HasWordKeywords)

include words

theorem HasWordKeywords.isWord_forwardWord (run : Text) (isRun : run.IsWord) :
    (table.forwardWord run).IsWord := by
  rw [← table.replaceListed_surfaces]
  apply isWord_replaceListed _ run isRun
  intro word listed
  exact words.isWord_of_mem_targets _ (table.forwardWord_of_mem_surfaces listed).1

theorem HasWordKeywords.isWord_reverseWord (run : Text) (isRun : run.IsWord) :
    (table.reverseWord run).IsWord := by
  rw [← table.replaceListed_targets]
  apply isWord_replaceListed _ run isRun
  intro word listed
  exact words.isWord_of_mem_surfaces _ (table.reverseWord_of_mem_targets listed).1

end

section

variable {table : Table} (words : table.HasWordKeywords) {text : Text}
  (written : text.isBlank = false)

include words written

theorem HasWordKeywords.forward_eq_mapWords :
    table.forward text = text.mapWords table.forwardWord := by
  rw [forward, replaceKeywords_eq_mapWords words.isWord_of_mem_surfaces _ written,
    replaceListed_surfaces]

theorem HasWordKeywords.reverse_eq_mapWords :
    table.reverse text = text.mapWords table.reverseWord := by
  rw [reverse, replaceKeywords_eq_mapWords words.isWord_of_mem_targets _ written,
    replaceListed_targets]

end

/-- Texts whose words are replaced alike have the same translation. -/
theorem HasWordKeywords.forward_congr {table : Table} (words : table.HasWordKeywords)
    {first second : Text}
    (same : first.mapWords table.forwardWord = second.mapWords table.forwardWord) :
    table.forward first = table.forward second := by
  have sameBlank : first.isBlank = second.isBlank := by
    rw [← isBlank_mapWords words.isWord_forwardWord, same,
      isBlank_mapWords words.isWord_forwardWord]
  cases blank : second.isBlank with
  | true =>
      rw [forward, forward, replaceKeywords, replaceKeywords, sameBlank, blank, if_pos rfl,
        if_pos rfl]
  | false =>
      rw [words.forward_eq_mapWords blank, words.forward_eq_mapWords (sameBlank.trans blank), same]

/-- A translation replaces the runs of a text that are keywords by their
counterparts and keeps the other runs and the marks, in their order. -/
theorem translation_of_runs {table : Table} (words : table.HasWordKeywords) {text : Text}
    (written : text.isBlank = false) :
    ∃ pieces, text.IsCutInto pieces ∧ (∀ others, text.IsCutInto others → others = pieces) ∧
      (∀ earlier run later, pieces = earlier ++ .word run :: later →
        Text.IsMaximalRun (earlier.flatMap Piece.source) run (later.flatMap Piece.source)) ∧
      table.forward text =
        (pieces.map (Piece.map table.forwardWord)).flatMap Piece.source ∧
      table.reverse text =
        (pieces.map (Piece.map table.reverseWord)).flatMap Piece.source ∧
      (∀ entry ∈ table.entries, table.forwardWord entry.surface = entry.target ∧
        table.reverseWord entry.target = entry.surface) ∧
      (∀ run, run ∉ table.surfaces → table.forwardWord run = run) ∧
      ∀ run, run ∉ table.targets → table.reverseWord run = run := by
  have cut := text.isCutInto_pieces
  refine ⟨text.pieces, cut, fun _ other => other.eq_pieces, fun earlier run later split => ?_,
    words.forward_eq_mapWords written, words.reverse_eq_mapWords written,
    fun entry listed => ⟨?_, ?_⟩, fun _ => table.forwardWord_of_not_mem_surfaces,
    fun _ => table.reverseWord_of_not_mem_targets⟩
  · rw [split] at cut
    exact cut.isMaximalRun
  · rw [forwardWord, table.targetFor?_surface listed, Option.getD_some]
  · rw [reverseWord, table.surfaceFor?_target listed, Option.getD_some]

/-- The default table at a text in which keywords are parts of one another, follow
digits and meet a letter of another script. -/
theorem translation_of_runs_overlapping :
    default.HasWordKeywords ∧
      Text.isBlank "okanye_ukuba(okanye) 2nge ngeж:nge" = false ∧
      Text.IsCutInto "okanye_ukuba(okanye) 2nge ngeж:nge"
        [.word "okanye_ukuba", .mark '(', .word "okanye", .mark ')', .mark ' ', .word "2nge",
          .mark ' ', .word "ngeж", .mark ':', .word "nge"] ∧
      default.forward "okanye_ukuba(okanye) 2nge ngeж:nge" =
        ("elif(or) 2nge ngeж:with" : Text) ∧
      default.reverse "okanye_ukuba(okanye) 2nge ngeж:nge" =
        ("okanye_ukuba(okanye) 2nge ngeж:nge" : Text) := by
  have words := default_hasWordKeywords
  have written : Text.isBlank "okanye_ukuba(okanye) 2nge ngeж:nge" = false := by
    decide +kernel
  obtain ⟨pieces, cut, unique, -, forward, reverse, -, -, -⟩ := translation_of_runs words written
  have found : pieces =
      [.word "okanye_ukuba", .mark '(', .word "okanye", .mark ')', .mark ' ', .word "2nge",
        .mark ' ', .word "ngeж", .mark ':', .word "nge"] := by
    rw [← unique _ (Text.isCutInto_pieces _)]
    decide +kernel
  subst found
  refine ⟨words, written, cut, forward.trans ?_, reverse.trans ?_⟩
  · decide +kernel
  · decide +kernel

end Table

end KeywordBridge
