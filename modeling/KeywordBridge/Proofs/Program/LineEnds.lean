import KeywordBridge.Diagnostic.Validation
import KeywordBridge.Proofs.Program.DefinitionLines
import KeywordBridge.Proofs.Text.LineEnds
import KeywordBridge.Proofs.Token.ProgramLines
import KeywordBridge.Proofs.Translation.RunImages
import KeywordBridge.Suggestion.Completion
import Mathlib.Data.List.GetD

/-!
# Programs with returns at the ends of their lines

Two programs whose lines are the same but for returns at their ends have the same tokens,
the same diagnostics and the same suggestions. Reading drops the returns of every line.
Looking for definitions does not, but a return is a blank there, and a blank at the end of
a line introduces no name. A translation keeps the returns where they are.
-/

namespace KeywordBridge

namespace Text

/-- The lines of the two texts are the same but for the returns at their ends. -/
def SameLines (first second : Text) : Prop :=
  first.lines.map dropReturns = second.lines.map dropReturns

theorem sameLines_withReturns (text : Text) : SameLines text.withReturns text :=
  map_dropReturns_lines_withReturns text

theorem dropReturns_dropReturns (line : Text) : line.dropReturns.dropReturns = line.dropReturns :=
  List.rdropWhile_idempotent _ line

/-- What does not change with one return at the end does not change with any number. -/
theorem view_dropReturns {α : Type} {view : Text → α}
    (same : ∀ line : Text, view (line ++ ['\r']) = view line) (line : Text) :
    view line.dropReturns = view line := by
  induction line using List.reverseRecOn with
  | nil => rfl
  | append_singleton front c ih =>
      by_cases isReturn : c = '\r'
      · subst isReturn
        rw [dropReturns_append_return, ih, same]
      · rw [dropReturns_append_other front isReturn]

end Text

namespace Table

variable {table : Table}

/-! ## Definitions -/

theorem HasWordKeywords.isWord_wordOr (words : table.HasWordKeywords) {target : Text}
    (isWord : target.IsWord) : (table.wordOr target).IsWord := by
  have counterpart := words.isWord_reverseWord target isWord
  unfold reverseWord at counterpart
  unfold wordOr
  split
  · rename_i found
    rwa [found] at counterpart
  · exact isWord

theorem HasWordKeywords.introducedOn_dropReturns (words : table.HasWordKeywords) (line : Text) :
    table.introducedOn line.dropReturns = table.introducedOn line := by
  have isBlank : isBlankChar '\r' = true := by decide
  have mark : isWordChar '\r' = false := Text.isWordChar_blank isBlank
  have inFunctionWord : '\r' ∉ table.functionWord :=
    (words.isWord_wordOr (by decide)).not_mem mark
  have inClassWord : '\r' ∉ table.classWord := (words.isWord_wordOr (by decide)).not_mem mark
  apply Text.view_dropReturns
  intro line
  unfold introducedOn functionName?
  rw [functionFrom?_append_blank isBlank inFunctionWord,
    className?_append_blank isBlank inClassWord, variableName?_append_blank isBlank]

/-! ## Reading -/

variable (table) in
theorem readFrom_map_dropReturns (number : Nat) (mode : Mode) (lines : List Text) :
    table.readFrom number mode (lines.map Text.dropReturns) = table.readFrom number mode lines := by
  induction lines generalizing number mode with
  | nil => rfl
  | cons line rest ih =>
      rw [List.map_cons, readFrom_cons, readFrom_cons, Text.dropReturns_dropReturns, ih]

variable (table) in
theorem modeAfter_map_dropReturns (mode : Mode) (lines : List Text) :
    table.modeAfter mode (lines.map Text.dropReturns) = table.modeAfter mode lines := by
  induction lines generalizing mode with
  | nil => rfl
  | cons line rest ih =>
      rw [List.map_cons, modeAfter, modeAfter, Text.dropReturns_dropReturns, ih]

end Table

/-- Keywords that become words are replaced before the returns are written or after. -/
theorem replaceKeywords_withReturns {words : List Text} {image : Text → Text}
    (isWord : ∀ word ∈ words, word.IsWord) (images : ∀ word ∈ words, (image word).IsWord)
    (text : Text) :
    replaceKeywords words image text.withReturns =
      (replaceKeywords words image text).withReturns := by
  have sameBlank := Text.isBlank_withReturns text
  cases blank : text.isBlank with
  | true =>
      rw [replaceKeywords, replaceKeywords, sameBlank, if_pos blank, if_pos blank]
      rfl
  | false =>
      rw [replaceKeywords_eq_mapWords isWord image (sameBlank.trans blank),
        replaceKeywords_eq_mapWords isWord image blank,
        Text.mapWords_withReturns (isWord_replaceListed images)]

/-- A cursor stands in front of the same text, below the same lines. -/
theorem Place.ofCursor_of_sameLines {first second : Text} (same : first.SameLines second)
    (cursor : Option (Int × Int)) :
    (ofCursor first cursor).before = (ofCursor second cursor).before ∧
      (ofCursor first cursor).above.map Text.dropReturns =
        (ofCursor second cursor).above.map Text.dropReturns := by
  have sameLength : first.lines.length = second.lines.length := by
    rw [← List.length_map, same, List.length_map]
  have sameLine (index : Nat) :
      (first.lines.getD index []).dropReturns = (second.lines.getD index []).dropReturns := by
    have entry (lines : List Text) :
        (lines.getD index []).dropReturns = (lines.map Text.dropReturns).getD index [] :=
      (List.getD_map lines [] Text.dropReturns).symm
    rw [entry, entry, same]
  have sameLast :
      (first.lines.getLastD []).dropReturns = (second.lines.getLastD []).dropReturns := by
    have last (lines : List Text) :
        (lines.getLastD []).dropReturns = (lines.map Text.dropReturns).getLastD [] := by
      rw [List.getLastD_eq_getLast?, List.getLastD_eq_getLast?, List.getLast?_map]
      cases lines.getLast? <;> rfl
    rw [last, last, same]
  cases cursor with
  | none =>
      constructor
      · exact sameLast
      · rw [ofCursor, ofCursor, List.map_dropLast, List.map_dropLast, same]
  | some cursor =>
      obtain ⟨line, column⟩ := cursor
      constructor
      · simp only [ofCursor, sameLength, sameLine]
      · simp only [ofCursor, sameLength, List.map_take]
        rw [same]

namespace Table

variable {table : Table}

/-! ## Texts with the same lines -/

section

variable {first second : Text} (same : first.SameLines second)

include same

theorem read_of_sameLines : table.read first = table.read second := by
  rw [read, read, ← readFrom_map_dropReturns, same, readFrom_map_dropReturns]

theorem isQuiet_of_sameLines (cursor : Option (Int × Int)) :
    table.isQuiet (Place.ofCursor first cursor) = table.isQuiet (Place.ofCursor second cursor) := by
  obtain ⟨before, above⟩ := Place.ofCursor_of_sameLines same cursor
  unfold isQuiet
  rw [← modeAfter_map_dropReturns, above, modeAfter_map_dropReturns, before]

theorem HasWordKeywords.definitions_of_sameLines (words : table.HasWordKeywords) :
    table.definitions first = table.definitions second := by
  have introduced (program : Text) :
      program.lines.flatMap table.introducedOn =
        (program.lines.map Text.dropReturns).flatMap table.introducedOn := by
    rw [List.flatMap_map]
    simp only [words.introducedOn_dropReturns]
  rw [definitions, definitions, introduced, introduced, same]

theorem HasWordKeywords.complete_of_sameLines (words : table.HasWordKeywords) (limit : Int)
    (cursor : Option (Int × Int)) :
    table.complete limit first cursor = table.complete limit second cursor := by
  have typed : (Place.ofCursor first cursor).typed = (Place.ofCursor second cursor).typed := by
    rw [Place.typed, Place.typed, (Place.ofCursor_of_sameLines same cursor).1]
  simp only [complete, allSuggestions, isQuiet_of_sameLines same,
    words.definitions_of_sameLines same, typed]

end

/-! ## Translation -/

theorem HasWordKeywords.forward_withReturns (words : table.HasWordKeywords) (text : Text) :
    table.forward text.withReturns = (table.forward text).withReturns := by
  apply replaceKeywords_withReturns words.isWord_of_mem_surfaces
  intro word listed
  exact words.isWord_of_mem_targets _ (table.forwardWord_of_mem_surfaces listed).1

theorem HasWordKeywords.reverse_withReturns (words : table.HasWordKeywords) (text : Text) :
    table.reverse text.withReturns = (table.reverse text).withReturns := by
  apply replaceKeywords_withReturns words.isWord_of_mem_targets
  intro word listed
  exact words.isWord_of_mem_surfaces _ (table.reverseWord_of_mem_targets listed).1

/-! ## Line ends do not matter -/

/-- A program whose lines end with a return and a line feed has the tokens, the
diagnostics and, at every cursor, the suggestions of the program whose lines end with a line
feed alone. It is translated like that program, and keeps its line ends. -/
theorem lineEnds_irrelevant (text : Text) :
    default.tokenizeLines text.withReturns = default.tokenizeLines text ∧
      default.validate text.withReturns = default.validate text ∧
      (∀ limit cursor,
        default.complete limit text.withReturns cursor = default.complete limit text cursor) ∧
      default.forward text.withReturns = (default.forward text).withReturns ∧
      default.reverse text.withReturns = (default.reverse text).withReturns := by
  have words := default_hasWordKeywords
  have same := Text.sameLines_withReturns text
  refine ⟨?_, ?_, ?_, words.forward_withReturns text, words.reverse_withReturns text⟩
  · rw [tokenizeLines, tokenizeLines, read_of_sameLines same]
  · rw [validate, validate, read_of_sameLines same]
  · exact words.complete_of_sameLines same

end Table

end KeywordBridge
