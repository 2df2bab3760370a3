import KeywordBridge.Proofs.Text.IdentifierCharacters
import KeywordBridge.Proofs.Translation.Detection

/-!
# Identifiers under translation

A translation cuts a text where the words end, and the identifiers of the other language
may go on there: a combining mark ends a word and continues an identifier. So a run of
identifier characters keeps its place and is translated by itself, and it is kept exactly
if none of its words is a surface keyword. Without a combining mark the run is its only
word. With one, a keyword in front of the mark or behind it is replaced, although the
identifier as a whole is no keyword.
-/

namespace KeywordBridge

namespace Table

/-- Where the sides of a table share no word, the words that are kept are those that are no
surface keywords. -/
theorem HasSidesApart.forwardWord_eq_self_iff {table : Table} (apart : table.HasSidesApart)
    {word : Text} : table.forwardWord word = word ↔ word ∉ table.surfaces := by
  refine ⟨fun same listed => ?_, table.forwardWord_of_not_mem_surfaces⟩
  have isTarget := (table.forwardWord_of_mem_surfaces listed).1
  rw [same] at isTarget
  exact apart word listed isTarget

/-- A text keeps all its words exactly if none of them is a surface keyword. -/
theorem HasWordKeywords.mapWords_forwardWord_eq_self_iff {table : Table}
    (words : table.HasWordKeywords) (apart : table.HasSidesApart) {text : Text} :
    text.mapWords table.forwardWord = text ↔
      ∀ word ∈ text.wordRuns, word ∉ table.surfaces := by
  rw [Text.mapWords_eq_self_iff words.isWord_forwardWord]
  exact forall₂_congr fun _ _ => apart.forwardWord_eq_self_iff

/-- A run of identifier characters is translated in its place, and it is kept exactly if
none of its words is a surface keyword. A run without combining marks is its only word, so
it is kept unless the whole run is a surface keyword. -/
theorem forward_of_identifierRun {before run after : Text}
    (maximal : Text.IsIdentifierRun before run after)
    (written : Text.isBlank (before ++ (run ++ after)) = false) :
    default.forward (before ++ (run ++ after)) =
        before.mapWords default.forwardWord ++
          (run.mapWords default.forwardWord ++ after.mapWords default.forwardWord) ∧
      (run.mapWords default.forwardWord = run ↔
        ∀ word ∈ run.wordRuns, word ∉ default.surfaces) ∧
      (run.wordRuns = [run] ↔ ∀ c ∈ run, isCombiningMark c = false) ∧
      ((∀ c ∈ run, isCombiningMark c = false) → run ∉ default.surfaces →
        run.mapWords default.forwardWord = run) := by
  have words := default_hasWordKeywords
  have apart : default.HasSidesApart := by decide +kernel
  have unchanged : run.mapWords default.forwardWord = run ↔
      ∀ word ∈ run.wordRuns, word ∉ default.surfaces :=
    words.mapWords_forwardWord_eq_self_iff apart
  have single := maximal.wordRuns_eq_singleton_iff
  refine ⟨?_, unchanged, single, fun unmarked unlisted => unchanged.2 fun word isRun => ?_⟩
  · rw [words.forward_eq_mapWords written, maximal.mapWords_eq]
  · rw [single.2 unmarked, List.mem_singleton] at isRun
    rwa [isRun]

/-- A run with an accent behind a letter is kept, since neither of its words is a
keyword. -/
theorem forward_of_identifierRun_accent :
    let before : Text := "ngu "
    let run : Text := "ukubax\u0301nge2"
    let after : Text := ":"
    Text.IsIdentifierRun before run after ∧
      Text.isBlank (before ++ (run ++ after)) = false ∧
      default.forward (before ++ (run ++ after)) = ("is ukubax\u0301nge2:" : Text) ∧
      run.wordRuns = (["ukubax", "nge2"] : List Text) ∧
      run.mapWords default.forwardWord = run ∧ run.wordRuns ≠ [run] := by
  intro before run after
  have maximal : Text.IsIdentifierRun before run after := by decide +kernel
  have written : Text.isBlank (before ++ (run ++ after)) = false := by decide +kernel
  obtain ⟨translated, kept, single, -⟩ := forward_of_identifierRun maximal written
  have runs : run.wordRuns = (["ukubax", "nge2"] : List Text) := by decide +kernel
  have unchanged := kept.2 (by rw [runs]; decide +kernel)
  have accent : '\u0301' ∈ run := by decide +kernel
  have isMark : isCombiningMark '\u0301' = true := by decide +kernel
  refine ⟨maximal, written, ?_, runs, unchanged, fun alone => ?_⟩
  · rw [translated, unchanged]
    decide +kernel
  · rw [single.1 alone _ accent] at isMark
    exact Bool.noConfusion isMark

/-- An accent behind a keyword makes another identifier of it, in which the keyword is
replaced all the same. -/
theorem forward_keyword_with_accent :
    Text.IsIdentifierRun [] "ukuba\u0301" " = 1" ∧
      ("ukuba\u0301" : Text) ∉ default.surfaces ∧
      Text.isBlank "ukuba\u0301 = 1" = false ∧
      default.forward "ukuba\u0301 = 1" = ("if\u0301 = 1" : Text) := by
  refine ⟨?_, ?_, ?_, ?_⟩
  all_goals decide +kernel

end Table

end KeywordBridge
