import KeywordBridge.Proofs.Text.MappedWords

/-!
# Texts with returns at the ends of their lines

Writing a carriage return in front of every line feed adds returns to the ends of the
lines and nothing else: without the returns at their ends the lines are the same. Returns
and line feeds belong to no word, so words are replaced before or after alike.
-/

namespace KeywordBridge

namespace Text

/-- The text with a carriage return in front of every line feed. -/
def withReturns (text : Text) : Text :=
  text.flatMap fun c => if c = '\n' then ['\r', '\n'] else [c]

example : withReturns "ukuba x:\n\n" = "ukuba x:\r\n\r\n" := rfl

theorem withReturns_append (front back : Text) :
    withReturns (front ++ back) = front.withReturns ++ back.withReturns :=
  List.flatMap_append

theorem withReturns_newline (rest : Text) :
    withReturns ('\n' :: rest) = '\r' :: '\n' :: rest.withReturns :=
  rfl

theorem withReturns_cons_other {c : Char} (other : c ≠ '\n') (rest : Text) :
    withReturns (c :: rest) = c :: rest.withReturns := by
  rw [withReturns, List.flatMap_cons, if_neg other, List.singleton_append, withReturns]

theorem withReturns_of_not_mem {text : Text} (oneLine : '\n' ∉ text) :
    text.withReturns = text := by
  induction text with
  | nil => rfl
  | cons c rest ih =>
      rw [List.mem_cons, not_or] at oneLine
      rw [withReturns_cons_other (Ne.symm oneLine.1), ih oneLine.2]

/-- Without the returns at their ends, the lines are the same. -/
theorem map_dropReturns_lines_withReturns (text : Text) :
    text.withReturns.lines.map dropReturns = text.lines.map dropReturns := by
  -- A step takes off one line, so the induction is on the length of what is left.
  induction size : text.length using Nat.strong_induction_on generalizing text with
  | _ size ih =>
      by_cases inside : '\n' ∈ text
      · obtain ⟨line, below, rfl, oneLine⟩ := List.eq_append_cons_of_mem inside
        rw [List.length_append, List.length_cons] at size
        have ended : '\n' ∉ line ++ ['\r'] := by simpa using oneLine
        have isLine : lines line = [line] := cutAt_of_not_mem oneLine
        have isEnded : lines (line ++ ['\r']) = [line ++ ['\r']] := cutAt_of_not_mem ended
        have split : withReturns (line ++ '\n' :: below) =
            (line ++ ['\r']) ++ '\n' :: withReturns below := by
          rw [withReturns_append, withReturns_of_not_mem oneLine, withReturns_newline,
            List.append_assoc, List.singleton_append]
        rw [split, lines_append_newline, lines_append_newline, isLine, isEnded, List.map_append,
          List.map_append, ih below.length (by omega) below rfl, List.map_singleton,
          List.map_singleton, dropReturns_append_return]
      · rw [withReturns_of_not_mem inside]

theorem isBlank_cons (c : Char) (rest : Text) :
    isBlank (c :: rest) = (isBlankChar c && rest.isBlank) :=
  rfl

theorem isBlank_withReturns (text : Text) : text.withReturns.isBlank = text.isBlank := by
  induction text with
  | nil => rfl
  | cons c rest ih =>
      by_cases same : c = '\n'
      · subst same
        have isReturn : isBlankChar '\r' = true := by decide
        rw [withReturns_newline, isBlank_cons, isBlank_cons, isBlank_cons, ih, isReturn,
          Bool.true_and]
      · rw [withReturns_cons_other same, isBlank_cons, isBlank_cons, ih]

/-- Words are replaced before the returns are written or after. -/
theorem mapWords_withReturns {image : Text → Text}
    (words : ∀ run : Text, run.IsWord → (image run).IsWord) (text : Text) :
    text.withReturns.mapWords image = (text.mapWords image).withReturns := by
  have notWord : isWordChar '\r' = false ∧ isWordChar '\n' = false := by decide
  have oneLine {run : Text} (isWord : run.IsWord) : '\n' ∉ run := isWord.not_mem notWord.2
  induction text using induction_on_pieces with
  | nil =>
      rw [mapWords_nil]
      exact mapWords_nil image
  | mark c rest mark ih =>
      rw [mapWords_cons_mark image mark]
      by_cases same : c = '\n'
      · subst same
        rw [withReturns_newline, withReturns_newline, mapWords_cons_mark image notWord.1,
          mapWords_cons_mark image mark, ih]
      · rw [withReturns_cons_other same, withReturns_cons_other same,
          mapWords_cons_mark image mark, ih]
  | word run after isWord stop ih =>
      -- The return ends the run where the line feed behind it did.
      have stops : isWordSide after.withReturns.head? = false := by
        cases after with
        | nil => rfl
        | cons c rest =>
            by_cases same : c = '\n'
            · subst same
              exact notWord.1
            · rw [withReturns_cons_other same]
              exact stop
      rw [mapWords_append_of_stop image isWord stop, withReturns_append, withReturns_append,
        withReturns_of_not_mem (oneLine isWord),
        withReturns_of_not_mem (oneLine (words run isWord)),
        mapWords_append_of_stop image isWord stops, ih]

end Text

end KeywordBridge
