import KeywordBridge.Text.Basic
import Mathlib.Data.List.DropRight

/-!
# The lines of a text

No part of a text that is cut at a mark holds this mark, and where two texts are joined
by it, cutting gives the parts of the one followed by the parts of the other.
-/

namespace KeywordBridge

namespace Text

section

variable {α : Type} [DecidableEq α]

theorem cutAt_of_mark (mark : α) (rest : List α) :
    cutAt mark (mark :: rest) = [] :: cutAt mark rest := by
  rw [cutAt, if_pos rfl]

theorem cutAt_of_not_mark {mark c : α} {rest part : List α} {others : List (List α)}
    (other : c ≠ mark) (cut : cutAt mark rest = part :: others) :
    cutAt mark (c :: rest) = (c :: part) :: others := by
  rw [cutAt, if_neg other, cut]

/-- A list without the mark is not cut. -/
theorem cutAt_of_not_mem {mark : α} {items : List α} (missing : mark ∉ items) :
    cutAt mark items = [items] := by
  induction items with
  | nil => rfl
  | cons c rest ih =>
      rw [List.mem_cons, not_or] at missing
      exact cutAt_of_not_mark (Ne.symm missing.1) (ih missing.2)

/-- The parts of two lists with a mark between them. -/
theorem cutAt_append_mark (mark : α) (front back : List α) :
    cutAt mark (front ++ mark :: back) = cutAt mark front ++ cutAt mark back := by
  induction front with
  | nil => exact cutAt_of_mark mark back
  | cons c rest ih =>
      by_cases same : c = mark
      · subst same
        rw [List.cons_append, cutAt_of_mark, cutAt_of_mark, ih, List.cons_append]
      · obtain ⟨part, others, cut⟩ := List.exists_cons_of_ne_nil (cutAt_ne_nil mark rest)
        rw [cut, List.cons_append] at ih
        rw [List.cons_append, cutAt_of_not_mark same ih, cutAt_of_not_mark same cut,
          List.cons_append]

/-- The items of the parts are items of the list other than the mark. -/
theorem mem_of_mem_cutAt {mark c : α} {items part : List α} (listed : part ∈ cutAt mark items)
    (member : c ∈ part) : c ∈ items ∧ c ≠ mark := by
  induction items generalizing part with
  | nil =>
      rw [List.mem_singleton.1 listed] at member
      cases member
  | cons d rest ih =>
      have further {other : List α} (later : other ∈ cutAt mark rest) (inside : c ∈ other) :
          c ∈ d :: rest ∧ c ≠ mark :=
        (ih later inside).imp_left (List.mem_cons_of_mem d)
      by_cases same : d = mark
      · subst same
        rw [cutAt_of_mark] at listed
        rcases List.mem_cons.1 listed with rfl | later
        · cases member
        · exact further later member
      · obtain ⟨first, others, cut⟩ := List.exists_cons_of_ne_nil (cutAt_ne_nil mark rest)
        rw [cutAt_of_not_mark same cut] at listed
        rw [cut] at further
        rcases List.mem_cons.1 listed with rfl | later
        · rcases List.mem_cons.1 member with rfl | behind
          · exact ⟨List.mem_cons_self, same⟩
          · exact further List.mem_cons_self behind
        · exact further (List.mem_cons_of_mem first later) member

end

/-- The lines of two texts with a line feed between them. -/
theorem lines_append_newline (front back : Text) :
    lines (front ++ '\n' :: back) = front.lines ++ back.lines :=
  cutAt_append_mark '\n' front back

/-- A part of a text that is cut at a mark stands between two marks or ends of the text. -/
theorem exists_append_of_mem_cutAt {mark : Char} {text part : Text}
    (listed : part ∈ cutAt mark text) :
    ∃ above below, text = above ++ (part ++ below) ∧ (∀ c ∈ above.getLast?, c = mark) ∧
      ∀ c ∈ below.head?, c = mark := by
  induction size : text.length using Nat.strong_induction_on generalizing text with
  | _ size ih =>
      by_cases inside : mark ∈ text
      · obtain ⟨front, back, rfl⟩ := List.append_of_mem inside
        rw [List.length_append, List.length_cons] at size
        rw [cutAt_append_mark] at listed
        rcases List.mem_append.1 listed with early | late
        · obtain ⟨above, below, rfl, opens, closes⟩ := ih front.length (by omega) early rfl
          refine ⟨above, below ++ mark :: back, ?_, opens, fun c first => ?_⟩
          · rw [List.append_assoc, List.append_assoc]
          · cases below with
            | nil =>
                cases first
                rfl
            | cons d others => exact closes c first
        · obtain ⟨above, below, rfl, opens, closes⟩ := ih back.length (by omega) late rfl
          refine ⟨front ++ mark :: above, below, ?_, fun c last => ?_, closes⟩
          · rw [List.append_assoc, List.cons_append]
          · rw [List.getLast?_append_of_ne_nil _ (List.cons_ne_nil mark above),
              List.getLast?_cons] at last
            cases ends : above.getLast? with
            | none =>
                rw [ends] at last
                cases last
                rfl
            | some d =>
                rw [ends] at last
                cases last
                exact opens d ends
      · rw [cutAt_of_not_mem inside, List.mem_singleton] at listed
        refine ⟨[], [], ?_, fun c last => ?_, fun c first => ?_⟩
        · rw [listed, List.append_nil, List.nil_append]
        · cases last
        · cases first

/-! ## Joined lines -/

/-- The text of lines that are joined by line feeds. -/
def joinLines (lines : List Text) : Text :=
  List.intercalate ['\n'] lines

theorem joinLines_cons_cons (line next : Text) (rest : List Text) :
    joinLines (line :: next :: rest) = line ++ '\n' :: joinLines (next :: rest) := by
  simp [joinLines, List.intercalate]

/-- Lines without line feeds are the lines of their text. -/
theorem lines_joinLines {lines : List Text} (nonempty : lines ≠ [])
    (oneLine : ∀ line ∈ lines, '\n' ∉ line) : (joinLines lines).lines = lines := by
  induction lines with
  | nil => exact absurd rfl nonempty
  | cons line rest ih =>
      rw [List.forall_mem_cons] at oneLine
      cases rest with
      | nil =>
          have alone : joinLines [line] = line := List.append_nil line
          rw [alone, lines, cutAt_of_not_mem oneLine.1]
      | cons next rest =>
          rw [joinLines_cons_cons, lines_append_newline, ih (List.cons_ne_nil next rest) oneLine.2,
            lines, cutAt_of_not_mem oneLine.1, List.singleton_append]

theorem joinLines_cons_char (c : Char) (line : Text) (rest : List Text) :
    joinLines ((c :: line) :: rest) = c :: joinLines (line :: rest) := by
  cases rest with
  | nil => rfl
  | cons next rest => rw [joinLines_cons_cons, joinLines_cons_cons, List.cons_append]

/-- A text is its lines joined again. -/
theorem joinLines_lines (text : Text) : joinLines text.lines = text := by
  induction text with
  | nil => rfl
  | cons c rest ih =>
      obtain ⟨part, others, cut⟩ := List.exists_cons_of_ne_nil (lines_ne_nil rest)
      rw [cut] at ih
      by_cases same : c = '\n'
      · subst same
        rw [lines, cutAt_of_mark, ← lines, cut, joinLines_cons_cons, ih, List.nil_append]
      · rw [lines, cutAt_of_not_mark same cut, joinLines_cons_char, ih]

/-! ## The end of a line -/

/-- A character at the start is dropped if all others are and it belongs to the class. -/
theorem dropEndWhile_cons (p : Char → Bool) (c : Char) (rest : Text) :
    dropEndWhile p (c :: rest) =
      if p c = true ∧ rest.dropEndWhile p = [] then [] else c :: rest.dropEndWhile p := by
  rw [dropEndWhile, List.reverse_cons, List.dropWhile_append, dropEndWhile]
  by_cases empty : rest.reverse.dropWhile p = []
  · by_cases dropped : p c = true
    · simp [empty, dropped]
    · simp [empty, dropped]
  · simp [empty]

/-- A character that stays keeps what stands in front of it. -/
theorem dropEndWhile_append_cons {p : Char → Bool} (front : Text) {c : Char} (stays : p c = false)
    (rest : Text) :
    dropEndWhile p (front ++ c :: rest) = front ++ c :: rest.dropEndWhile p := by
  induction front with
  | nil =>
      rw [List.nil_append, dropEndWhile_cons, if_neg, List.nil_append]
      rw [stays]
      exact fun both => Bool.false_ne_true both.1
  | cons d others ih =>
      have nonempty : others ++ c :: rest.dropEndWhile p ≠ [] :=
        List.append_ne_nil_of_right_ne_nil _ (List.cons_ne_nil _ _)
      rw [List.cons_append, dropEndWhile_cons, ih, if_neg (fun both => nonempty both.2),
        List.cons_append]

/-- The blanks that are trimmed from the end of a text. -/
def trailing (text : Text) : Text :=
  text.rtakeWhile isBlankChar

theorem trimEnd_append_trailing (text : Text) : text.trimEnd ++ text.trailing = text :=
  List.rdropWhile_append_rtakeWhile

theorem isBlankChar_of_mem_trailing {text : Text} {c : Char} (member : c ∈ text.trailing) :
    isBlankChar c = true :=
  List.mem_rtakeWhile_imp member

/-- The returns that are dropped from the end of a line. -/
def returns (line : Text) : Text :=
  line.rtakeWhile (· == '\r')

theorem dropReturns_append_returns (line : Text) : line.dropReturns ++ line.returns = line :=
  List.rdropWhile_append_rtakeWhile

theorem eq_return_of_mem_returns {c : Char} {line : Text} (member : c ∈ line.returns) :
    c = '\r' := by
  simpa using List.mem_rtakeWhile_imp member

theorem mem_of_mem_dropReturns {c : Char} {text : Text} (member : c ∈ text.dropReturns) :
    c ∈ text := by
  rw [dropReturns, dropEndWhile, List.mem_reverse] at member
  exact List.mem_reverse.1 ((List.dropWhile_sublist _).subset member)

/-- A line holds no line feed, with or without the returns at its end. -/
theorem newline_not_mem_dropReturns {program line : Text} (member : line ∈ program.lines) :
    '\n' ∉ line.dropReturns := fun inside =>
  (mem_of_mem_cutAt member (mem_of_mem_dropReturns inside)).2 rfl

end Text

end KeywordBridge
