import KeywordBridge.Proofs.Suggestion.Context
import KeywordBridge.Proofs.Suggestion.Ranking
import KeywordBridge.Proofs.Token.CodePart
import Mathlib.Data.List.Sort

/-!
# Suggestions while a name is being typed

Typing on in a name takes suggestions away and adds none. The name in front of the cursor
only gets longer, unless there were nothing but digits before, and its form without regard
to case goes on with that of the shorter one, even where one letter becomes two. Word
characters lead neither into a string or a comment nor out of one, so that at both places
something may be suggested, or at none.
-/

namespace KeywordBridge

/-! ## Names that get longer -/

/-- A longer text is folded to a longer one. -/
theorem foldCase_isPrefix {first second : Text} (goesOn : first <+: second) :
    foldCase first <+: foldCase second := by
  obtain ⟨rest, rfl⟩ := goesOn
  rw [foldCase_append]
  exact List.prefix_append _ _

/-- Word characters that are typed behind a text make its last name longer. -/
theorem Text.lastName_isPrefix {run : Text} (isWord : ∀ c ∈ run, isWordChar c = true)
    (text : Text) : text.lastName <+: (text ++ run).lastName := by
  have longer : (text ++ run).rtakeWhile isWordChar = text.rtakeWhile isWordChar ++ run := by
    have reversed : ∀ c ∈ run.reverse, isWordChar c = true :=
      fun c member => isWord c (List.mem_reverse.1 member)
    rw [List.rtakeWhile, List.reverse_append, List.takeWhile_append_of_pos reversed,
      List.reverse_append, List.reverse_reverse, List.rtakeWhile]
  rw [lastName_eq, lastName_eq, longer, List.dropWhile_append]
  split
  · rename_i digits
    rw [List.isEmpty_iff.1 digits]
    exact List.nil_prefix
  · exact List.prefix_append _ _

/-! ## Characters behind which nothing changes -/

namespace Zone

theorem isInert_of_isWordChar {c : Char} (word : isWordChar c = true) : isInert c = true := by
  rw [isInert, leavesCode_eq_false_of_isWordChar word, Bool.not_false, Bool.true_and, bne_iff_ne]
  rintro rfl
  exact absurd word (by decide)

/-- Inert characters leave the zone as it is. -/
theorem scan_of_inert {run : Text} (inert : ∀ c ∈ run, isInert c = true) (zone : Zone)
    (held : Nat) : (zone.scan held run).2 = zone := by
  induction run generalizing held with
  | nil => rfl
  | cons c rest ih =>
      rw [List.forall_mem_cons] at inert
      cases held with
      | succ held => exact ih inert.2 held
      | zero =>
          have same : (zone.read c rest).zone = zone := by
            by_cases outside : zone = .comment
            · rw [outside]
              rfl
            · exact (read_of_isInert outside inert.1 rest).2.1
          rw [scan_cons, same]
          exact ih inert.2 _

/-- A text that goes on with inert characters is read up to the same zone. -/
theorem scan_append_of_inert {run : Text} (inert : ∀ c ∈ run, isInert c = true) (zone : Zone)
    (held : Nat) (front : Text) :
    (zone.scan held (front ++ run)).2 = (zone.scan held front).2 := by
  induction front generalizing zone held with
  | nil => exact scan_of_inert inert zone held
  | cons c rest ih =>
      cases held with
      | succ held => exact ih zone held
      | zero =>
          -- No quote follows the front, so none can complete a triple quote that it starts.
          have stop : NoQuoteFirst run := fun quote first =>
            ne_mark_of_isInert (inert _ (List.mem_of_mem_head? first)) quote rfl
          rw [List.cons_append, scan_cons, scan_cons, read_append stop]
          exact ih _ _

end Zone

/-! ## Cursors on one line -/

/-- The line on which a cursor with the given line stands, without the returns at its
end. -/
def Text.lineAt (program : Text) (line : Int) : Text :=
  (program.lines.getD (clampToOne line program.lines.length - 1) []).dropReturns

/-- Between two cursors of a line, every column holds a word character. -/
def Text.WordBetween (program : Text) (line column further : Int) : Prop :=
  ∀ (index : Nat) (c : Char), (program.lineAt line)[index]? = some c →
    column ≤ index + 1 → (index : Int) + 1 < further → isWordChar c = true

namespace Place

/-- Of two cursors on a line, the text in front of the further one goes on with the
characters between them. -/
theorem exists_between {program : Text} {line column further : Int} (ordered : column ≤ further)
    (between : program.WordBetween line column further) :
    ∃ run : Text, (∀ c ∈ run, isWordChar c = true) ∧
      ofCursor program (some (line, further)) =
        ⟨(ofCursor program (some (line, column))).above,
          (ofCursor program (some (line, column))).before ++ run⟩ := by
  have place (column : Int) : ofCursor program (some (line, column)) =
      ⟨program.lines.take (clampToOne line program.lines.length - 1),
        (program.lineAt line).take
          (clampToOne column ((program.lineAt line).length + 1) - 1)⟩ := rfl
  have shorter : clampToOne column ((program.lineAt line).length + 1) ≤
      clampToOne further ((program.lineAt line).length + 1) := by
    unfold clampToOne
    omega
  obtain ⟨count, reaches⟩ := Nat.exists_eq_add_of_le (Nat.sub_le_sub_right shorter 1)
  refine ⟨((program.lineAt line).drop
    (clampToOne column ((program.lineAt line).length + 1) - 1)).take count, ?_, ?_⟩
  · intro c member
    obtain ⟨index, inside⟩ := List.getElem?_of_mem member
    rw [List.getElem?_take, Option.ite_none_right_eq_some, List.getElem?_drop] at inside
    obtain ⟨below, found⟩ := inside
    obtain ⟨onLine, -⟩ := List.getElem?_eq_some_iff.1 found
    apply between _ c found
    · unfold clampToOne at *
      omega
    · unfold clampToOne at *
      omega
  · rw [place, place, reaches, List.take_add]

end Place

namespace Table

variable {table : Table}

/-- A cursor stands on a line of the program, and there is no line end in front of it. -/
theorem HasWordKeywords.startsLine_ofCursor (words : table.HasWordKeywords) (program : Text)
    (cursor : Option (Int × Int)) :
    (table.modeAfter .code (Place.ofCursor program cursor).above).StartsLine ∧
      '\n' ∉ (Place.ofCursor program cursor).before := by
  obtain ⟨line, below, cut, split, -, before⟩ := Place.exists_cut_ofCursor program cursor
  have oneLine : ∀ text ∈ program.lines, '\n' ∉ text.dropReturns :=
    fun text member => Text.newline_not_mem_dropReturns member
  rw [split, List.forall_mem_append, List.forall_mem_cons] at oneLine
  refine ⟨words.startsLine_modeAfter (.inl rfl) oneLine.1, ?_⟩
  rw [before]
  exact fun member => oneLine.2.1 (List.mem_of_mem_take member)

/-- Word characters that are typed make no difference to whether the place is taken for one
in a string or a comment. -/
theorem HasWordKeywords.isQuiet_append (words : table.HasWordKeywords) {program : Text}
    {cursor : Option (Int × Int)} {run : Text} (isWord : ∀ c ∈ run, isWordChar c = true) :
    let place := Place.ofCursor program cursor
    table.isQuiet ⟨place.above, place.before ++ run⟩ = table.isQuiet place := by
  intro place
  obtain ⟨start, oneLine⟩ := words.startsLine_ofCursor program cursor
  have longer : '\n' ∉ place.before ++ run := by
    rw [List.mem_append, not_or]
    refine ⟨oneLine, fun inside => ?_⟩
    exact absurd (isWord '\n' inside) (by decide)
  have typed : table.isQuiet ⟨place.above, place.before ++ run⟩ = true ↔ _ :=
    words.isQuiet_iff start longer
  rw [Bool.eq_iff_iff, typed, words.isQuiet_iff start oneLine,
    Zone.scan_append_of_inert fun c member => Zone.isInert_of_isWordChar (isWord c member)]

/-- Where more of a name has been typed, less is listed, in the same order. -/
theorem ranked_sublist (distinct : (Suggestion.labels table.staticSuggestions).Nodup)
    (program : Text) {typed longer : Text} (goesOn : typed <+: longer) :
    (table.ranked program longer).Sublist (table.ranked program typed) := by
  have fewer : ((table.allSuggestions program).filter fun suggestion =>
        (foldCase longer).isPrefixOf (foldCase suggestion.label)).Sublist
      ((table.allSuggestions program).filter fun suggestion =>
        (foldCase typed).isPrefixOf (foldCase suggestion.label)) := by
    apply List.monotone_filter_right
    intro suggestion matched
    rw [List.isPrefixOf_iff_prefix] at matched ⊢
    exact (foldCase_isPrefix goesOn).trans matched
  have contained : (table.ranked program longer).Subperm (table.ranked program typed) :=
    (List.mergeSort_perm _ _).subperm.trans
      (fewer.subperm.trans (List.mergeSort_perm _ _).symm.subperm)
  -- Both lists rise strictly, so there is only one way in which one lies in the other.
  have : Std.Antisymm fun first second : Suggestion => first.rank < second.rank :=
    ⟨fun first second above below => absurd above below.asymm⟩
  exact List.sublist_of_subperm_of_pairwise contained
    (pairwise_rank_ranked distinct program longer) (pairwise_rank_ranked distinct program typed)

/-- For the keywords of the project, every program and two cursors on one line with nothing
but word characters between them: as long as no limit cuts off the list, what is listed at
the further cursor is listed at the other one too, in the same order. This holds in strings
and comments as well, where nothing is listed at either. -/
theorem completion_narrows {program : Text} {line column further limit : Int}
    (ordered : column ≤ further) (between : program.WordBetween line column further)
    (large : (default.allSuggestions program).length ≤ limit) :
    (default.complete limit program (some (line, further))).Sublist
      (default.complete limit program (some (line, column))) := by
  cases hidden : default.isQuiet (Place.ofCursor program (some (line, further))) with
  | true =>
      rw [complete, hidden]
      exact List.nil_sublist _
  | false =>
      obtain ⟨run, isWord, place⟩ := Place.exists_between ordered between
      have visible : default.isQuiet (Place.ofCursor program (some (line, column))) = false := by
        rw [place, default_hasWordKeywords.isQuiet_append isWord] at hidden
        exact hidden
      have goesOn : (Place.ofCursor program (some (line, column))).typed <+:
          (Place.ofCursor program (some (line, further))).typed := by
        rw [place]
        exact Text.lastName_isPrefix isWord _
      rw [complete_eq_ranked hidden large, complete_eq_ranked visible large]
      exact ranked_sublist default_labels_nodup program goesOn

/-- Behind a digit nothing has been typed of a name yet, so that everything is listed there.
Of the names that start with the two letters behind it, one is written with a ligature. -/
theorem completion_narrows_ligature :
    let program : Text := "\ufb01le = 1\nfire = 2\n3fi"
    (2 : Int) ≤ 4 ∧ program.WordBetween 3 2 4 ∧
      (default.allSuggestions program).length ≤ (200 : Int) ∧
      Suggestion.ofVariable "\ufb01le" ∈ default.complete 200 program (some (3, 4)) ∧
      (default.complete 200 program (some (3, 4))).Sublist
        (default.complete 200 program (some (3, 2))) := by
  intro program
  have between : program.WordBetween 3 2 4 := by
    have text : program.lineAt 3 = "3fi" := by decide +kernel
    intro index c found behind inFront
    rw [text] at found
    obtain rfl | rfl : index = 1 ∨ index = 2 := by omega
    · obtain rfl := Option.some.inj found
      decide
    · obtain rfl := Option.some.inj found
      decide
  have large : (default.allSuggestions program).length ≤ (200 : Int) := by decide +kernel
  refine ⟨by decide, between, large, ?_, completion_narrows (by decide) between large⟩
  have typed : (Place.ofCursor program (some (3, 4))).typed = "fi" := by decide +kernel
  have listed : Suggestion.ofVariable "\ufb01le" ∈ (default.allSuggestions program).filter
      fun suggestion => (foldCase "fi").isPrefixOf (foldCase suggestion.label) := by
    refine List.mem_filter.2 ⟨List.mem_append_left _ ?_, by decide +kernel⟩
    decide +kernel
  rw [complete_eq_ranked (by decide +kernel) large, typed]
  exact List.mem_mergeSort.2 listed

end Table

end KeywordBridge
