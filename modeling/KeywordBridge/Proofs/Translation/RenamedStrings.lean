import KeywordBridge.Proofs.Token.Rules
import KeywordBridge.Proofs.Translation.Renaming

/-!
# Strings under a renaming of keywords

Keywords are replaced inside strings as well, and an escape may take the first
character of one, so that the text behind it starts inside a word. Then the rest of
the word becomes the rest of another word, and neither is empty, since renamed words
have at least two characters. As words hold neither quotes nor backslashes, the
renamed text is closed by the same quote, if by any.
-/

namespace KeywordBridge

/-- What a text in a string becomes behind the character `before`: its words are
replaced, and where it starts inside a word, the rest of that word becomes the rest of
some word. -/
inductive Rewrites (image : Text → Text) (before : Option Char) : Text → Text → Prop
  | whole (text : Text) : Rewrites image before text (text.mapWords image)
  | inside {head other rest : Text} (word : Text.isWordSide before = true)
      (isWord : head.IsWord) (isOther : other.IsWord)
      (stop : Text.isWordSide rest.head? = false) :
      Rewrites image before (head ++ rest) (other ++ rest.mapWords image)

section

variable {image : Text → Text} {before : Option Char}

theorem Rewrites.of_mark {c : Char} {rest text : Text}
    (rewrites : Rewrites image before (c :: rest) text) (mark : isWordChar c = false) :
    text = c :: rest.mapWords image := by
  generalize whole : c :: rest = source at rewrites
  cases rewrites with
  | whole => rw [← whole, Text.mapWords_cons_mark image mark]
  | inside word isWord isOther stop =>
      have first := isWord.isWordSide_head?
      rw [← isWord.head?_append, ← whole] at first
      rw [List.head?_cons, Text.isWordSide, mark] at first
      exact Bool.noConfusion first

theorem Rewrites.of_nil {text : Text} (rewrites : Rewrites image before [] text) : text = [] := by
  generalize whole : ([] : Text) = source at rewrites
  cases rewrites with
  | whole => rw [← whole, Text.mapWords_nil]
  | inside word isWord isOther stop =>
      exact absurd (List.append_eq_nil_iff.1 whole.symm).1 isWord.1

/-- Where a text is not cut inside a word, its words are replaced. -/
theorem Rewrites.eq_mapWords {source text : Text} (rewrites : Rewrites image before source text)
    (apart : Text.isWordSide before = false ∨ Text.isWordSide source.head? = false) :
    text = source.mapWords image := by
  cases rewrites with
  | whole => rfl
  | inside word isWord isOther stop =>
      rw [isWord.head?_append, isWord.isWordSide_head?, word] at apart
      simp at apart

end

section

variable {words : List Text} {image : Text → Text} (renames : Renaming words image)

include renames

/-- A text that starts with a word becomes one that starts with a word. -/
theorem Rewrites.of_word {before : Option Char} {source text : Text}
    (rewrites : Rewrites image before source text)
    (word : Text.isWordSide source.head? = true) :
    ∃ run other after : Text, source = run ++ after ∧ text = other ++ after.mapWords image ∧
      run.IsWord ∧ other.IsWord ∧ Text.isWordSide after.head? = false := by
  cases rewrites with
  | inside inside isWord isOther stop => exact ⟨_, _, _, rfl, rfl, isWord, isOther, stop⟩
  | whole =>
      cases source with
      | nil => exact Bool.noConfusion word
      | cons c rest =>
          have isRun : Text.IsWord (c :: rest.takeWhile isWordChar) := Text.isWord_takeWhile word
          have stop := Text.isWordSide_head?_dropWhile rest
          have cut := Text.cons_eq_run_append c rest
          refine ⟨_, _, _, cut, ?_, isRun, renames.isWord_image _ isRun, stop⟩
          rw [cut, Text.mapWords_append_of_stop image isRun stop]

/-- Behind an escaped character a text goes on as it does behind this character. -/
theorem Renaming.rewrites_behind (d : Char) (rest : Text) :
    ∃ e others, Text.mapWords image (d :: rest) = e :: others ∧ (e = '\n' ↔ d = '\n') ∧
      Rewrites image (some d) rest others := by
  by_cases word : isWordChar d = true
  · have isRun : Text.IsWord (d :: rest.takeWhile isWordChar) := Text.isWord_takeWhile word
    have stop := Text.isWordSide_head?_dropWhile rest
    have noBreak {c : Char} (word : isWordChar c = true) : c ≠ '\n' := by
      rintro rfl
      exact absurd word (by decide)
    have isImage := renames.isWord_image _ isRun
    obtain ⟨e, others, imageOf⟩ := List.exists_cons_of_ne_nil isImage.1
    have cut := Text.cons_eq_run_append d rest
    rw [imageOf] at isImage
    refine ⟨e, others ++ Text.mapWords image (rest.dropWhile isWordChar), ?_,
      iff_of_false (noBreak (isImage.2 e List.mem_cons_self)) (noBreak word), ?_⟩
    · rw [cut, Text.mapWords_append_of_stop image isRun stop, imageOf, List.cons_append]
    · -- The rest of the word is empty on both sides or on none.
      by_cases single : rest.takeWhile isWordChar = []
      · have unlisted : [d] ∉ words := fun listed =>
          absurd (renames.long _ listed).1 (by simp)
        rw [single, renames.kept _ unlisted, List.cons.injEq] at imageOf
        have whole := List.takeWhile_append_dropWhile (p := isWordChar) (l := rest)
        rw [single, List.nil_append] at whole
        rw [← imageOf.2, List.nil_append, whole]
        exact .whole rest
      · have long : others ≠ [] := by
          rintro rfl
          by_cases listed : d :: rest.takeWhile isWordChar ∈ words
          · have two := (renames.long _ listed).2
            rw [imageOf] at two
            exact absurd two (by simp)
          · rw [renames.kept _ listed, List.cons.injEq] at imageOf
            exact single imageOf.2
        have isHead : Text.IsWord (rest.takeWhile isWordChar) :=
          ⟨single, fun c member => List.mem_takeWhile_imp member⟩
        have isOther : Text.IsWord others :=
          ⟨long, fun c member => isImage.2 c (List.mem_cons_of_mem e member)⟩
        have rewrites : Rewrites image (some d)
            (rest.takeWhile isWordChar ++ rest.dropWhile isWordChar) _ :=
          .inside word isHead isOther stop
        rwa [List.takeWhile_append_dropWhile] at rewrites
  · have mark := Bool.eq_false_iff.2 word
    exact ⟨d, _, Text.mapWords_cons_mark image mark rest, Iff.rfl, .whole rest⟩

/-! ## Scanning a string -/

/-- A scan that passes all word characters stops at the same mark. -/
theorem Rewrites.dropWhile {before : Option Char} {source text : Text} {p : Char → Bool}
    (rewrites : Rewrites image before source text)
    (covers : ∀ c, isWordChar c = true → p c = true) :
    text.dropWhile p = Text.mapWords image (source.dropWhile p) := by
  cases rewrites with
  | whole => exact Text.dropWhile_mapWords renames.isWord_image covers source
  | inside word isWord isOther stop =>
      rw [List.dropWhile_append_of_pos fun c member => covers c (isOther.2 c member),
        List.dropWhile_append_of_pos fun c member => covers c (isWord.2 c member),
        Text.dropWhile_mapWords renames.isWord_image covers]

/-- What such a scan passes is blank on both sides or on none. -/
theorem Rewrites.isBlank_takeWhile {before : Option Char} {source text : Text}
    {p : Char → Bool} (rewrites : Rewrites image before source text)
    (covers : ∀ c, isWordChar c = true → p c = true) :
    Text.isBlank (text.takeWhile p) = Text.isBlank (source.takeWhile p) := by
  cases rewrites with
  | whole =>
      rw [Text.takeWhile_mapWords renames.isWord_image covers,
        isBlank_mapWords renames.isWord_image]
  | inside word isWord isOther stop =>
      have written {run after : Text} (isRun : run.IsWord) :
          Text.isBlank (run ++ after) = false := by
        rw [Text.isBlank, List.all_append, ← Text.isBlank, isBlank_of_isWord isRun,
          Bool.false_and]
      rw [List.takeWhile_append_of_pos fun c member => covers c (isOther.2 c member),
        List.takeWhile_append_of_pos fun c member => covers c (isWord.2 c member),
        written isOther, written isWord]

/-- Marks at the start of a text are those at the start of the renamed text. -/
theorem Renaming.isPrefixOf_mapWords {front : Text} (marks : ∀ c ∈ front, isWordChar c = false)
    (text : Text) : front.isPrefixOf (text.mapWords image) = front.isPrefixOf text := by
  induction front generalizing text with
  | nil => rfl
  | cons m others ih =>
      rw [List.forall_mem_cons] at marks
      have noWord {run after : Text} (isWord : run.IsWord) :
          (m :: others).isPrefixOf (run ++ after) = false := by
        obtain ⟨c, behind, rfl⟩ := List.exists_cons_of_ne_nil isWord.1
        have other : m ≠ c := by
          rintro rfl
          have word := isWord.2 m List.mem_cons_self
          rw [marks.1] at word
          exact Bool.noConfusion word
        rw [List.cons_append, List.isPrefixOf_cons_cons, beq_eq_false_iff_ne.2 other, Bool.false_and]
      induction text using Text.induction_on_pieces with
      | nil => rw [Text.mapWords_nil]
      | mark c rest mark _ =>
          rw [Text.mapWords_cons_mark image mark, List.isPrefixOf_cons_cons, List.isPrefixOf_cons_cons,
            ih marks.2]
      | word run after isWord stop _ =>
          rw [Text.mapWords_append_of_stop image isWord stop, noWord isWord,
            noWord (renames.isWord_image run isWord)]

/-- A string that stays open on its line stays open after the renaming, and no other. -/
theorem Rewrites.staysOpen {before : Option Char} {source text : Text} (quote : Quote)
    (rewrites : Rewrites image before source text) :
    staysOpen quote text = staysOpen quote source := by
  induction length : source.length using Nat.strong_induction_on
    generalizing before source text with
  | _ size ih =>
      cases source with
      | nil => rw [rewrites.of_nil]
      | cons c rest =>
          rw [List.length_cons] at length
          by_cases word : isWordChar c = true
          · obtain ⟨run, other, after, cut, rfl, isRun, isOther, -⟩ :=
              rewrites.of_word renames word
            have shorter : after.length < size := by
              have nonempty := List.length_pos_iff.2 isRun.1
              have lengths := congrArg List.length cut
              rw [List.length_cons, List.length_append] at lengths
              omega
            have plain {word : Text} (isWord : word.IsWord) :
                ∀ d ∈ word, isPlainIn quote d = true :=
              fun d member => isPlainIn_of_isWordChar quote (isWord.2 d member)
            have whole : Rewrites image none after (after.mapWords image) := .whole after
            rw [cut, staysOpen_append (plain isRun), staysOpen_append (plain isOther),
              ih after.length shorter whole rfl]
          · rw [rewrites.of_mark (Bool.eq_false_iff.2 word)]
            by_cases escape : c = '\\'
            · subst escape
              cases rest with
              | nil => rw [Text.mapWords_nil]
              | cons d behind =>
                  obtain ⟨e, others, renamed, breaks, goesOn⟩ :=
                    renames.rewrites_behind d behind
                  have same : (e != '\n') = (d != '\n') := by
                    rw [Bool.eq_iff_iff, bne_iff_ne, bne_iff_ne]
                    exact not_congr breaks
                  rw [List.length_cons] at length
                  rw [renamed, KeywordBridge.staysOpen, KeywordBridge.staysOpen, same,
                    ih behind.length (by omega) goesOn rfl]
            · have whole : Rewrites image none rest (Text.mapWords image rest) := .whole rest
              rw [staysOpen_cons escape, staysOpen_cons escape,
                ih rest.length (by omega) whole rfl]

end

end KeywordBridge
