import KeywordBridge.Proofs.Translation.RoundTrip
import KeywordBridge.Proofs.Translation.RunImages

/-!
# The language of a translated text

A translation leaves the keywords of the other side behind. A text that has keywords
of one side alone therefore becomes a text that has keywords of the other side alone,
and the language of the result is told to be the opposite one. Translating it
automatically once more goes back to where the text came from.
-/

namespace KeywordBridge

section

variable {words others : List Text} {image : Text → Text}
  (isWord : ∀ word ∈ words, word.IsWord) (isOther : ∀ other ∈ others, other.IsWord)
  (images : ∀ word ∈ words, image word ∈ others)

include isWord isOther images

/-- Replacing keywords leaves nothing but blanks only where there was nothing else. -/
theorem isBlank_replaceKeywords {text : Text} (written : text.isBlank = false) :
    (replaceKeywords words image text).isBlank = false := by
  rw [replaceKeywords_eq_mapWords isWord image written,
    isBlank_mapWords (isWord_replaceListed fun word listed => isOther _ (images word listed)),
    written]

/-- The runs of a text with its keywords replaced are the runs of the text, those that
are listed replaced. -/
theorem wordRuns_replaceKeywords {text : Text} (written : text.isBlank = false) :
    (replaceKeywords words image text).wordRuns =
      text.wordRuns.map (replaceListed words image) := by
  rw [replaceKeywords_eq_mapWords isWord image written,
    Text.wordRuns_mapWords
      (isWord_replaceListed fun word listed => isOther _ (images word listed))]

/-- The result has a keyword of the other list if the text had one of either list. -/
theorem containsKeyword_others_replaceKeywords {text : Text} (written : text.isBlank = false) :
    containsKeyword others (replaceKeywords words image text) = true ↔
      containsKeyword words text = true ∨ containsKeyword others text = true := by
  rw [containsKeyword_iff isOther, containsKeyword_iff isWord, containsKeyword_iff isOther,
    wordRuns_replaceKeywords isWord isOther images written]
  constructor
  · rintro ⟨run, mapped, isKeyword⟩
    obtain ⟨origin, isRun, rfl⟩ := List.mem_map.1 mapped
    by_cases listed : origin ∈ words
    · exact .inl ⟨origin, isRun, listed⟩
    · rw [replaceListed_of_not_mem image listed] at isKeyword
      exact .inr ⟨origin, isRun, isKeyword⟩
  · rintro (⟨run, isRun, listed⟩ | ⟨run, isRun, isKeyword⟩)
    · refine ⟨_, List.mem_map_of_mem isRun, ?_⟩
      rw [replaceListed_of_mem image listed]
      exact images run listed
    · refine ⟨_, List.mem_map_of_mem isRun, ?_⟩
      by_cases listed : run ∈ words
      · rw [replaceListed_of_mem image listed]
        exact images run listed
      · rwa [replaceListed_of_not_mem image listed]

/-- Where the text has no keyword of the other list, all its keywords are gone, as long
as the image of a word is a word of both lists only if the word is. -/
theorem containsKeyword_replaceKeywords {text : Text} (written : text.isBlank = false)
    (apart : ∀ word ∈ words, image word ∈ words → word ∈ others)
    (absent : containsKeyword others text = false) :
    containsKeyword words (replaceKeywords words image text) = false := by
  rw [Bool.eq_false_iff, ne_eq, containsKeyword_iff isWord,
    wordRuns_replaceKeywords isWord isOther images written]
  rintro ⟨run, mapped, isKeyword⟩
  obtain ⟨origin, isRun, rfl⟩ := List.mem_map.1 mapped
  by_cases listed : origin ∈ words
  · rw [replaceListed_of_mem image listed] at isKeyword
    have present := (containsKeyword_iff isOther text).2
      ⟨origin, isRun, apart origin listed isKeyword⟩
    rw [absent] at present
    exact Bool.noConfusion present
  · rw [replaceListed_of_not_mem image listed] at isKeyword
    exact listed isKeyword

end

namespace Table

/-! ## What the dominance says -/

section

variable {table : Table} {text : Text}

theorem dominance_eq_surface :
    table.dominance text = .surface ↔
      table.containsSurface text = true ∧ table.containsTarget text = false := by
  unfold dominance
  cases table.containsSurface text <;> cases table.containsTarget text <;> decide

theorem dominance_eq_target :
    table.dominance text = .target ↔
      table.containsSurface text = false ∧ table.containsTarget text = true := by
  unfold dominance
  cases table.containsSurface text <;> cases table.containsTarget text <;> decide

theorem translateAuto_of_surface (written : text.isBlank = false)
    (isSurface : table.dominance text = .surface) :
    table.translateAuto text = ⟨table.forward text, .surface, .target⟩ := by
  rw [translateAuto, if_neg (Bool.eq_false_iff.1 written), isSurface]

theorem translateAuto_of_target (written : text.isBlank = false)
    (isTarget : table.dominance text = .target) :
    table.translateAuto text = ⟨table.reverse text, .target, .surface⟩ := by
  rw [translateAuto, if_neg (Bool.eq_false_iff.1 written), isTarget]

theorem translateAuto_of_neither (written : text.isBlank = false)
    (isNeither : table.dominance text = .neither) :
    table.translateAuto text = ⟨text, .unknown, .none⟩ := by
  rw [translateAuto, if_neg (Bool.eq_false_iff.1 written), isNeither]

end

/-! ## The dominance of a translation -/

/-- A surface keyword has no other surface keyword as its counterpart. -/
theorem reverseWord_of_mem_surfaces (table : Table) {word : Text}
    (listed : word ∈ table.surfaces) : table.reverseWord word = word := by
  by_cases isTarget : word ∈ table.targets
  · have back := (table.forwardWord_of_mem_surfaces listed).2
    rwa [table.forwardWord_of_mem_targets isTarget] at back
  · exact table.reverseWord_of_not_mem_targets isTarget

section

variable {table : Table} (words : table.HasWordKeywords) {text : Text}
  (written : text.isBlank = false)

include words written

/-- The forward translation of a text with surface keywords alone has target keywords
alone. -/
theorem HasWordKeywords.dominance_forward (isSurface : table.dominance text = .surface) :
    table.dominance (table.forward text) = .target := by
  obtain ⟨present, absent⟩ := dominance_eq_surface.1 isSurface
  have images : ∀ word ∈ table.surfaces, table.forwardWord word ∈ table.targets :=
    fun _ listed => (table.forwardWord_of_mem_surfaces listed).1
  rw [dominance_eq_target]
  constructor
  · apply containsKeyword_replaceKeywords words.isWord_of_mem_surfaces
      words.isWord_of_mem_targets images written ?_ absent
    intro word listed again
    have same := table.reverseWord_of_mem_surfaces again
    rw [(table.forwardWord_of_mem_surfaces listed).2] at same
    rw [same]
    exact images word listed
  · exact (containsKeyword_others_replaceKeywords words.isWord_of_mem_surfaces
      words.isWord_of_mem_targets images written).2 (.inl present)

/-- The reverse translation of a text with target keywords alone has surface keywords
alone. -/
theorem HasWordKeywords.dominance_reverse (isTarget : table.dominance text = .target) :
    table.dominance (table.reverse text) = .surface := by
  obtain ⟨absent, present⟩ := dominance_eq_target.1 isTarget
  have images : ∀ word ∈ table.targets, table.reverseWord word ∈ table.surfaces :=
    fun _ listed => (table.reverseWord_of_mem_targets listed).1
  rw [dominance_eq_surface]
  constructor
  · exact (containsKeyword_others_replaceKeywords words.isWord_of_mem_targets
      words.isWord_of_mem_surfaces images written).2 (.inl present)
  · apply containsKeyword_replaceKeywords words.isWord_of_mem_targets
      words.isWord_of_mem_surfaces images written ?_ absent
    intro word listed again
    have same := table.forwardWord_of_mem_targets again
    rw [(table.reverseWord_of_mem_targets listed).2] at same
    rw [same]
    exact images word listed

/-- A text with surface keywords alone is translated forward and back again. -/
theorem HasWordKeywords.translateAuto_twice_of_surface
    (isSurface : table.dominance text = .surface) :
    table.translateAuto (table.forward text) = ⟨text, .target, .surface⟩ := by
  have stillWritten : (table.forward text).isBlank = false :=
    isBlank_replaceKeywords words.isWord_of_mem_surfaces words.isWord_of_mem_targets
      (fun _ listed => (table.forwardWord_of_mem_surfaces listed).1) written
  have returns : table.reverse (table.forward text) = text :=
    replaceKeywords_replaceKeywords words.isWord_of_mem_surfaces words.isWord_of_mem_targets
      (fun _ listed => table.forwardWord_of_mem_surfaces listed) written
      (dominance_eq_surface.1 isSurface).2
  rw [translateAuto_of_target stillWritten (words.dominance_forward written isSurface), returns]

/-- A text with target keywords alone is translated in reverse and back again. -/
theorem HasWordKeywords.translateAuto_twice_of_target
    (isTarget : table.dominance text = .target) :
    table.translateAuto (table.reverse text) = ⟨text, .surface, .target⟩ := by
  have stillWritten : (table.reverse text).isBlank = false :=
    isBlank_replaceKeywords words.isWord_of_mem_targets words.isWord_of_mem_surfaces
      (fun _ listed => (table.reverseWord_of_mem_targets listed).1) written
  have returns : table.forward (table.reverse text) = text :=
    replaceKeywords_replaceKeywords words.isWord_of_mem_targets words.isWord_of_mem_surfaces
      (fun _ listed => table.reverseWord_of_mem_targets listed) written
      (dominance_eq_target.1 isTarget).1
  rw [translateAuto_of_surface stillWritten (words.dominance_reverse written isTarget), returns]

/-- Unless a text has keywords of both sides, its automatic translation leads back to it.
A text of one language becomes a text of the other one, and the second translation goes
between the same two languages the other way round. A text without keywords is left
alone, and its language stays unknown. -/
theorem translateAuto_involution (oneSided : table.dominance text ≠ .both) :
    let first := table.translateAuto text
    let second := table.translateAuto first.code
    second.code = text ∧
      (table.dominance text = .surface →
        table.dominance first.code = .target ∧
          (first.source = .surface ∧ first.target = .target) ∧
          second.source = first.target ∧ second.target = first.source) ∧
      (table.dominance text = .target →
        table.dominance first.code = .surface ∧
          (first.source = .target ∧ first.target = .surface) ∧
          second.source = first.target ∧ second.target = first.source) ∧
      (table.dominance text = .neither → first = ⟨text, .unknown, .none⟩) := by
  intro first second
  cases side : table.dominance text with
  | both => exact absurd side oneSided
  | surface =>
      have isFirst : first = ⟨table.forward text, .surface, .target⟩ :=
        translateAuto_of_surface written side
      have isSecond : second = ⟨text, .target, .surface⟩ := by
        rw [← words.translateAuto_twice_of_surface written side]
        exact congrArg (fun translation : Translation => table.translateAuto translation.code)
          isFirst
      rw [isSecond, isFirst]
      exact ⟨rfl, fun _ => ⟨words.dominance_forward written side, ⟨rfl, rfl⟩, rfl, rfl⟩,
        Dominance.noConfusion, Dominance.noConfusion⟩
  | target =>
      have isFirst : first = ⟨table.reverse text, .target, .surface⟩ :=
        translateAuto_of_target written side
      have isSecond : second = ⟨text, .surface, .target⟩ := by
        rw [← words.translateAuto_twice_of_target written side]
        exact congrArg (fun translation : Translation => table.translateAuto translation.code)
          isFirst
      rw [isSecond, isFirst]
      exact ⟨rfl, Dominance.noConfusion,
        fun _ => ⟨words.dominance_reverse written side, ⟨rfl, rfl⟩, rfl, rfl⟩,
        Dominance.noConfusion⟩
  | neither =>
      have isFirst : first = ⟨text, .unknown, .none⟩ := translateAuto_of_neither written side
      have isSecond : second = ⟨text, .unknown, .none⟩ := by
        rw [← translateAuto_of_neither written side]
        exact congrArg (fun translation : Translation => table.translateAuto translation.code)
          isFirst
      rw [isSecond, isFirst]
      exact ⟨rfl, Dominance.noConfusion, Dominance.noConfusion, fun _ => rfl⟩

end

/-- The default table at a text with keywords in a string, in a comment and behind a
digit, and at its translation. -/
theorem translateAuto_involution_quoted :
    let text : Text := "ukuba x: \"nge\\ngu\" # okanye 2nge"
    let translated : Text := "if x: \"with\\is\" # or 2nge"
    (default.dominance text = .surface ∧ default.dominance translated = .target) ∧
      (default.translateAuto text).code = translated ∧
      (default.translateAuto (default.translateAuto text).code).code = text ∧
      default.dominance (default.translateAuto text).code = .target ∧
      (default.translateAuto (default.translateAuto translated).code).code = translated ∧
      default.dominance (default.translateAuto translated).code = .surface := by
  intro text translated
  have words := default_hasWordKeywords
  have written : text.isBlank = false ∧ translated.isBlank = false := by decide +kernel
  have sides : default.dominance text = .surface ∧ default.dominance translated = .target := by
    decide +kernel
  have code : (default.translateAuto text).code = translated := by decide +kernel
  have ofText := translateAuto_involution words written.1 (by rw [sides.1]; decide)
  have ofTranslated := translateAuto_involution words written.2 (by rw [sides.2]; decide)
  exact ⟨sides, code, ofText.1, (ofText.2.1 sides.1).1, ofTranslated.1,
    (ofTranslated.2.2.1 sides.2).1⟩

end Table

end KeywordBridge
