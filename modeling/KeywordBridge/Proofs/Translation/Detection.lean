import KeywordBridge.Proofs.Translation.Dominance

/-!
# Finding keywords and replacing them

A keyword is found in a text exactly where the translation changes something. One pass
replaces every keyword, and what it puts in completes no keyword with its neighbours, so
none is left to be found and a second pass changes nothing. This takes a table whose two
sides are apart: a word that stood on both would be found again in its own place.
-/

namespace KeywordBridge

namespace Text

/-- A replacement by words keeps a text exactly if it keeps every run of it. -/
theorem mapWords_eq_self_iff {image : Text → Text}
    (words : ∀ run : Text, run.IsWord → (image run).IsWord) {text : Text} :
    text.mapWords image = text ↔ ∀ run ∈ text.wordRuns, image run = run := by
  refine ⟨fun same run isRun => ?_, mapWords_eq_self⟩
  have runs := wordRuns_mapWords words text
  rw [same] at runs
  -- The list of runs is its own image, so the runs are kept one by one.
  have kept : text.wordRuns.map image = text.wordRuns.map id := by rw [← runs, List.map_id]
  exact List.map_inj_left.1 kept run isRun

end Text

section

variable {words others : List Text} {image : Text → Text}
  (isWord : ∀ word ∈ words, word.IsWord) (isOther : ∀ other ∈ others, other.IsWord)
  (images : ∀ word ∈ words, image word ∈ others) (apart : ∀ word ∈ words, word ∉ others)
  {text : Text} (written : text.isBlank = false)

include isWord isOther images apart written

/-- Replacing keywords keeps exactly the texts that have none. -/
theorem replaceKeywords_eq_self_iff :
    replaceKeywords words image text = text ↔ containsKeyword words text = false := by
  rw [replaceKeywords_eq_mapWords isWord image written,
    Text.mapWords_eq_self_iff
      (isWord_replaceListed fun word listed => isOther _ (images word listed)),
    Bool.eq_false_iff, ne_eq, containsKeyword_iff isWord]
  constructor
  · rintro kept ⟨run, isRun, listed⟩
    have same := kept run isRun
    rw [replaceListed_of_mem image listed] at same
    exact apart run listed (same ▸ images run listed)
  · intro absent run isRun
    exact replaceListed_of_not_mem image fun listed => absent ⟨run, isRun, listed⟩

/-- No keyword is left where all of them were replaced. -/
theorem containsKeyword_replaceKeywords_of_apart :
    containsKeyword words (replaceKeywords words image text) = false := by
  rw [Bool.eq_false_iff, ne_eq, containsKeyword_iff isWord,
    wordRuns_replaceKeywords isWord isOther images written]
  rintro ⟨run, mapped, isKeyword⟩
  obtain ⟨origin, -, rfl⟩ := List.mem_map.1 mapped
  by_cases listed : origin ∈ words
  · rw [replaceListed_of_mem image listed] at isKeyword
    exact apart _ isKeyword (images origin listed)
  · rw [replaceListed_of_not_mem image listed] at isKeyword
    exact listed isKeyword

/-- Replacing keywords once more changes nothing. -/
theorem replaceKeywords_replaceKeywords_of_apart :
    replaceKeywords words image (replaceKeywords words image text) =
      replaceKeywords words image text := by
  have stillWritten := isBlank_replaceKeywords isWord isOther images written
  rw [replaceKeywords_eq_self_iff isWord isOther images apart stillWritten]
  exact containsKeyword_replaceKeywords_of_apart isWord isOther images apart written

end

namespace Table

/-- No word of the table stands on both sides. -/
def HasSidesApart (table : Table) : Prop :=
  ∀ word ∈ table.surfaces, word ∉ table.targets

instance (table : Table) : Decidable table.HasSidesApart :=
  inferInstanceAs (Decidable (∀ word ∈ table.surfaces, _))

theorem dominance_of_containsSurface {table : Table} {text : Text}
    (absent : table.containsSurface text = false) :
    table.dominance text ≠ .surface ∧ table.dominance text ≠ .both := by
  rw [dominance, absent]
  cases table.containsTarget text <;> decide

theorem dominance_of_containsTarget {table : Table} {text : Text}
    (absent : table.containsTarget text = false) :
    table.dominance text ≠ .target ∧ table.dominance text ≠ .both := by
  rw [dominance, absent]
  cases table.containsSurface text <;> decide

/-- A text has a keyword of the one side exactly if the translation to the other side
changes it. The translation leaves no keyword of the side it translates from, so
translating again changes nothing and the result is not taken for a text of that side,
nor for one of both. -/
theorem translation_detection {table : Table} (words : table.HasWordKeywords)
    (apart : table.HasSidesApart) {text : Text} (written : text.isBlank = false) :
    ((table.forward text = text ↔ table.containsSurface text = false) ∧
        table.containsSurface (table.forward text) = false ∧
        table.forward (table.forward text) = table.forward text ∧
        table.dominance (table.forward text) ≠ .surface ∧
        table.dominance (table.forward text) ≠ .both) ∧
      (table.reverse text = text ↔ table.containsTarget text = false) ∧
        table.containsTarget (table.reverse text) = false ∧
        table.reverse (table.reverse text) = table.reverse text ∧
        table.dominance (table.reverse text) ≠ .target ∧
        table.dominance (table.reverse text) ≠ .both := by
  have surfaces := words.isWord_of_mem_surfaces
  have targets := words.isWord_of_mem_targets
  have forwards : ∀ word ∈ table.surfaces, table.forwardWord word ∈ table.targets :=
    fun _ listed => (table.forwardWord_of_mem_surfaces listed).1
  have backwards : ∀ word ∈ table.targets, table.reverseWord word ∈ table.surfaces :=
    fun _ listed => (table.reverseWord_of_mem_targets listed).1
  have apart' : ∀ word ∈ table.targets, word ∉ table.surfaces :=
    fun word isTarget isSurface => apart word isSurface isTarget
  have noSurface : table.containsSurface (table.forward text) = false :=
    containsKeyword_replaceKeywords_of_apart surfaces targets forwards apart written
  have noTarget : table.containsTarget (table.reverse text) = false :=
    containsKeyword_replaceKeywords_of_apart targets surfaces backwards apart' written
  refine ⟨⟨?_, noSurface, ?_, dominance_of_containsSurface noSurface⟩, ?_, noTarget, ?_,
    dominance_of_containsTarget noTarget⟩
  · exact replaceKeywords_eq_self_iff surfaces targets forwards apart written
  · exact replaceKeywords_replaceKeywords_of_apart surfaces targets forwards apart written
  · exact replaceKeywords_eq_self_iff targets surfaces backwards apart' written
  · exact replaceKeywords_replaceKeywords_of_apart targets surfaces backwards apart' written

/-- The default table at a text with keywords of both sides, some of them parts of
longer words. -/
theorem translation_detection_mixed :
    let text : Text := "okanye_ukuba(x) or my_ukuba: nge1 nge"
    default.HasWordKeywords ∧ default.HasSidesApart ∧ text.isBlank = false ∧
      default.forward text = ("elif(x) or my_ukuba: nge1 with" : Text) ∧
      default.containsSurface (default.forward text) = false ∧
      default.forward (default.forward text) = default.forward text ∧
      default.dominance (default.forward text) ≠ .both ∧
      default.reverse text = ("okanye_ukuba(x) okanye my_ukuba: nge1 nge" : Text) ∧
      default.containsTarget (default.reverse text) = false := by
  intro text
  have words := default_hasWordKeywords
  have apart : default.HasSidesApart := by decide +kernel
  have written : text.isBlank = false := by decide +kernel
  obtain ⟨⟨-, noSurface, again, -, notBoth⟩, -, noTarget, -⟩ :=
    translation_detection words apart written
  refine ⟨words, apart, written, ?_, noSurface, again, notBoth, ?_, noTarget⟩
  · decide +kernel
  · decide +kernel

end Table

end KeywordBridge
