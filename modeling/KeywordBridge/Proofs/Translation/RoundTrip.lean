import KeywordBridge.Proofs.Keyword.Lookup
import KeywordBridge.Proofs.Translation.WordReplacement

/-!
# Translation there and back

A text without target keywords is its own reverse translation, and translating
it forward puts target keywords exactly where surface keywords stood. Translating
back therefore gives the text again. The same holds with the sides exchanged.
-/

namespace KeywordBridge

/-- Replacing words of one list by words of another is undone by the replacement
back, provided that the text had none of the other list to begin with. -/
theorem replaceKeywords_replaceKeywords {words others : List Text} {image back : Text → Text}
    (isWord : ∀ word ∈ words, word.IsWord) (isOther : ∀ other ∈ others, other.IsWord)
    (returns : ∀ word ∈ words, image word ∈ others ∧ back (image word) = word)
    {text : Text} (written : text.isBlank = false)
    (absent : containsKeyword others text = false) :
    replaceKeywords others back (replaceKeywords words image text) = text := by
  have images : ∀ run : Text, run.IsWord → (replaceListed words image run).IsWord :=
    isWord_replaceListed fun word listed => isOther _ (returns word listed).1
  have stillWritten : (text.mapWords (replaceListed words image)).isBlank = false := by
    rw [isBlank_mapWords images, written]
  rw [replaceKeywords_eq_mapWords isWord image written,
    replaceKeywords_eq_mapWords isOther back stillWritten, Text.mapWords_mapWords images]
  apply Text.mapWords_eq_self
  intro run isRun
  rw [Function.comp_apply]
  by_cases listed : run ∈ words
  · obtain ⟨other, same⟩ := returns run listed
    rw [replaceListed_of_mem image listed, replaceListed_of_mem back other, same]
  · have unlisted : run ∉ others := by
      intro other
      have present := (containsKeyword_iff isOther text).2 ⟨run, isRun, other⟩
      rw [absent] at present
      exact Bool.noConfusion present
    rw [replaceListed_of_not_mem image listed, replaceListed_of_not_mem back unlisted]

namespace Table

/-- A text without target keywords is what the reverse translation makes of its
forward translation, and a text without surface keywords what the forward
translation makes of its reverse translation. -/
theorem translation_roundTrip {table : Table} (words : table.HasWordKeywords) {text : Text}
    (written : text.isBlank = false) :
    (table.containsTarget text = false → table.reverse (table.forward text) = text) ∧
      (table.containsSurface text = false → table.forward (table.reverse text) = text) := by
  have surfaces := words.isWord_of_mem_surfaces
  have targets := words.isWord_of_mem_targets
  constructor
  · intro absent
    exact replaceKeywords_replaceKeywords surfaces targets
      (fun _ listed => table.forwardWord_of_mem_surfaces listed) written absent
  · intro absent
    exact replaceKeywords_replaceKeywords targets surfaces
      (fun _ listed => table.reverseWord_of_mem_targets listed) written absent

/-- The default table at a text in which keywords are parts of one another and of
longer words, and at its translation. -/
theorem translation_roundTrip_default :
    Table.default.HasWordKeywords ∧
      Text.isBlank "okanye_ukuba nge ngexesha\nmy_ukuba 2nge" = false ∧
      Table.default.containsTarget "okanye_ukuba nge ngexesha\nmy_ukuba 2nge" = false ∧
      Table.default.reverse (Table.default.forward "okanye_ukuba nge ngexesha\nmy_ukuba 2nge") =
        ("okanye_ukuba nge ngexesha\nmy_ukuba 2nge" : Text) ∧
      Table.default.containsSurface "elif with while\nmy_if 2with" = false ∧
      Table.default.forward (Table.default.reverse "elif with while\nmy_if 2with") =
        ("elif with while\nmy_if 2with" : Text) :=
  have written : Text.isBlank "okanye_ukuba nge ngexesha\nmy_ukuba 2nge" = false := by
    decide +kernel
  have noTarget :
      Table.default.containsTarget "okanye_ukuba nge ngexesha\nmy_ukuba 2nge" = false := by
    decide +kernel
  have noSurface : Table.default.containsSurface "elif with while\nmy_if 2with" = false := by
    decide +kernel
  ⟨default_hasWordKeywords, written, noTarget,
    (translation_roundTrip default_hasWordKeywords written).1 noTarget, noSurface,
    (translation_roundTrip default_hasWordKeywords (by decide +kernel)).2 noSurface⟩

end Table

end KeywordBridge
