import KeywordBridge.Proofs.Keyword.LongestReading
import KeywordBridge.Proofs.Keyword.Lookup
import KeywordBridge.Proofs.Translation.WordReplacement

/-!
# Translation by longest match

The keywords of a table may be compounds that overlap: one may start or end another or stand
inside it. A text then has exactly one longest reading, and it is translated by replacing
the keywords of this reading and keeping everything between them. A keyword by itself is
read as a whole, so it is translated to its counterpart, whatever other keywords it is made
of.
-/

namespace KeywordBridge

/-- A keyword by itself is replaced as a whole. -/
theorem replaceKeywords_of_mem {words : List Text} (ends : ∀ word ∈ words, word.HasWordEnds)
    (image : Text → Text) {word : Text} (listed : word ∈ words) :
    replaceKeywords words image word = image word := by
  have written := isBlank_of_hasWordEnds (ends word listed)
  rw [replaceKeywords, if_neg (Bool.eq_false_iff.1 written), segments_of_mem ends listed,
    List.flatMap_singleton, Segment.render]

namespace Table

/-- The keywords of both sides begin and end with a word character. -/
def HasCompoundKeywords (table : Table) : Prop :=
  ∀ entry ∈ table.entries, entry.surface.HasWordEnds ∧ entry.target.HasWordEnds

instance (table : Table) : Decidable table.HasCompoundKeywords :=
  inferInstanceAs (Decidable (∀ entry ∈ table.entries, _ ∧ _))

theorem HasCompoundKeywords.surfaces {table : Table} (compounds : table.HasCompoundKeywords) :
    ∀ word ∈ table.surfaces, word.HasWordEnds :=
  List.forall_mem_map.2 fun entry listed => (compounds entry listed).1

theorem HasCompoundKeywords.targets {table : Table} (compounds : table.HasCompoundKeywords) :
    ∀ word ∈ table.targets, word.HasWordEnds :=
  List.forall_mem_map.2 fun entry listed => (compounds entry listed).2

/-- A text has exactly one longest reading, and its translation replaces the keywords of
this reading by their counterparts and keeps all other characters in their places. Each
entry by itself is translated from either side to the other. -/
theorem translation_longestMatch {table : Table} (compounds : table.HasCompoundKeywords)
    {text : Text} (written : text.isBlank = false) :
    (∃ reading, reading.flatMap Segment.source = text ∧
        IsLongestReading table.surfaces [] reading ∧
        (∀ other, other.flatMap Segment.source = text →
          IsLongestReading table.surfaces [] other → other = reading) ∧
        table.forward text = reading.flatMap (Segment.render table.forwardWord)) ∧
      ∀ entry ∈ table.entries, table.forwardWord entry.surface = entry.target ∧
        table.forward entry.surface = entry.target ∧
        table.reverse entry.target = entry.surface := by
  have reads := isLongestReading_segments compounds.surfaces text
  have covers := flatMap_source_segments table.surfaces text
  refine ⟨⟨segments table.surfaces text, covers, reads, fun other coversToo readsToo => ?_, ?_⟩,
    fun entry listed => ?_⟩
  · exact readsToo.eq compounds.surfaces reads (coversToo.trans covers.symm)
  · rw [forward, replaceKeywords, if_neg (Bool.eq_false_iff.1 written)]
  · have isSurface : entry.surface ∈ table.surfaces := List.mem_map_of_mem listed
    have isTarget : entry.target ∈ table.targets := List.mem_map_of_mem listed
    refine ⟨table.forwardWord_eq_target listed, ?_, ?_⟩
    · rw [forward, replaceKeywords_of_mem compounds.surfaces _ isSurface,
        table.forwardWord_eq_target listed]
    · rw [reverse, replaceKeywords_of_mem compounds.targets _ isTarget,
        table.reverseWord_eq_surface listed]

/-- A table whose surface keywords start one another, overlap and hold signs. -/
def compounds : Table :=
  ⟨[⟨"nge", "with", "with", "scope", none⟩,
    ⟨"nge xesha", "while", "during the time", "loop", none⟩,
    ⟨"nge xesha lonke", "for ever", "all the time", "loop", none⟩,
    ⟨"lonke ukuba", "whenever", "every time", "control", none⟩,
    ⟨"a.b*(c", "a+c", "a sum", "operator", none⟩], by decide +kernel⟩

/-- The longest of three keywords is read first, so that the one that overlaps it is not
read at all. Where the longest one goes on as another word the second longest is read, and
the signs of a keyword stand for themselves. -/
theorem translation_longestMatch_compounds :
    let text : Text := "nge xesha lonke ukuba nge xesha lonkeX a.b*(c aab(c"
    let reading : List Segment :=
      .keyword "nge xesha lonke" :: ((" ukuba " : Text).map .kept ++
        .keyword "nge xesha" :: ((" lonkeX " : Text).map .kept ++
          .keyword "a.b*(c" :: (" aab(c" : Text).map .kept))
    compounds.HasCompoundKeywords ∧ text.isBlank = false ∧
      IsLongestReading compounds.surfaces [] reading ∧
      compounds.forward text = ("for ever ukuba while lonkeX a+c aab(c" : Text) ∧
      compounds.forward "nge xesha lonke" = ("for ever" : Text) ∧
      compounds.reverse "for ever" = ("nge xesha lonke" : Text) := by
  intro text reading
  have words : compounds.HasCompoundKeywords := by decide +kernel
  have written : text.isBlank = false := by decide +kernel
  obtain ⟨⟨found, -, reads, unique, rendered⟩, entries⟩ := translation_longestMatch words written
  have covers := flatMap_source_segments compounds.surfaces text
  have same : found = reading := by
    rw [← unique _ covers (isLongestReading_segments words.surfaces text)]
    decide +kernel
  subst same
  obtain ⟨-, forwards, backwards⟩ := entries
    ⟨"nge xesha lonke", "for ever", "all the time", "loop", none⟩ (by decide +kernel)
  refine ⟨words, written, reads, rendered.trans ?_, forwards, backwards⟩
  decide +kernel

end Table

end KeywordBridge
