import KeywordBridge.Proofs.Keyword.WordKeywords

/-!
# Longest readings

Keywords may be compounds here: they begin and end with a word character, and anything may
stand between. Several of them can then start at one position, each of them between
characters that belong to no word, and one can start inside another.

A longest reading cuts a text into keywords and single characters so that every keyword has
its neighbours outside of words, no longer keyword stands at the same start, and no keyword
at all starts at a character that is kept. The segments of a text are such a reading, and
there is no other: two readings agree on the first segment, hence on what is left to read.
-/

namespace KeywordBridge

/-- A keyword of the list stands between the two parts, neither of which goes on with a
word character. -/
structure IsKeywordBetween (words : List Text) (before word after : Text) : Prop where
  listed : word ∈ words
  start : Text.isWordSide before.getLast? = false
  stop : Text.isWordSide after.head? = false

/-- Is the segment the longest one between the two parts? A keyword stands there and no
longer one starts at its position; at a character that is kept none starts. -/
def Segment.IsLongest (words : List Text) (before after : Text) : Segment → Prop
  | kept c => ∀ word rest, word ++ rest = c :: after → ¬ IsKeywordBetween words before word rest
  | keyword word =>
      IsKeywordBetween words before word after ∧
        ∀ longer rest, longer ++ rest = word ++ after →
          IsKeywordBetween words before longer rest → longer.length ≤ word.length

/-- Behind `front`, every segment is the longest one at its place. -/
def IsLongestReading (words : List Text) (front : Text) (segments : List Segment) : Prop :=
  ∀ earlier segment later, segments = earlier ++ segment :: later →
    segment.IsLongest words (front ++ earlier.flatMap Segment.source)
      (later.flatMap Segment.source)

/-! ## Reading on -/

theorem isLongestReading_nil (words : List Text) (front : Text) :
    IsLongestReading words front [] := by
  intro earlier segment later cut
  exact absurd cut.symm (List.append_ne_nil_of_right_ne_nil _ (List.cons_ne_nil _ _))

/-- A reading is its first segment, followed by a reading behind that segment. -/
theorem isLongestReading_cons_iff {words : List Text} {front : Text} {segment : Segment}
    {others : List Segment} :
    IsLongestReading words front (segment :: others) ↔
      segment.IsLongest words front (others.flatMap Segment.source) ∧
        IsLongestReading words (front ++ segment.source) others := by
  constructor
  · intro reads
    refine ⟨?_, fun earlier other later cut => ?_⟩
    · have first := reads [] segment others rfl
      rwa [List.flatMap_nil, List.append_nil] at first
    · have behind := reads (segment :: earlier) other later (by rw [cut, List.cons_append])
      rwa [List.flatMap_cons, ← List.append_assoc] at behind
  · rintro ⟨first, behind⟩ earlier other later cut
    cases earlier with
    | nil =>
        rw [List.nil_append, List.cons.injEq] at cut
        obtain ⟨rfl, rfl⟩ := cut
        rwa [List.flatMap_nil, List.append_nil]
    | cons passed earlier =>
        rw [List.cons_append, List.cons.injEq] at cut
        obtain ⟨rfl, rest⟩ := cut
        rw [List.flatMap_cons, ← List.append_assoc]
        exact behind earlier other later rest

section

variable {words : List Text} (ends : ∀ word ∈ words, word.HasWordEnds)

include ends

/-! ## What the search finds -/

theorem standsAt_iff_isKeywordBetween {word : Text} (listed : word ∈ words)
    (front text : Text) :
    standsAt front.getLast? text word = true ↔
      ∃ rest, word ++ rest = text ∧ IsKeywordBetween words front word rest := by
  rw [standsAt_iff_of_hasWordEnds (ends word listed)]
  constructor
  · rintro ⟨start, rest, same, stop⟩
    exact ⟨rest, same, listed, start, stop⟩
  · rintro ⟨rest, same, between⟩
    exact ⟨between.start, rest, same, between.stop⟩

/-- Where no keyword is found, none stands. -/
theorem isLongest_kept_of_keywordAt? {front : Text} {c : Char} {rest : Text}
    (missing : keywordAt? words front.getLast? (c :: rest) = none) :
    (Segment.kept c).IsLongest words front rest := by
  intro word after same between
  have stands := (standsAt_iff_isKeywordBetween ends between.listed front (c :: rest)).2
    ⟨after, same, between⟩
  obtain ⟨found, isFound, -⟩ := exists_keywordAt?_of_standsAt between.listed stands
  rw [missing] at isFound
  cases isFound

/-- The keyword that is found is the longest one that stands there. -/
theorem isLongest_keyword_of_keywordAt? {front text word : Text}
    (found : keywordAt? words front.getLast? text = some word) :
    ∃ rest, word ++ rest = text ∧ (Segment.keyword word).IsLongest words front rest := by
  obtain ⟨listed, stands⟩ := standsAt_of_keywordAt? found
  obtain ⟨rest, rfl, between⟩ := (standsAt_iff_isKeywordBetween ends listed front text).1 stands
  refine ⟨rest, rfl, between, fun longer after same other => ?_⟩
  have standsToo := (standsAt_iff_isKeywordBetween ends other.listed front _).2
    ⟨after, same, other⟩
  obtain ⟨longest, isLongest, below⟩ := exists_keywordAt?_of_standsAt other.listed standsToo
  rw [found, Option.some_inj] at isLongest
  rwa [← isLongest] at below

/-! ## The reading of a text -/

/-- The segments that are found behind the characters of a keyword are a reading behind
these characters. -/
theorem isLongestReading_segmentsFrom (covered : Nat) (front text : Text) :
    IsLongestReading words (front ++ text.take covered)
      (segmentsFrom words covered front.getLast? text) := by
  induction text generalizing covered front with
  | nil =>
      rw [List.take_nil, List.append_nil, segmentsFrom]
      cases found : keywordAt? words front.getLast? [] with
      | none => exact isLongestReading_nil words front
      | some word =>
          -- At the end of a text only the empty keyword could stand.
          obtain ⟨rest, same, between, -⟩ := isLongest_keyword_of_keywordAt? ends found
          exact absurd (List.append_eq_nil_iff.1 same).1 (ends word between.listed).ne_nil
  | cons c rest ih =>
      have last : (front ++ [c]).getLast? = some c := List.getLast?_concat
      cases covered with
      | succ covered =>
          have behind := ih covered (front ++ [c])
          rw [last, List.append_assoc, List.singleton_append] at behind
          exact behind
      | zero =>
          rw [List.take_zero, List.append_nil, segmentsFrom]
          cases found : keywordAt? words front.getLast? (c :: rest) with
          | none =>
              have behind := ih 0 (front ++ [c])
              rw [last, List.take_zero, List.append_nil] at behind
              refine isLongestReading_cons_iff.2 ⟨?_, behind⟩
              rw [flatMap_source_segmentsFrom, List.drop_zero]
              exact isLongest_kept_of_keywordAt? ends found
          | some word =>
              obtain ⟨after, same, longest⟩ := isLongest_keyword_of_keywordAt? ends found
              cases word with
              | nil => exact absurd rfl (ends [] longest.1.listed).ne_nil
              | cons first others =>
                  rw [List.cons_append, List.cons.injEq] at same
                  obtain ⟨rfl, rfl⟩ := same
                  have behind := ih others.length (front ++ [first])
                  rw [last, List.take_left, List.append_assoc, List.singleton_append] at behind
                  refine isLongestReading_cons_iff.2 ⟨?_, behind⟩
                  rw [flatMap_source_segmentsFrom, List.drop_left]
                  exact longest

/-- The segments of a text are a longest reading of it. -/
theorem isLongestReading_segments (text : Text) :
    IsLongestReading words [] (segments words text) :=
  isLongestReading_segmentsFrom ends 0 [] text

/-- A segment that is the longest at its place covers at least one character. -/
theorem Segment.IsLongest.source_ne_nil {before after : Text} {segment : Segment}
    (longest : segment.IsLongest words before after) : segment.source ≠ [] := by
  cases segment with
  | kept c => exact List.cons_ne_nil c []
  | keyword word => exact (ends word longest.1.listed).ne_nil

omit ends in
/-- At one place of a text at most one segment is the longest. -/
theorem Segment.IsLongest.eq {before after behind : Text} {first second : Segment}
    (longest : first.IsLongest words before after)
    (again : second.IsLongest words before behind)
    (same : first.source ++ after = second.source ++ behind) : first = second := by
  cases first with
  | kept c =>
      cases second with
      | kept d => rw [(List.cons.inj same).1]
      | keyword word => exact absurd again.1 (longest word behind same.symm)
  | keyword word =>
      cases second with
      | kept d => exact absurd longest.1 (again word after same)
      | keyword other =>
          have upper : word.length ≤ other.length := again.2 word after same longest.1
          have lower : other.length ≤ word.length := longest.2 other behind same.symm again.1
          exact congrArg keyword (List.append_inj_left same (Nat.le_antisymm upper lower))

/-- A text has at most one longest reading. -/
theorem IsLongestReading.eq {front : Text} {first second : List Segment}
    (reads : IsLongestReading words front first) (again : IsLongestReading words front second)
    (same : first.flatMap Segment.source = second.flatMap Segment.source) : first = second := by
  induction first generalizing front second with
  | nil =>
      cases second with
      | nil => rfl
      | cons other more =>
          have here := (isLongestReading_cons_iff.1 again).1
          rw [List.flatMap_nil, List.flatMap_cons, eq_comm, List.append_eq_nil_iff] at same
          exact absurd same.1 (here.source_ne_nil ends)
  | cons segment others ih =>
      obtain ⟨here, behind⟩ := isLongestReading_cons_iff.1 reads
      cases second with
      | nil =>
          rw [List.flatMap_nil, List.flatMap_cons, List.append_eq_nil_iff] at same
          exact absurd same.1 (here.source_ne_nil ends)
      | cons other more =>
          obtain ⟨hereToo, behindToo⟩ := isLongestReading_cons_iff.1 again
          rw [List.flatMap_cons, List.flatMap_cons] at same
          obtain rfl := here.eq hereToo same
          rw [ih behind behindToo (List.append_cancel_left same)]

/-- A keyword by itself is read as this keyword. -/
theorem segments_of_mem {word : Text} (listed : word ∈ words) :
    segments words word = [.keyword word] := by
  have alone : IsLongestReading words [] [.keyword word] := by
    refine isLongestReading_cons_iff.2 ⟨⟨⟨listed, rfl, rfl⟩, fun longer rest same _ => ?_⟩,
      isLongestReading_nil words _⟩
    have within : longer.length + rest.length = word.length + 0 := by
      rw [← List.length_append, same, List.flatMap_nil, List.append_nil, Nat.add_zero]
    omega
  refine (isLongestReading_segments ends word).eq ends alone ?_
  rw [flatMap_source_segments, List.flatMap_singleton, Segment.source]

end

end KeywordBridge
