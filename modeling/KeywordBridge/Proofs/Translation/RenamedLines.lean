import KeywordBridge.Proofs.Token.Recognition
import KeywordBridge.Proofs.Translation.RenamedTokens
import KeywordBridge.Proofs.Translation.TokenAgreement

/-!
# Lines under a renaming of keywords

Since every token is found again, so are all tokens of a line and the mode behind
them. A token that starts or ends between two words does so in the renamed line behind
the renamed characters in front. Strings and comments begin and end there, since they
are delimited by marks.
-/

namespace KeywordBridge

/-! ## The lexemes of a text -/

/-- How the lexemes of a renamed text stand for those of the text behind `before`: one
by one, and where the text is cut between words, the rest of it is renamed. -/
inductive LexemesRenamed (image : Text → Text) : Option Char → List Lexeme → List Lexeme → Prop
  | nil (before : Option Char) : LexemesRenamed image before [] []
  | cons {before : Option Char} {lexeme other : Lexeme} {lexemes others : List Lexeme}
      (first : lexeme.IsRenamed image other)
      (aligned : Text.isWordSide before = false ∨
          Text.isWordSide (Lexeme.source (lexeme :: lexemes)).head? = false →
        Lexeme.source (other :: others) = Text.mapWords image (Lexeme.source (lexeme :: lexemes)))
      (behind : LexemesRenamed image (lexeme.value.getLast?.or before) lexemes others) :
      LexemesRenamed image before (lexeme :: lexemes) (other :: others)

section

variable {words : List Text} {image : Text → Text} (renames : Renaming words image)

include renames

theorem Renaming.eq_nil_of_follows {mode : Mode} {before other : Option Char} {text : Text}
    (follows : Follows words image before other mode [] text) : text = [] := by
  cases follows with
  | code => exact renames.renderFrom_nil before
  | string _ rewrites => exact rewrites.of_nil
  | ended => rfl

/-- What follows where no word is cut is renamed word by word. -/
theorem Renaming.eq_mapWords_of_follows {mode : Mode} {before other : Option Char}
    {text renamed : Text} (follows : Follows words image before other mode text renamed)
    (apart : Text.isWordSide before = false ∨ Text.isWordSide text.head? = false) :
    renamed = text.mapWords image := by
  cases follows with
  | code => exact renames.renderFrom_eq_mapWords apart
  | string _ rewrites => exact rewrites.eq_mapWords apart
  | ended => rw [Text.mapWords_nil]

/-- Scanning a text and the renamed text gives lexemes that stand for each other, and
the same mode at the end. -/
theorem Renaming.scanFrom_follows {mode : Mode} {before other : Option Char}
    {text renamed : Text} (oneLine : '\n' ∉ text)
    (follows : Follows words image before other mode text renamed) :
    LexemesRenamed image before (scanFrom words mode before text).1
        (scanFrom words mode other renamed).1 ∧
      (scanFrom words mode other renamed).2 = (scanFrom words mode before text).2 := by
  fun_induction scanFrom words mode before text generalizing other renamed with
  | case1 mode before =>
      rw [renames.eq_nil_of_follows follows, scanFrom]
      exact ⟨.nil before, rfl⟩
  | case2 mode before c rest step value lexemes final =>
      rename_i scanned ih
      rw [List.mem_cons, not_or] at oneLine
      have aligned := renames.eq_mapWords_of_follows follows
      obtain ⟨d, others, rfl, sameMode, first, behind⟩ := renames.step_follows oneLine.2 follows
      obtain ⟨lexemesBehind, sameFinal⟩ :=
        ih (fun member => oneLine.2 (List.mem_of_mem_drop member)) behind
      have source := source_scanFrom words mode before (c :: rest)
      have otherSource := source_scanFrom words mode other (d :: others)
      rw [scanFrom, scanned] at source
      rw [scanned] at lexemesBehind sameFinal
      rw [scanFrom] at otherSource ⊢
      simp only [sameMode] at otherSource ⊢
      have last : value.getLast?.or before = value.getLast? := by
        rw [List.getLast?_cons, Option.some_or]
      rw [← last] at lexemesBehind
      refine ⟨.cons first ?_ lexemesBehind, sameFinal⟩
      intro apart
      rw [otherSource, source]
      rw [source] at apart
      exact aligned apart

end

section

variable {image : Text → Text}

theorem LexemesRenamed.forall₂ {before : Option Char} {lexemes others : List Lexeme}
    (renamed : LexemesRenamed image before lexemes others) :
    List.Forall₂ (Lexeme.IsRenamed image) lexemes others := by
  induction renamed with
  | nil => exact .nil
  | cons first _ _ ih => exact .cons first ih

theorem LexemesRenamed.source_eq {before : Option Char} {lexemes others : List Lexeme}
    (renamed : LexemesRenamed image before lexemes others)
    (apart : Text.isWordSide before = false ∨
      Text.isWordSide (Lexeme.source lexemes).head? = false) :
    Lexeme.source others = Text.mapWords image (Lexeme.source lexemes) := by
  cases renamed with
  | nil => exact (Text.mapWords_nil image).symm
  | cons _ aligned _ => exact aligned apart

/-- Where a line is cut between words, the renamed line is cut behind the renamed
characters in front. -/
theorem LexemesRenamed.front_eq {front otherFront : Text} {lexemes others : List Lexeme}
    (renamed : LexemesRenamed image front.getLast? lexemes others)
    (whole : otherFront ++ Lexeme.source others = Text.mapWords image (front ++ Lexeme.source lexemes))
    (cut : Text.IsCutAt (front ++ Lexeme.source lexemes) front.length) :
    otherFront = front.mapWords image := by
  rw [Text.isCutAt_append] at cut
  rw [renamed.source_eq cut, Text.mapWords_append_of_apart image cut] at whole
  exact List.append_cancel_right whole

/-! ## The tokens of a line -/

/-- How a token of a renamed line stands for a token of the line. -/
structure Token.IsRenamed (image : Text → Text) (line : Text) (token other : Token) : Prop where
  number : other.line = token.line
  kind : other.kind = token.kind.renamed
  value : token.kind ∉ [.string, .escape, .brokenString, .comment] →
    other.value = if token.kind = .keyword then image token.value else token.value
  start : line.IsCutAt (token.column - 1) →
    other.column = (Text.mapWords image (line.take (token.column - 1))).length + 1
  stop : line.IsCutAt (token.endColumn - 1) →
    other.endColumn = (Text.mapWords image (line.take (token.endColumn - 1))).length + 1

/-- Lexemes that stand for each other, between texts that do where the line is cut
between words. -/
theorem Token.isRenamed_of_cuts {front otherFront rest : Text} {lexeme other : Lexeme}
    (number : Int) (renamed : lexeme.IsRenamed image other)
    (startsAt : Text.IsCutAt (front ++ lexeme.value ++ rest) front.length →
      otherFront = front.mapWords image)
    (stopsAt : Text.IsCutAt (front ++ lexeme.value ++ rest) (front ++ lexeme.value).length →
      otherFront ++ other.value = Text.mapWords image (front ++ lexeme.value)) :
    Token.IsRenamed image (front ++ lexeme.value ++ rest)
      ⟨lexeme.kind, lexeme.value, number, front.length + 1⟩
      ⟨other.kind, other.value, number, otherFront.length + 1⟩ where
  number := rfl
  kind := renamed.kind
  value code := renamed.value <| by
    by_contra outside
    exact code ((TokenKind.region_ne_code_iff _).1 outside)
  start between := by
    simp only [Nat.add_sub_cancel] at between ⊢
    rw [startsAt between, List.append_assoc, List.take_left]
  stop between := by
    have index : front.length + 1 + lexeme.value.length - 1 = (front ++ lexeme.value).length := by
      rw [List.length_append]
      omega
    simp only [Token.endColumn, index] at between ⊢
    rw [List.take_left, ← stopsAt between, List.length_append]
    omega

/-- Lexemes that stand for each other are placed as tokens that do. -/
theorem LexemesRenamed.place {front otherFront : Text} {lexemes others : List Lexeme}
    (renamed : LexemesRenamed image front.getLast? lexemes others)
    (whole : otherFront ++ Lexeme.source others = Text.mapWords image (front ++ Lexeme.source lexemes))
    (number : Int) :
    List.Forall₂ (Token.IsRenamed image (front ++ Lexeme.source lexemes))
      (Lexeme.place number (front.length + 1) lexemes)
      (Lexeme.place number (otherFront.length + 1) others) := by
  generalize last : front.getLast? = before at renamed
  induction renamed generalizing front otherFront with
  | nil => exact .nil
  | @cons before lexeme other lexemes others first aligned behind ih =>
      have here : LexemesRenamed image front.getLast? (lexeme :: lexemes) (other :: others) := by
        rw [last]
        exact .cons first aligned behind
      have startsAt := here.front_eq whole
      have lastBehind : (front ++ lexeme.value).getLast? = lexeme.value.getLast?.or before := by
        rw [List.getLast?_append, last]
      rw [← lastBehind] at behind
      have wholeBehind : (otherFront ++ other.value) ++ Lexeme.source others =
          Text.mapWords image ((front ++ lexeme.value) ++ Lexeme.source lexemes) := by
        rw [List.append_assoc, List.append_assoc]
        exact whole
      have stopsAt := behind.front_eq wholeBehind
      have cut : front ++ Lexeme.source (lexeme :: lexemes) =
          (front ++ lexeme.value) ++ Lexeme.source lexemes := by
        rw [List.append_assoc]
        rfl
      have tokensBehind := ih wholeBehind lastBehind
      rw [cut] at startsAt ⊢
      rw [List.length_append, List.length_append, Nat.add_right_comm,
        Nat.add_right_comm otherFront.length] at tokensBehind
      exact .cons (Token.isRenamed_of_cuts number first startsAt stopsAt) tokensBehind

end

/-! ## The lines of a program -/

section

variable {table : Table} {image : Text → Text} (renames : Renaming table.surfaces image)

include renames

theorem Renaming.scanLine_renamed {mode : Mode} (start : mode.StartsLine) {line : Text}
    (oneLine : '\n' ∉ line) :
    LexemesRenamed image none (table.scanLine mode line).1
        (table.scanLine mode (line.mapWords image)).1 ∧
      (table.scanLine mode (line.mapWords image)).2 = (table.scanLine mode line).2 := by
  have follows : Follows table.surfaces image none none mode line (line.mapWords image) := by
    rcases start with rfl | ⟨quote, rfl⟩
    · exact renames.follows_behind_mark rfl rfl line
    · have inside : (Mode.inTriple quote).quote? = some quote := rfl
      exact .string inside (.whole line)
  obtain ⟨lexemes, final⟩ := renames.scanFrom_follows oneLine follows
  exact ⟨lexemes, congrArg Mode.afterLine final⟩

/-- The tokens of a renamed line stand for the tokens of the line. -/
theorem Renaming.tokenizeLine_renamed {mode : Mode} (start : mode.StartsLine) (number : Int)
    {line : Text} (oneLine : '\n' ∉ line) :
    List.Forall₂ (Token.IsRenamed image line) (table.tokenizeLine mode number line).1
      (table.tokenizeLine mode number (line.mapWords image)).1 := by
  have source : Lexeme.source (table.scanLine mode line).1 = line :=
    source_scanFrom table.surfaces mode none line
  have otherSource : Lexeme.source (table.scanLine mode (line.mapWords image)).1 = _ :=
    source_scanFrom table.surfaces mode none (line.mapWords image)
  have renamed : LexemesRenamed image (List.getLast? []) _ _ :=
    (renames.scanLine_renamed start oneLine).1
  have whole : [] ++ Lexeme.source (table.scanLine mode (line.mapWords image)).1 =
      Text.mapWords image ([] ++ Lexeme.source (table.scanLine mode line).1) := by
    rw [List.nil_append, List.nil_append, source, otherSource]
  have tokens := renamed.place whole number
  rw [List.nil_append, source] at tokens
  exact tokens

variable (words : table.HasWordKeywords)

include words

/-- Behind consecutive lines the mode is the same as behind the renamed lines. -/
theorem Renaming.modeAfter_renamed {mode : Mode} (start : mode.StartsLine) {lines : List Text}
    (oneLine : ∀ line ∈ lines, '\n' ∉ line.dropReturns) :
    table.modeAfter mode (lines.map (Text.mapWords image)) = table.modeAfter mode lines := by
  induction lines generalizing mode with
  | nil => rfl
  | cons line rest ih =>
      rw [List.forall_mem_cons] at oneLine
      have next := words.startsLine_scanLine start oneLine.1
      obtain ⟨-, same⟩ := renames.scanLine_renamed start oneLine.1
      rw [List.map_cons, Table.modeAfter, Table.modeAfter,
        Text.dropReturns_mapWords renames.isWord_image, same, ih next oneLine.2]

end

end KeywordBridge
