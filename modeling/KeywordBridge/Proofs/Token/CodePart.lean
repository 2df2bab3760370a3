import KeywordBridge.Proofs.Token.Recognition
import KeywordBridge.Proofs.Token.Rules

/-!
# The part of a line in front of its comment

The checks look at a line without its comment. This part is known from reading the
line for its quotes: it ends where a number sign is read outside strings. A character
that is neither a quote nor a backslash nor a number sign does not change how the
others are read, so it may be inserted between this part and the blanks at its end:
the comment stays a comment, and an open string stays open.
-/

namespace KeywordBridge

namespace Zone

/-- The part of a text in front of the first character that is read as a comment. -/
def codePart (zone : Zone) (held : Nat) (text : Text) : Text :=
  text.take ((zone.scan held text).1.takeWhile (· != .comment)).length

/-- Behind characters outside comments, the part goes on with that of the rest. -/
theorem codePart_append_of_prepend {zone next : Zone} {held left : Nat} (value : Text)
    {rest : Text} {region : Region} (outside : region ≠ .comment)
    (reads : zone.scan held (value ++ rest) =
      prepend (List.replicate value.length region) (next.scan left rest)) :
    zone.codePart held (value ++ rest) = value ++ next.codePart left rest := by
  have kept : (List.replicate value.length region).takeWhile (· != .comment) =
      List.replicate value.length region := by
    rw [List.takeWhile_eq_self_iff]
    intro other member
    rw [List.eq_of_mem_replicate member, bne_iff_ne]
    exact outside
  have regions : (zone.scan held (value ++ rest)).1.takeWhile (· != .comment) =
      List.replicate value.length region ++ (next.scan left rest).1.takeWhile (· != .comment) := by
    rw [reads, prepend, List.takeWhile_append, kept, if_pos rfl]
  rw [codePart, regions, List.length_append, List.length_replicate, List.take_length_add_append]
  rfl

/-- A comment is no code. -/
theorem codePart_of_comment {zone final : Zone} {held count : Nat} {text : Text}
    (reads : zone.scan held text = (List.replicate count .comment, final)) :
    zone.codePart held text = [] := by
  rw [codePart, reads]
  cases count <;> rfl

theorem scan_comment (text : Text) :
    comment.scan 0 text = (List.replicate text.length .comment, comment) := by
  induction text with
  | nil => rfl
  | cons c rest ih => rw [scan, read, ih]; rfl

/-- Outside comments, a character is read as a comment only if it is a number sign in
code. -/
theorem read_cases {zone : Zone} (outside : zone ≠ .comment) (c : Char) (rest : Text) :
    (zone.read c rest).region ≠ .comment ∧ (zone.read c rest).zone ≠ .comment ∨
      zone = .code ∧ c = '#' ∧ zone.read c rest = ⟨.comment, .comment, 0⟩ := by
  cases zone with
  | code =>
      cases leaves : leavesCode c with
      | false =>
          rw [read_code_of_stays leaves]
          exact .inl ⟨Region.noConfusion, Zone.noConfusion⟩
      | true =>
          rcases leavesCode_cases leaves with ⟨quote, rfl⟩ | rfl
          · rw [read_code_of_mark]
            left
            split <;> exact ⟨Region.noConfusion, Zone.noConfusion⟩
          · exact .inr ⟨rfl, rfl, rfl⟩
  | inLine quote =>
      simp only [read]
      left
      split
      · exact ⟨Region.noConfusion, Zone.noConfusion⟩
      · split <;> exact ⟨Region.noConfusion, Zone.noConfusion⟩
  | inTriple quote =>
      simp only [read]
      left
      split
      · exact ⟨Region.noConfusion, Zone.noConfusion⟩
      · split <;> exact ⟨Region.noConfusion, Zone.noConfusion⟩
  | comment => exact absurd rfl outside

theorem scan_held_cons (zone : Zone) (held : Nat) (c : Char) (rest : Text) :
    zone.scan (held + 1) (c :: rest) = prepend [.string] (zone.scan held rest) :=
  rfl

theorem codePart_cons_held (zone : Zone) (held : Nat) (c : Char) (rest : Text) :
    zone.codePart (held + 1) (c :: rest) = c :: zone.codePart held rest :=
  codePart_append_of_prepend [c] Region.noConfusion (scan_held_cons zone held c rest)

/-- The first character belongs to the part unless it opens a comment. -/
theorem codePart_cons {zone : Zone} {c : Char} {rest : Text}
    (outside : (zone.read c rest).region ≠ .comment) :
    zone.codePart 0 (c :: rest) =
      c :: (zone.read c rest).zone.codePart (zone.read c rest).held rest :=
  codePart_append_of_prepend [c] outside (scan_cons zone c rest)

theorem scan_sign (rest : Text) :
    code.scan 0 ('#' :: rest) = (List.replicate (rest.length + 1) .comment, comment) := by
  show prepend [.comment] (comment.scan 0 rest) = _
  rw [scan_comment]
  rfl

theorem codePart_sign (rest : Text) : code.codePart 0 ('#' :: rest) = [] :=
  codePart_of_comment (scan_sign rest)

/-- A text is its part outside comments and a comment, if there is one. -/
theorem exists_comment {zone : Zone} (outside : zone ≠ .comment) (held : Nat) (text : Text) :
    ∃ comment, text = zone.codePart held text ++ comment ∧ ∀ c ∈ comment.head?, c = '#' := by
  induction text generalizing zone held with
  | nil => exact ⟨[], rfl, fun _ none => nomatch none⟩
  | cons c rest ih =>
      cases held with
      | succ held =>
          obtain ⟨comment, whole, sign⟩ := ih outside held
          refine ⟨comment, ?_, sign⟩
          rw [codePart_cons_held, List.cons_append, ← whole]
      | zero =>
          rcases read_cases outside c rest with ⟨goesOn, next⟩ | ⟨rfl, rfl, -⟩
          · obtain ⟨comment, whole, sign⟩ := ih next (zone.read c rest).held
            refine ⟨comment, ?_, sign⟩
            rw [codePart_cons goesOn, List.cons_append, ← whole]
          · refine ⟨'#' :: rest, ?_, fun _ first => (Option.some.inj first).symm⟩
            rw [codePart_sign, List.nil_append]

/-! ## What follows the front of a text -/

/-- The text does not start with a quote. -/
def NoQuoteFirst (text : Text) : Prop :=
  ∀ quote : Quote, text.head? ≠ some quote.mark

/-- Two quotes that follow stand in front of what starts without a quote. -/
theorem take_two_append {back : Text} (stop : NoQuoteFirst back) (quote : Quote) (front : Text) :
    (front ++ back).take 2 = [quote.mark, quote.mark] ↔
      front.take 2 = [quote.mark, quote.mark] := by
  have first : ∀ d rest, back = d :: rest → d ≠ quote.mark := by
    rintro d rest rfl rfl
    exact stop quote rfl
  match front, back with
  | x :: y :: more, _ => exact Iff.rfl
  | [], [] | [x], [] => exact Iff.rfl
  | [], d :: rest =>
      refine iff_of_false (fun two => ?_) (by simp)
      exact first d rest rfl (List.cons.inj two).1
  | [x], d :: rest =>
      refine iff_of_false (fun two => ?_) (by simp)
      exact first d rest rfl (List.cons.inj (List.cons.inj two).2).1

/-- How a character is read depends on whether it is a quote and two more follow. -/
theorem read_of_take_two {rest other : Text}
    (two : ∀ quote : Quote, other.take 2 = [quote.mark, quote.mark] ↔
      rest.take 2 = [quote.mark, quote.mark]) (zone : Zone) (c : Char) :
    zone.read c other = zone.read c rest := by
  cases zone with
  | code =>
      cases leaves : leavesCode c with
      | false => rw [read_code_of_stays leaves, read_code_of_stays leaves]
      | true =>
          rcases leavesCode_cases leaves with ⟨quote, rfl⟩ | rfl
          · simp only [read_code_of_mark, two]
          · rfl
  | inTriple quote =>
      rcases mark_or_backslash_or_plain quote c with rfl | rfl | plain
      · simp only [read_inTriple_of_mark, two]
      · rfl
      · rw [read_inTriple_of_plain plain, read_inTriple_of_plain plain]
  | inLine | comment => rfl

/-- How a character is read depends on nothing beyond what starts without a quote. -/
theorem read_append {back : Text} (stop : NoQuoteFirst back) (zone : Zone) (c : Char)
    (front : Text) : zone.read c (front ++ back) = zone.read c front :=
  read_of_take_two (fun quote => take_two_append stop quote front) zone c

/-- Behind a front that lies in the code part, the reading goes on from a state that does
not depend on what follows, as long as that does not start with a quote. -/
theorem exists_state_behind {zone : Zone} (outside : zone ≠ .comment) {held : Nat}
    {front back : Text} (stop : NoQuoteFirst back)
    (inCode : front <+: zone.codePart held (front ++ back)) :
    ∃ (next : Zone) (left : Nat), next ≠ .comment ∧ ∀ other, NoQuoteFirst other →
      zone.codePart held (front ++ other) = front ++ next.codePart left other ∧
        (zone.scan held (front ++ other)).2 = (next.scan left other).2 := by
  induction front generalizing zone held with
  | nil => exact ⟨zone, held, outside, fun other _ => ⟨rfl, rfl⟩⟩
  | cons c rest ih =>
      cases held with
      | succ held =>
          rw [List.cons_append, codePart_cons_held, List.cons_prefix_cons] at inCode
          obtain ⟨next, left, known, behind⟩ := ih outside inCode.2
          refine ⟨next, left, known, fun other noQuote => ?_⟩
          obtain ⟨code, final⟩ := behind other noQuote
          rw [List.cons_append, codePart_cons_held, scan_held_cons, code]
          exact ⟨rfl, final⟩
      | zero =>
          have read (other : Text) (noQuote : NoQuoteFirst other) :=
            read_append noQuote zone c rest
          rcases read_cases outside c rest with ⟨goesOn, known⟩ | ⟨rfl, rfl, -⟩
          · rw [List.cons_append, codePart_cons (by rwa [read back stop]), read back stop,
              List.cons_prefix_cons] at inCode
            obtain ⟨next, left, known, behind⟩ := ih known inCode.2
            refine ⟨next, left, known, fun other noQuote => ?_⟩
            obtain ⟨code, final⟩ := behind other noQuote
            rw [List.cons_append, codePart_cons (by rwa [read other noQuote]), scan_cons,
              read other noQuote, code]
            exact ⟨rfl, final⟩
          · rw [List.cons_append, codePart_sign] at inCode
            exact absurd (List.prefix_nil.1 inCode) (List.cons_ne_nil _ _)

/-! ## Inserting a plain character -/

/-- Does the character lead neither into a string or a comment nor out of one, whatever
stands in front of it? -/
def isInert (c : Char) : Bool :=
  !leavesCode c && c != '\\'

theorem isInert_of_isBlankChar {c : Char} (blank : isBlankChar c = true) :
    isInert c = true := by
  have stays : leavesCode c = false := leavesCode_eq_false_of_class (by decide) blank
  rw [isInert, stays, Bool.not_false, Bool.true_and, bne_iff_ne]
  rintro rfl
  exact absurd blank (by decide)

theorem ne_mark_of_isInert {c : Char} (inert : isInert c = true) (quote : Quote) :
    c ≠ quote.mark := by
  rintro rfl
  cases quote <;> exact absurd inert (by decide)

theorem isPlainIn_of_isInert {c : Char} (inert : isInert c = true) (quote : Quote) :
    isPlainIn quote c = true := by
  have noBackslash : c ≠ '\\' := by
    rintro rfl
    exact absurd inert (by decide)
  exact isPlainIn_iff.2 ⟨ne_mark_of_isInert inert quote, noBackslash⟩

/-- An inert character is read outside comments and leaves the zone as it is. -/
theorem read_of_isInert {zone : Zone} (outside : zone ≠ .comment) {c : Char}
    (inert : isInert c = true) (rest : Text) :
    (zone.read c rest).region ≠ .comment ∧ (zone.read c rest).zone = zone ∧
      (zone.read c rest).held = 0 := by
  have plain := isPlainIn_of_isInert inert
  cases zone with
  | code =>
      rw [isInert, Bool.and_eq_true, Bool.not_eq_true'] at inert
      rw [read_code_of_stays inert.1]
      exact ⟨Region.noConfusion, rfl, rfl⟩
  | inLine quote =>
      rw [read_inLine_of_plain (plain quote)]
      exact ⟨Region.noConfusion, rfl, rfl⟩
  | inTriple quote =>
      rw [read_inTriple_of_plain (plain quote)]
      exact ⟨Region.noConfusion, rfl, rfl⟩
  | comment => exact absurd rfl outside

/-- Inert characters are passed in the same state, unless a backslash takes the first one
with it. -/
theorem codePart_append_of_inert {zone : Zone} (outside : zone ≠ .comment) (held : Nat)
    {value : Text} (inert : ∀ c ∈ value, isInert c = true) (rest : Text) :
    zone.codePart held (value ++ rest) = value ++ zone.codePart (held - value.length) rest ∧
      (zone.scan held (value ++ rest)).2 = (zone.scan (held - value.length) rest).2 := by
  induction value generalizing held with
  | nil => exact ⟨rfl, rfl⟩
  | cons c others ih =>
      rw [List.forall_mem_cons] at inert
      cases held with
      | succ held =>
          obtain ⟨code, final⟩ := ih held inert.2
          rw [List.cons_append, codePart_cons_held, scan_held_cons, code, List.length_cons,
            Nat.add_sub_add_right]
          exact ⟨rfl, final⟩
      | zero =>
          obtain ⟨goesOn, same, free⟩ := read_of_isInert outside inert.1 (others ++ rest)
          obtain ⟨code, final⟩ := ih 0 inert.2
          rw [List.cons_append, codePart_cons goesOn, scan_cons, same, free, code]
          simp only [Nat.zero_sub] at final ⊢
          exact ⟨rfl, final⟩

/-- A comment is read as one only where no backslash takes its number sign. -/
theorem held_eq_zero_of_codePart {zone : Zone} {held : Nat} {c : Char} {rest : Text}
    (isComment : zone.codePart held (c :: rest) = []) : held = 0 := by
  cases held with
  | zero => rfl
  | succ held =>
      rw [codePart_cons_held] at isComment
      exact absurd isComment (List.cons_ne_nil _ _)

/-- An inert character that is inserted between the code of a line and the blanks at its
end is code, and the line ends in the same zone. -/
theorem codePart_insert {front blanks comment : Text} {c : Char} (inert : isInert c = true)
    (inertBlanks : ∀ d ∈ blanks, isInert d = true) (sign : ∀ d ∈ comment.head?, d = '#')
    (isCode : code.codePart 0 (front ++ (blanks ++ comment)) = front ++ blanks) :
    code.codePart 0 (front ++ c :: (blanks ++ comment)) = front ++ c :: blanks ∧
      (code.scan 0 (front ++ c :: (blanks ++ comment))).2 =
        (code.scan 0 (front ++ (blanks ++ comment))).2 := by
  have stop : NoQuoteFirst (blanks ++ comment) := by
    intro quote first
    cases blanks with
    | nil =>
        have isSign := sign _ first
        cases quote <;> exact absurd isSign (by decide)
    | cons d others =>
        exact ne_mark_of_isInert (inertBlanks d List.mem_cons_self) quote (Option.some.inj first)
  have stopInserted : NoQuoteFirst (c :: (blanks ++ comment)) := fun quote first =>
    ne_mark_of_isInert inert quote (Option.some.inj first)
  obtain ⟨next, left, known, behind⟩ := exists_state_behind Zone.noConfusion stop
    (isCode ▸ List.prefix_append front blanks)
  obtain ⟨codeBehind, final⟩ := behind _ stop
  obtain ⟨codeInserted, finalInserted⟩ := behind _ stopInserted
  obtain ⟨codeBlanks, finalBlanks⟩ := codePart_append_of_inert known left inertBlanks comment
  obtain ⟨codeAll, finalAll⟩ := codePart_append_of_inert known left
    (List.forall_mem_cons.2 ⟨inert, inertBlanks⟩) comment
  have isComment : next.codePart (left - blanks.length) comment = [] := by
    rw [codeBehind, codeBlanks] at isCode
    exact List.append_cancel_left ((List.append_cancel_left isCode).trans (List.append_nil _).symm)
  rw [codeInserted, finalInserted, final, ← List.cons_append, codeAll, finalAll, finalBlanks]
  cases comment with
  | nil => exact ⟨congrArg (front ++ ·) (List.append_nil _), rfl⟩
  | cons d rest =>
      have free := held_eq_zero_of_codePart isComment
      have freeInserted : left - (c :: blanks).length = 0 := by
        rw [List.length_cons]
        omega
      rw [free] at isComment ⊢
      rw [freeInserted, isComment, List.append_nil]
      exact ⟨rfl, rfl⟩

end Zone

/-! ## The code of a line -/

theorem TokenKind.region_eq_comment_iff {kind : TokenKind} :
    kind.region = .comment ↔ kind = .comment := by
  cases kind <;> simp [region]

/-- The lexemes of a text outside comments make up its code part. -/
theorem source_filter_scanFrom {words : List Text} (isWord : ∀ word ∈ words, word.IsWord)
    (mode : Mode) (before : Option Char) (text : Text) (oneLine : '\n' ∉ text)
    (known : mode ≠ .blanks)
    (closes : ∀ quote, mode = .inLine quote → staysOpen quote text = false) :
    Lexeme.source ((scanFrom words mode before text).1.filter (·.kind != .comment)) =
      (Zone.ofMode mode).codePart 0 text := by
  fun_induction scanFrom words mode before text with
  | case1 mode before => rfl
  | case2 mode before c rest step value others final scanned ih =>
      rw [List.mem_cons, not_or] at oneLine
      have behind : '\n' ∉ rest.drop step.extra := fun member =>
        oneLine.2 (List.mem_of_mem_drop member)
      have agrees : TokenAgrees (Zone.ofMode mode) c rest step :=
        tokenAgrees_step isWord before oneLine.2 known closes
      have kept (outside : step.kind ≠ .comment) :
          Lexeme.source ((⟨step.kind, value⟩ :: others).filter (·.kind != .comment)) =
            value ++ Lexeme.source (others.filter (·.kind != .comment)) := by
        rw [List.filter_cons_of_pos (by simpa using outside), Lexeme.source_cons]
      cases agrees with
      | onward goesOn known closes reads =>
          have outside : step.kind ≠ .comment := by
            intro comment
            rw [comment] at goesOn
            exact Bool.noConfusion goesOn
          have read := reads _ List.prefix_rfl
          have code := Zone.codePart_append_of_prepend value
            (mt TokenKind.region_eq_comment_iff.1 outside) read
          rw [List.cons_append, List.take_append_drop] at code
          rw [scanned] at ih
          rw [kept outside, ih behind known closes, code]
      | final last endsLine visible code next leaves breaks ends reads =>
          rw [ends, scanFrom] at scanned
          cases scanned
          by_cases comment : step.kind = .comment
          · rw [List.filter_cons_of_neg (by simp [comment])]
            rw [TokenKind.region_eq_comment_iff.2 comment] at reads
            exact (Zone.codePart_of_comment reads).symm
          · have whole : value ++ [] = c :: rest := by
              have cut := List.take_append_drop step.extra rest
              rw [ends] at cut
              exact congrArg (c :: ·) cut
            have read : (Zone.ofMode mode).scan 0 (value ++ []) =
                Zone.prepend (List.replicate value.length step.kind.region) (last.scan 0 []) := by
              rw [whole, reads]
              exact Prod.ext (List.append_nil _).symm rfl
            have code := Zone.codePart_append_of_prepend value
              (mt TokenKind.region_eq_comment_iff.1 comment) read
            rw [whole] at code
            rw [kept comment, code]
            rfl

/-- The code of a line that is read in a mode in which a line may start. -/
theorem Table.HasWordKeywords.source_filter_scanLine {table : Table}
    (words : table.HasWordKeywords) {mode : Mode} (start : mode.StartsLine) {line : Text}
    (oneLine : '\n' ∉ line) :
    Lexeme.source ((table.scanLine mode line).1.filter (·.kind != .comment)) =
      (Zone.ofMode mode).codePart 0 line := by
  rw [words.scanLine_eq start oneLine]
  exact source_filter_scanFrom words.isWord_of_mem_surfaces mode none line oneLine
    start.ne_blanks start.closes

end KeywordBridge
