import KeywordBridge.Proofs.Keyword.WordKeywords
import KeywordBridge.Proofs.Token.Quotes
import KeywordBridge.Proofs.Token.Steps

/-!
# The tokens of a line agree with its quotes

Cutting a line into tokens tries rules in turn and looks ahead for the end of a
string; reading the line for its quotes goes character by character. Both find
the same strings and comments. Every token is read in the zone that its mode
stands for and leaves the reading in the zone of the mode behind it. The two
exceptions end the line: a comment, and a string that the line does not close.
That no other string breaks off needs one invariant: inside a string that has to
end on its line, the rest of the line does not stay open.
-/

namespace KeywordBridge

theorem Quote.mark_ne_backslash (quote : Quote) : quote.mark ≠ '\\' := by
  cases quote <;> decide

/-- A plain character of a string neither ends it nor escapes what follows. -/
theorem isPlainIn_iff {quote : Quote} {c : Char} :
    isPlainIn quote c = true ↔ c ≠ quote.mark ∧ c ≠ '\\' := by
  rw [isPlainIn, Bool.and_eq_true, bne_iff_ne, bne_iff_ne]

theorem isPlainIn_mark (quote : Quote) : isPlainIn quote quote.mark = false := by
  rw [isPlainIn, bne_self_eq_false, Bool.false_and]

namespace Zone

/-- What is read of a text behind characters whose regions are known. -/
def prepend (regions : List Region) (read : List Region × Zone) : List Region × Zone :=
  (regions ++ read.1, read.2)

theorem scan_cons (zone : Zone) (c : Char) (rest : Text) :
    zone.scan 0 (c :: rest) =
      prepend [(zone.read c rest).region]
        ((zone.read c rest).zone.scan (zone.read c rest).held rest) :=
  rfl

/-- Characters that are held belong to a string. -/
theorem scan_held (zone : Zone) (value rest : Text) :
    zone.scan value.length (value ++ rest) =
      prepend (List.replicate value.length .string) (zone.scan 0 rest) := by
  induction value with
  | nil => rfl
  | cons c others ih =>
      rw [List.length_cons, List.cons_append, scan, ih]
      rfl

/-- Characters that are all read in the same way leave the zone as it is. -/
theorem scan_append {zone : Zone} {region : Region} {value : Text}
    (same : ∀ d ∈ value, ∀ rest, zone.read d rest = ⟨region, zone, 0⟩) (rest : Text) :
    zone.scan 0 (value ++ rest) =
      prepend (List.replicate value.length region) (zone.scan 0 rest) := by
  induction value with
  | nil => rfl
  | cons c others ih =>
      have here := same c List.mem_cons_self (others ++ rest)
      have behind := ih fun d member => same d (List.mem_cons_of_mem c member)
      rw [List.cons_append, scan_cons, here, behind]
      rfl

theorem read_code_of_mark (quote : Quote) (rest : Text) :
    code.read quote.mark rest =
      if rest.take 2 = [quote.mark, quote.mark] then ⟨.string, .inTriple quote, 2⟩
      else ⟨.string, .inLine quote, 0⟩ := by
  cases quote <;> rfl

theorem read_inLine_of_plain {quote : Quote} {c : Char} (plain : isPlainIn quote c = true)
    (rest : Text) : (inLine quote).read c rest = ⟨.string, .inLine quote, 0⟩ := by
  rw [isPlainIn_iff] at plain
  simp [read, plain]

theorem read_inTriple_of_plain {quote : Quote} {c : Char} (plain : isPlainIn quote c = true)
    (rest : Text) : (inTriple quote).read c rest = ⟨.string, .inTriple quote, 0⟩ := by
  rw [isPlainIn_iff] at plain
  simp [read, plain]

theorem read_inLine_of_backslash (quote : Quote) (rest : Text) :
    (inLine quote).read '\\' rest = ⟨.string, .inLine quote, 1⟩ :=
  rfl

theorem read_inLine_of_mark (quote : Quote) (rest : Text) :
    (inLine quote).read quote.mark rest = ⟨.string, .code, 0⟩ := by
  cases quote <;> rfl

theorem read_inTriple_of_mark (quote : Quote) (rest : Text) :
    (inTriple quote).read quote.mark rest =
      if rest.take 2 = [quote.mark, quote.mark] then ⟨.string, .code, 2⟩
      else ⟨.string, .inTriple quote, 0⟩ := by
  rw [read, if_neg quote.mark_ne_backslash]
  simp only [true_and]

/-- The content of a string leaves the reading in the string. -/
theorem scan_inLine_append {quote : Quote} {content : Text}
    (opened : staysOpen quote content = true) (rest : Text) :
    (inLine quote).scan 0 (content ++ rest) =
      prepend (List.replicate content.length .string) ((inLine quote).scan 0 rest) := by
  fun_induction staysOpen quote content with
  | case1 c others ih =>
      rw [Bool.and_eq_true] at opened
      have behind := scan_held (inLine quote) [c] (others ++ rest)
      rw [List.length_singleton, List.singleton_append, ih opened.2] at behind
      rw [List.cons_append, List.cons_append, scan_cons, read_inLine_of_backslash, behind]
      rfl
  | case2 c others _ ih =>
      rw [Bool.and_eq_true] at opened
      rw [List.cons_append, scan_cons, read_inLine_of_plain opened.1, ih opened.2]
      rfl
  | case3 => rfl

/-- A string that stays open is read to the end of the line. -/
theorem scan_inLine_of_staysOpen {quote : Quote} {text : Text}
    (opened : staysOpen quote text = true) :
    (inLine quote).scan 0 text = (List.replicate text.length .string, inLine quote) := by
  have whole := scan_inLine_append opened []
  rw [List.append_nil] at whole
  rw [whole, prepend, scan, List.append_nil]

end Zone

/-! ## One token -/

/-- A comment and a broken string go on to the end of their line. -/
def TokenKind.endsLine : TokenKind → Bool
  | brokenString | comment => true
  | _ => false

/-- How a token agrees with the reading of the line from its first character on. -/
inductive TokenAgrees (zone : Zone) (c : Char) (rest : Text) (step : TokenStep) : Prop
  /-- The reading goes on behind the token in the zone of its mode, wherever the line is
  cut off behind the token. -/
  | onward (goesOn : step.kind.endsLine = false) (known : step.mode ≠ .blanks)
      (closes : ∀ quote, step.mode = .inLine quote →
        staysOpen quote (rest.drop step.extra) = false)
      (reads : ∀ behind, behind <+: rest.drop step.extra →
        zone.scan 0 (c :: rest.take step.extra ++ behind) =
          Zone.prepend (List.replicate (rest.take step.extra).length.succ step.kind.region)
            ((Zone.ofMode step.mode).scan 0 behind))
  /-- The token ends the line, and `last` is the zone there. -/
  | final (last : Zone) (endsLine : step.kind.endsLine = true)
      (visible : isBlankChar c = false) (code : step.mode = .code)
      (next : last.nextMode = .code) (leaves : last ≠ .code)
      (breaks : step.kind = .brokenString ↔ last.breaksString = true)
      (ends : rest.drop step.extra = [])
      (reads : zone.scan 0 (c :: rest) =
        (List.replicate (rest.take step.extra).length.succ step.kind.region, last))

/-- A token each of whose characters is read in the same way. -/
theorem tokenAgrees_of_same {zone : Zone} {c : Char} {rest : Text} {step : TokenStep}
    (goesOn : step.kind.endsLine = false) (known : step.mode ≠ .blanks)
    (mode : Zone.ofMode step.mode = zone)
    (closes : ∀ quote, step.mode = .inLine quote →
      staysOpen quote (rest.drop step.extra) = false)
    (same : ∀ d ∈ c :: rest.take step.extra, ∀ behind,
      zone.read d behind = ⟨step.kind.region, zone, 0⟩) :
    TokenAgrees zone c rest step := by
  refine .onward goesOn known closes fun behind _ => ?_
  rw [mode, Zone.scan_append same behind, List.length_cons]

theorem take_two_of_completesTriple {quote : Quote} {rest : Text} :
    completesTriple quote rest = true ↔ rest.take 2 = [quote.mark, quote.mark] := by
  rw [completesTriple, List.isPrefixOf_iff_prefix, List.prefix_iff_eq_take, eq_comm]
  rfl

/-- A triple quote that stands in a part of the line stands in the line. -/
theorem completesTriple_of_part {quote : Quote} {part rest : Text} (isPart : part <+: rest)
    (triple : completesTriple quote part = true) : completesTriple quote rest = true := by
  rw [completesTriple, List.isPrefixOf_iff_prefix] at triple ⊢
  exact triple.trans isPart

/-- Three quotes are read together. -/
theorem scan_of_completesTriple {zone final : Zone} {quote : Quote} {rest : Text}
    (triple : completesTriple quote rest = true)
    (read : ∀ text, text.take 2 = [quote.mark, quote.mark] →
      zone.read quote.mark text = ⟨.string, final, 2⟩) (behind : Text) :
    zone.scan 0 (quote.mark :: rest.take 2 ++ behind) =
      Zone.prepend (List.replicate (rest.take 2).length.succ .string) (final.scan 0 behind) := by
  have two := take_two_of_completesTriple.1 triple
  have held := Zone.scan_held final (rest.take 2) behind
  rw [two] at held ⊢
  rw [List.cons_append, Zone.scan_cons, read _ rfl]
  exact congrArg (Zone.prepend [.string]) held

/-- A quote alone opens a string that has to end on its line. -/
theorem scan_of_single {quote : Quote} {rest behind : Text}
    (noTriple : ¬ completesTriple quote rest = true) (isPart : behind <+: rest) :
    Zone.code.scan 0 (quote.mark :: behind) =
      Zone.prepend [.string] ((Zone.inLine quote).scan 0 behind) := by
  have single : ¬ behind.take 2 = [quote.mark, quote.mark] := fun two =>
    noTriple (completesTriple_of_part isPart (take_two_of_completesTriple.2 two))
  rw [Zone.scan_cons, Zone.read_code_of_mark, if_neg single]

theorem tokenAgrees_openingStep (quote : Quote) (rest : Text) :
    TokenAgrees .code quote.mark rest (openingStep quote rest) := by
  unfold openingStep
  split
  · rename_i triple
    refine .onward rfl (by simp) (by simp) fun behind _ => ?_
    apply scan_of_completesTriple triple
    intro text two
    rw [Zone.read_code_of_mark, if_pos two]
    rfl
  · rename_i noTriple
    split
    · rename_i opened
      have visible : isBlankChar quote.mark = false := by cases quote <;> decide
      refine .final (.inLine quote) rfl visible rfl rfl (by simp) (iff_of_true rfl rfl)
        List.drop_length ?_
      rw [scan_of_single noTriple List.prefix_rfl, Zone.scan_inLine_of_staysOpen opened,
        List.take_length]
      rfl
    · rename_i closed
      refine .onward rfl (by simp) ?_ fun behind isPart => scan_of_single noTriple isPart
      intro other same
      cases same
      exact Bool.eq_false_iff.2 closed

theorem staysOpen_cons {quote : Quote} {c : Char} (noEscape : c ≠ '\\') (rest : Text) :
    staysOpen quote (c :: rest) = (isPlainIn quote c && staysOpen quote rest) := by
  rw [staysOpen, isPlainIn]
  intro d behind same
  exact absurd same noEscape

theorem staysOpen_of_mark (quote : Quote) (rest : Text) :
    staysOpen quote (quote.mark :: rest) = false := by
  rw [staysOpen_cons quote.mark_ne_backslash, isPlainIn_mark, Bool.false_and]

theorem staysOpen_of_plain {quote : Quote} {c : Char} (plain : isPlainIn quote c = true)
    (rest : Text) : staysOpen quote (c :: rest) = staysOpen quote rest := by
  rw [staysOpen_cons (isPlainIn_iff.1 plain).2, plain, Bool.true_and]

/-- Characters that are plain in a string do not decide whether it stays open. -/
theorem staysOpen_append {quote : Quote} {value : Text}
    (plain : ∀ d ∈ value, isPlainIn quote d = true) (rest : Text) :
    staysOpen quote (value ++ rest) = staysOpen quote rest := by
  induction value with
  | nil => rfl
  | cons c others ih =>
      rw [List.cons_append, staysOpen_of_plain (plain c List.mem_cons_self),
        ih fun d member => plain d (List.mem_cons_of_mem c member)]

theorem isPlainIn_of_not {quote : Quote} {c : Char} (noMark : ¬ (c == quote.mark) = true)
    (noEscape : ¬ (c == '\\') = true) : isPlainIn quote c = true := by
  rw [beq_iff_eq] at noMark noEscape
  exact isPlainIn_iff.2 ⟨noMark, noEscape⟩

/-- A plain character with the run of plain ones behind it. -/
theorem isPlainIn_of_mem_take {quote : Quote} {c : Char} {rest : Text}
    (plain : isPlainIn quote c = true) :
    ∀ d ∈ c :: rest.take (Text.countWhile (isPlainIn quote) rest), isPlainIn quote d = true := by
  intro d member
  rw [take_countWhile] at member
  rcases List.mem_cons.1 member with rfl | later
  · exact plain
  · exact List.mem_takeWhile_imp later

theorem tokenAgrees_inLineStep {quote : Quote} {c : Char} {rest : Text}
    (oneLine : '\n' ∉ rest) (closes : staysOpen quote (c :: rest) = false) :
    TokenAgrees (.inLine quote) c rest (inLineStep quote c rest) := by
  unfold inLineStep
  split
  · rename_i mark
    rw [beq_iff_eq] at mark
    subst mark
    refine .onward rfl (by simp) (by simp) fun behind _ => ?_
    rw [List.take_zero, List.singleton_append, Zone.scan_cons, Zone.read_inLine_of_mark]
    rfl
  · rename_i noMark
    split
    · rename_i escape
      rw [beq_iff_eq] at escape
      subst escape
      cases rest with
      | nil =>
          rw [if_neg (by simp [hasEscapable])]
          have visible : isBlankChar '\\' = false := by decide
          exact .final (.inLine quote) rfl visible rfl rfl (by simp) (iff_of_true rfl rfl) rfl rfl
      | cons d behind =>
          have noBreak : d ≠ '\n' := fun same => oneLine (same ▸ List.mem_cons_self)
          rw [if_pos (by simp [hasEscapable, noBreak])]
          refine .onward rfl (by simp) ?_ fun behind _ => rfl
          -- The string is as open behind the escape as in front of it.
          intro other same
          cases same
          simpa [staysOpen, noBreak] using closes
    · rename_i noEscape
      have plain := isPlainIn_of_not noMark noEscape
      refine tokenAgrees_of_same rfl (by simp) rfl ?_
        fun d member => Zone.read_inLine_of_plain (isPlainIn_of_mem_take plain d member)
      intro other same
      cases same
      have line : c :: rest = (c :: rest.take (Text.countWhile (isPlainIn quote) rest)) ++
          rest.drop (Text.countWhile (isPlainIn quote) rest) := by
        rw [List.cons_append, List.take_append_drop]
      rw [line, staysOpen_append (isPlainIn_of_mem_take plain)] at closes
      exact closes

theorem tokenAgrees_inTripleStep {quote : Quote} {c : Char} {rest : Text}
    (oneLine : '\n' ∉ rest) :
    TokenAgrees (.inTriple quote) c rest (inTripleStep quote c rest) := by
  unfold inTripleStep
  split
  · rename_i mark
    rw [beq_iff_eq] at mark
    subst mark
    split
    · rename_i triple
      refine .onward rfl (by simp) (by simp) fun behind _ => ?_
      apply scan_of_completesTriple triple
      intro text two
      rw [Zone.read_inTriple_of_mark, if_pos two]
      rfl
    · rename_i noTriple
      refine .onward rfl (by simp) (by simp) fun behind isPart => ?_
      have single : ¬ behind.take 2 = [quote.mark, quote.mark] := fun two =>
        noTriple (completesTriple_of_part isPart (take_two_of_completesTriple.2 two))
      rw [List.take_zero, List.singleton_append, Zone.scan_cons, Zone.read_inTriple_of_mark,
        if_neg single]
      rfl
  · rename_i noMark
    split
    · rename_i escape
      rw [beq_iff_eq] at escape
      subst escape
      cases rest with
      | nil =>
          rw [if_neg (by simp [hasEscapable])]
          refine .onward rfl (by simp) (by simp) fun behind isPart => ?_
          rw [List.prefix_nil.1 isPart]
          rfl
      | cons d behind =>
          have noBreak : d ≠ '\n' := fun same => oneLine (same ▸ List.mem_cons_self)
          rw [if_pos (by simp [hasEscapable, noBreak])]
          exact .onward rfl (by simp) (by simp) fun behind _ => rfl
    · rename_i noEscape
      have plain := isPlainIn_of_not noMark noEscape
      exact tokenAgrees_of_same rfl (by simp) rfl (by simp)
        fun d member => Zone.read_inTriple_of_plain (isPlainIn_of_mem_take plain d member)

/-! ## Tokens in code -/

/-- The characters that lead out of code when they are read there. -/
def codeExits : List Char :=
  ['"', '\'', '#']

/-- Does the character lead out of code? -/
def leavesCode (c : Char) : Bool :=
  codeExits.contains c

theorem leavesCode_eq_false_of_class {p : Char → Bool}
    (outside : codeExits.any p = false) {c : Char} (member : p c = true) :
    leavesCode c = false := by
  rw [Bool.eq_false_iff]
  intro leaves
  rw [List.any_eq_false] at outside
  exact outside c (List.contains_iff_mem.1 leaves) member

theorem leavesCode_eq_false_of_isWordChar {c : Char} (word : isWordChar c = true) :
    leavesCode c = false :=
  leavesCode_eq_false_of_class (by decide) word

theorem Zone.read_code_of_stays {c : Char} (stays : leavesCode c = false) (rest : Text) :
    code.read c rest = ⟨.code, .code, 0⟩ := by
  simp only [leavesCode, codeExits, List.contains_cons, List.contains_nil, Bool.or_eq_false_iff,
    beq_eq_false_iff_ne] at stays
  simp [read, Quote.ofMark?, stays]

theorem leavesCode_eq_false_of_isFloat {text : Text} (isFloat : IsFloat text) :
    ∀ d ∈ text, leavesCode d = false := by
  have marks : (".eE-+" : Text).all (leavesCode · = false) = true := by decide
  intro d member
  rcases isFloat.digit_or_mark d member with digit | mark
  · exact leavesCode_eq_false_of_isWordChar (isWordChar_of_isDecimalDigit digit)
  · exact of_decide_eq_true (List.all_eq_true.1 marks d mark)

/-- A token in code none of whose characters leads out of it. -/
theorem tokenAgrees_of_stays {c : Char} {rest : Text} {kind : TokenKind} {extra : Nat}
    (region : kind.region = .code)
    (stays : ∀ d ∈ c :: rest.take extra, leavesCode d = false) :
    TokenAgrees .code c rest ⟨kind, extra, .code⟩ := by
  refine tokenAgrees_of_same ?_ (by simp) rfl (by simp) fun d member behind => ?_
  · cases kind with
    | brokenString | comment => exact Region.noConfusion region
    | _ => rfl
  · rw [region]
    exact Zone.read_code_of_stays (stays d member) behind

/-- A token in code that is a run of a class behind a first character, which may
belong to another class. -/
theorem tokenAgrees_of_run {p : Char → Bool} (outside : codeExits.any p = false)
    {c : Char} {rest : Text} {kind : TokenKind} (region : kind.region = .code)
    (first : leavesCode c = false) :
    TokenAgrees .code c rest ⟨kind, Text.countWhile p rest, .code⟩ := by
  refine tokenAgrees_of_stays region fun d member => ?_
  rw [take_countWhile] at member
  rcases List.mem_cons.1 member with rfl | later
  · exact first
  · exact leavesCode_eq_false_of_class outside (List.mem_takeWhile_imp later)

theorem commentLength?_of_oneLine {rest : Text} (oneLine : '\n' ∉ rest) :
    commentLength? rest = some rest.length := by
  have all : rest.takeWhile (· != '\n') = rest := by
    rw [List.takeWhile_eq_self_iff]
    intro c member
    rw [bne_iff_ne]
    rintro rfl
    exact oneLine member
  simp [commentLength?, Text.countWhile, all]

theorem tokenAgrees_plainToken {c : Char} {rest : Text} {step : TokenStep}
    (oneLine : '\n' ∉ rest) (token : PlainToken c rest step) :
    TokenAgrees .code c rest step := by
  cases token with
  | float extra length =>
      exact tokenAgrees_of_stays rfl (leavesCode_eq_false_of_isFloat (isFloat_of_length length))
  | number digit =>
      have outside : codeExits.any isDecimalDigit = false := by decide
      exact tokenAgrees_of_run outside rfl (leavesCode_eq_false_of_class outside digit)
  | quote quote mark =>
      rw [mark]
      exact tokenAgrees_openingStep quote rest
  | white separator =>
      have outside : codeExits.any separates = false := by decide
      exact tokenAgrees_of_run outside rfl (leavesCode_eq_false_of_class outside separator)
  | comment sign length ends =>
      rw [commentLength?_of_oneLine oneLine] at ends
      cases ends
      subst sign
      have same : ∀ d ∈ rest, ∀ behind, Zone.comment.read d behind = ⟨.comment, .comment, 0⟩ :=
        fun _ _ _ => rfl
      have behind := Zone.scan_append same []
      rw [List.append_nil] at behind
      have visible : isBlankChar '#' = false := by decide
      refine .final .comment rfl visible rfl rfl (by simp) (by simp [Zone.breaksString])
        List.drop_length ?_
      rw [Zone.scan_cons, List.take_length]
      refine (congrArg (Zone.prepend [.comment]) behind).trans ?_
      simp [Zone.prepend, Zone.scan, TokenKind.region, List.replicate_succ]
  | bracket bracket =>
      refine tokenAgrees_of_stays rfl fun d member => ?_
      rw [List.take_zero, List.mem_singleton] at member
      rw [member]
      exact leavesCode_eq_false_of_class (by decide) bracket
  | operator operator =>
      have outside : codeExits.any isOperatorChar = false := by decide
      exact tokenAgrees_of_run outside rfl (leavesCode_eq_false_of_class outside operator)
  | identifier start =>
      exact tokenAgrees_of_run (by decide) rfl
        (leavesCode_eq_false_of_class (by decide) start)
  | invalid noQuote noComment noDigit noSeparator noBracket noOperator noName =>
      refine tokenAgrees_of_stays rfl fun d member => ?_
      rw [List.take_zero, List.mem_singleton] at member
      have noSign : c ≠ '#' := by
        intro sign
        have missing := noComment sign
        rw [commentLength?_of_oneLine oneLine] at missing
        simp at missing
      have noDouble : c ≠ '"' := noQuote .double
      have noSingle : c ≠ '\'' := noQuote .single
      simp [member, leavesCode, codeExits, noDouble, noSingle, noSign]

theorem tokenAgrees_codeStep {words : List Text} (isWord : ∀ word ∈ words, word.IsWord)
    (before : Option Char) {c : Char} {rest : Text} (oneLine : '\n' ∉ rest) :
    TokenAgrees .code c rest (codeStep words before c rest) := by
  have token := codeToken_codeStep isWord before c rest
  generalize codeStep words before c rest = step at token ⊢
  cases token with
  | keyword _ first _ =>
      exact tokenAgrees_of_run (by decide) rfl (leavesCode_eq_false_of_isWordChar first)
  | plain _ token => exact tokenAgrees_plainToken oneLine token

/-- Every token agrees with the reading, as long as a string that has to end on
the line does so. -/
theorem tokenAgrees_step {words : List Text} (isWord : ∀ word ∈ words, word.IsWord)
    (before : Option Char) {c : Char} {rest : Text} (oneLine : '\n' ∉ rest) {mode : Mode}
    (known : mode ≠ .blanks)
    (closes : ∀ quote, mode = .inLine quote → staysOpen quote (c :: rest) = false) :
    TokenAgrees (Zone.ofMode mode) c rest (mode.step words before c rest) := by
  cases mode with
  | code => exact tokenAgrees_codeStep isWord before oneLine
  | inLine quote => exact tokenAgrees_inLineStep oneLine (closes quote rfl)
  | inTriple quote => exact tokenAgrees_inTripleStep oneLine
  | blanks => exact absurd rfl known

end KeywordBridge
