import KeywordBridge.Proofs.Token.StringLiterals

/-!
# Lines that are cut off

The part of a line in front of a place is a line of its own, and its quotes may be read
by themselves. Where the cut goes between two tokens of the whole line, the reading
arrives at what these tokens leave behind. Where it goes through a token, it arrives
inside the same string or comment, or in code as well. Only the three quotes that open
a string do not survive this: two of them alone are a string without characters.
-/

namespace KeywordBridge

/-! ## Cuts through a token -/

/-- Characters that are read as code do not lead out of it. -/
theorem leavesCode_eq_false_of_scan {text : Text} {final : Zone}
    (reads : Zone.code.scan 0 text = (List.replicate text.length .code, final)) :
    ∀ d ∈ text, leavesCode d = false := by
  induction text with
  | nil => exact fun d member => by cases member
  | cons c others ih =>
      have stays : leavesCode c = false := by
        by_contra leaves
        rw [Bool.not_eq_false] at leaves
        have first := congrArg (fun reading => reading.1.head?) reads
        rw [Zone.scan_cons] at first
        rcases leavesCode_cases leaves with ⟨quote, rfl⟩ | rfl
        · rw [Zone.read_code_of_mark] at first
          split at first
          · cases first
          · cases first
        · cases first
      rw [Zone.scan_cons, Zone.read_code_of_stays stays] at reads
      have behind : Zone.code.scan 0 others = (List.replicate others.length .code, final) := by
        have regions := congrArg Prod.fst reads
        have zone := congrArg Prod.snd reads
        exact Prod.ext (List.cons.inj regions).2 zone
      rw [List.forall_mem_cons]
      exact ⟨stays, ih behind⟩

/-- A part of a string that stays open leaves it open. -/
theorem scan_inLine_of_part {quote : Quote} {text : Text} (opened : staysOpen quote text = true)
    (cut : Nat) : ((Zone.inLine quote).scan 0 (text.take cut)).2 = .inLine quote := by
  fun_induction staysOpen quote text generalizing cut with
  | case1 c rest ih =>
      rw [Bool.and_eq_true] at opened
      cases cut with
      | zero => rfl
      | succ behind =>
          cases behind with
          | zero => rfl
          | succ cut =>
              have held := Zone.scan_held (.inLine quote) [c] (rest.take cut)
              rw [List.length_singleton, List.singleton_append] at held
              rw [List.take_succ_cons, List.take_succ_cons, Zone.scan_cons,
                Zone.read_inLine_of_backslash, held]
              exact ih opened.2 cut
  | case2 c rest _ ih =>
      rw [Bool.and_eq_true] at opened
      cases cut with
      | zero => rfl
      | succ cut =>
          rw [List.take_succ_cons, Zone.scan_cons, Zone.read_inLine_of_plain opened.1]
          exact ih opened.2 cut
  | case3 => rw [List.take_nil]; rfl

/-- A part of characters that are all read in the same way leaves the zone as it is. -/
theorem scan_of_part {zone : Zone} {region : Region} {value : Text}
    (same : ∀ d ∈ value, ∀ rest, zone.read d rest = ⟨region, zone, 0⟩) (cut : Nat) :
    (zone.scan 0 (value.take cut)).2 = zone := by
  have part : ∀ d ∈ value.take cut, ∀ rest, zone.read d rest = ⟨region, zone, 0⟩ :=
    fun d member => same d (List.mem_of_mem_take member)
  have reads := Zone.scan_append part []
  rw [List.append_nil] at reads
  rw [reads]
  rfl

/-- A token of code that is cut off is still code. -/
theorem scan_cut_of_code {c : Char} {rest : Text} {step : TokenStep}
    (agrees : TokenAgrees .code c rest step) (region : step.kind.region = .code) (cut : Nat) :
    (Zone.code.scan 0 ((c :: rest.take step.extra).take cut)).2 = .code := by
  cases agrees with
  | onward _ _ _ reads =>
      have whole := reads [] (List.nil_prefix)
      rw [List.append_nil, region] at whole
      have stays := leavesCode_eq_false_of_scan (whole.trans (Prod.ext (List.append_nil _) rfl))
      exact scan_of_part (fun d member => Zone.read_code_of_stays (stays d member)) cut
  | final _ endsLine =>
      generalize step.kind = kind at region endsLine
      cases kind with
      | brokenString | comment => exact Region.noConfusion region
      | _ => exact Bool.noConfusion endsLine

/-- What is read up to a cut through a token: code, unless the token lies in a string or
goes on to the end of the line. -/
def CutAgrees (mode : Mode) (value : Text) (step : TokenStep) (cut : Nat) : Prop :=
  ((Zone.ofMode mode).scan 0 (value.take cut)).2 ≠ .code ↔
    mode.delimiter?.isSome = true ∨ step.kind.endsLine = true

theorem cutAgrees_openingStep {quote : Quote} {rest : Text} {cut : Nat} (started : 0 < cut)
    (through : cut ≤ (rest.take (openingStep quote rest).extra).length)
    (apart : (openingStep quote rest).mode ≠ .inTriple quote) :
    CutAgrees .code (quote.mark :: rest.take (openingStep quote rest).extra)
      (openingStep quote rest) cut := by
  unfold openingStep at *
  split at apart
  · exact absurd rfl apart
  · rename_i noTriple
    split at apart
    · rename_i opened
      rw [if_neg noTriple, if_pos opened] at *
      obtain ⟨cut, rfl⟩ := Nat.exists_eq_succ_of_ne_zero (Nat.ne_of_gt started)
      refine iff_of_true ?_ (.inr rfl)
      rw [List.take_length, List.take_succ_cons, Zone.ofMode,
        scan_of_single noTriple (List.take_prefix cut rest)]
      show ((Zone.inLine quote).scan 0 (rest.take cut)).2 ≠ .code
      rw [scan_inLine_of_part opened]
      exact Zone.noConfusion
    · rename_i closed
      rw [if_neg noTriple, if_neg closed] at through
      exact absurd through (Nat.not_le_of_lt started)

theorem cutAgrees_codeStep {words : List Text} (isWord : ∀ word ∈ words, word.IsWord)
    (before : Option Char) {c : Char} {rest : Text} (oneLine : '\n' ∉ rest) {cut : Nat}
    (started : 0 < cut)
    (through : cut ≤ (rest.take (codeStep words before c rest).extra).length)
    (apart : ∀ quote, (codeStep words before c rest).mode ≠ .inTriple quote) :
    CutAgrees .code (c :: rest.take (codeStep words before c rest).extra)
      (codeStep words before c rest) cut := by
  have agrees : TokenAgrees .code c rest (codeStep words before c rest) :=
    tokenAgrees_codeStep isWord before oneLine
  have token := codeToken_codeStep isWord before c rest
  generalize codeStep words before c rest = step at *
  have ofCode (region : step.kind.region = .code) (goesOn : step.kind.endsLine = false) :
      CutAgrees .code (c :: rest.take step.extra) step cut := by
    refine iff_of_false ?_ ?_
    · exact fun other => other (scan_cut_of_code agrees region cut)
    · rw [goesOn]
      exact fun other => other.elim Bool.noConfusion Bool.noConfusion
  cases token with
  | keyword => exact ofCode rfl rfl
  | plain _ token =>
      cases token with
      | quote quote mark =>
          subst mark
          exact cutAgrees_openingStep started through (apart quote)
      | comment sign length =>
          subst sign
          obtain ⟨cut, rfl⟩ := Nat.exists_eq_succ_of_ne_zero (Nat.ne_of_gt started)
          refine iff_of_true ?_ (.inr rfl)
          have same : ∀ d ∈ rest.take length, ∀ behind,
              Zone.comment.read d behind = ⟨.comment, .comment, 0⟩ := fun _ _ _ => rfl
          rw [List.take_succ_cons, Zone.ofMode, Zone.scan_cons]
          show (Zone.comment.scan 0 _).2 ≠ .code
          rw [scan_of_part same]
          exact Zone.noConfusion
      | _ => exact ofCode rfl rfl

/-- A token that is cut off in a string. -/
theorem cutAgrees_of_inside {mode : Mode} {value : Text} {step : TokenStep} {cut : Nat}
    (inside : mode.delimiter?.isSome = true)
    (stays : ((Zone.ofMode mode).scan 0 (value.take cut)).2 = Zone.ofMode mode) :
    CutAgrees mode value step cut := by
  refine iff_of_true ?_ (.inl inside)
  rw [stays]
  cases mode with
  | inLine | inTriple => exact Zone.noConfusion
  | code | blanks => exact Bool.noConfusion inside

theorem cutAgrees_inLineStep (quote : Quote) (c : Char) {rest : Text} (oneLine : '\n' ∉ rest)
    {cut : Nat} (started : 0 < cut)
    (through : cut ≤ (rest.take (inLineStep quote c rest).extra).length) :
    CutAgrees (.inLine quote) (c :: rest.take (inLineStep quote c rest).extra)
      (inLineStep quote c rest) cut := by
  apply cutAgrees_of_inside rfl
  rcases mark_or_backslash_or_plain quote c with rfl | rfl | plain
  · rw [inLineStep_of_mark] at through
    exact absurd through (Nat.not_le_of_lt started)
  · rw [inLineStep_of_backslash] at through ⊢
    split at through
    · have last : cut = 1 := by
        have atMost := through.trans (List.length_take_le 1 rest)
        omega
      rw [last]
      rfl
    · rename_i missing
      rw [eq_nil_of_hasEscapable oneLine missing] at through
      exact absurd through (Nat.not_le_of_lt started)
  · rw [inLineStep_of_plain plain]
    exact scan_of_part
      (fun d member => Zone.read_inLine_of_plain (isPlainIn_of_mem_take plain d member)) cut

theorem cutAgrees_inTripleStep (quote : Quote) (c : Char) {rest : Text}
    {cut : Nat} (started : 0 < cut)
    (through : cut ≤ (rest.take (inTripleStep quote c rest).extra).length) :
    CutAgrees (.inTriple quote) (c :: rest.take (inTripleStep quote c rest).extra)
      (inTripleStep quote c rest) cut := by
  apply cutAgrees_of_inside rfl
  rcases mark_or_backslash_or_plain quote c with rfl | rfl | plain
  · rw [inTripleStep_of_mark] at through ⊢
    split at through
    · rename_i triple
      have atMost := through.trans (List.length_take_le 2 rest)
      rw [if_pos triple, take_two_of_completesTriple.1 triple]
      -- One quote and two quotes do not close the string.
      rcases (by omega : cut = 1 ∨ cut = 2) with rfl | rfl
      · cases quote <;> rfl
      · cases quote <;> rfl
    · exact absurd through (Nat.not_le_of_lt started)
  · rw [inTripleStep_of_backslash] at through ⊢
    split at through
    · have last : cut = 1 := by
        have atMost := through.trans (List.length_take_le 1 rest)
        omega
      rw [last]
      rfl
    · exact absurd through (Nat.not_le_of_lt started)
  · rw [inTripleStep_of_plain plain]
    exact scan_of_part
      (fun d member => Zone.read_inTriple_of_plain (isPlainIn_of_mem_take plain d member)) cut

/-- Every token may be cut through but the three quotes that open a string. -/
theorem cutAgrees_step {words : List Text} (isWord : ∀ word ∈ words, word.IsWord) {mode : Mode}
    (known : mode ≠ .blanks) (before : Option Char) {c : Char} {rest : Text}
    (oneLine : '\n' ∉ rest) {cut : Nat} (started : 0 < cut)
    (through : cut ≤ (rest.take (mode.step words before c rest).extra).length)
    (apart : mode = .code → ∀ quote, (mode.step words before c rest).mode ≠ .inTriple quote) :
    CutAgrees mode (c :: rest.take (mode.step words before c rest).extra)
      (mode.step words before c rest) cut := by
  cases mode with
  | code => exact cutAgrees_codeStep isWord before oneLine started through (apart rfl)
  | inLine quote => exact cutAgrees_inLineStep quote c oneLine started through
  | inTriple quote => exact cutAgrees_inTripleStep quote c started through
  | blanks => exact absurd rfl known

/-! ## Cuts through a line -/

/-- How the tokens of a line agree with the zone that the reading of the line arrives at
when it is cut off at a column. -/
structure CutLineAgrees (opened : Option Token) (tokens : List Token) (column : Nat) (zone : Zone)
    (ended ahead : List Token) : Prop where
  split : tokens = ended ++ ahead
  inFront : ∀ token ∈ ended, token.endColumn ≤ column
  behind : ∀ token ∈ ahead, column < token.endColumn
  /-- The cut lies in a string that is open behind the tokens which have ended, or
  behind the start of a token that goes on to the end of the line. -/
  quiet : zone ≠ .code ↔
    (ended.foldl Token.openedBehind opened).isSome = true ∨
      ∃ token ∈ tokens, token.kind.endsLine = true ∧ token.column < column

/-- Does the column lie in no triple quote that opens a string? -/
def Token.OpeningsApart (opened : Option Token) (tokens : List Token) (column : Nat) : Prop :=
  ∀ front token back, tokens = front ++ token :: back →
    front.foldl Token.openedBehind opened = none → token.kind = .string →
    token.value.length = 3 → ¬ (token.column < column ∧ column < token.endColumn)

theorem Token.OpeningsApart.tail {opened : Option Token} {token : Token} {others : List Token}
    {column : Nat} (apart : OpeningsApart opened (token :: others) column) :
    OpeningsApart (openedBehind opened token) others column := by
  intro front opening back split outside
  refine apart (token :: front) opening back ?_ outside
  rw [split, List.cons_append]

section

variable {opened : Option Token} {number : Int} {column cut : Nat}

theorem Lexeme.lt_endColumn_of_mem_place {lexemes : List Lexeme}
    (written : ∀ lexeme ∈ lexemes, lexeme.value ≠ []) {token : Token}
    (member : token ∈ place number column lexemes) : column < token.endColumn := by
  have starts := le_column_of_mem_place member
  have length := List.length_pos_iff.2 (written _ (mem_of_mem_place member))
  rw [Token.endColumn]
  exact Nat.lt_of_le_of_lt starts (Nat.lt_add_of_pos_right length)

/-- A cut in front of all tokens. -/
theorem cutLineAgrees_start {mode : Mode} (opens : mode.IsOpenedBy opened) (known : mode ≠ .blanks)
    {lexemes : List Lexeme} (written : ∀ lexeme ∈ lexemes, lexeme.value ≠ []) :
    CutLineAgrees opened (Lexeme.place number column lexemes) column (Zone.ofMode mode) []
      (Lexeme.place number column lexemes) where
  split := rfl
  inFront := fun token member => by cases member
  behind := fun token member => Lexeme.lt_endColumn_of_mem_place written member
  quiet := by
    have none : ¬ ∃ token ∈ Lexeme.place number column lexemes,
        token.kind.endsLine = true ∧ token.column < column := by
      rintro ⟨token, member, -, starts⟩
      exact absurd starts (Nat.not_lt_of_le (Lexeme.le_column_of_mem_place member))
    have same : opened.isSome = mode.delimiter?.isSome := by
      rw [← opens, Option.isSome_map]
    rw [or_iff_left none, List.foldl_nil, same]
    cases mode with
    | code => exact iff_of_false (fun other => other rfl) Bool.noConfusion
    | inLine | inTriple => exact iff_of_true Zone.noConfusion rfl
    | blanks => exact absurd rfl known

/-- A cut through the first token. -/
theorem cutLineAgrees_through {mode : Mode} (opens : mode.IsOpenedBy opened) {value : Text}
    {step : TokenStep} (started : 0 < cut) (through : cut < value.length)
    (agrees : CutAgrees mode value step cut) {others : List Lexeme}
    (written : ∀ lexeme ∈ others, lexeme.value ≠ []) :
    let tokens := Lexeme.place number column (⟨step.kind, value⟩ :: others)
    CutLineAgrees opened tokens (column + cut) ((Zone.ofMode mode).scan 0 (value.take cut)).2 []
      tokens where
  split := rfl
  inFront := fun token member => by cases member
  behind := by
    intro token member
    rcases List.mem_cons.1 member with rfl | later
    · exact Nat.add_lt_add_left through column
    · have behind : column + value.length < token.endColumn :=
        Lexeme.lt_endColumn_of_mem_place written later
      omega
  quiet := by
    have same : opened.isSome = mode.delimiter?.isSome := by
      rw [← opens, Option.isSome_map]
    have first : (∃ token ∈ Lexeme.place number column (⟨step.kind, value⟩ :: others),
        token.kind.endsLine = true ∧ token.column < column + cut) ↔
          step.kind.endsLine = true := by
      constructor
      · rintro ⟨token, member, ends, starts⟩
        rcases List.mem_cons.1 member with rfl | later
        · exact ends
        · have behind : column + value.length ≤ token.column :=
            Lexeme.le_column_of_mem_place later
          omega
      · intro ends
        exact ⟨_, List.mem_cons_self, ends, Nat.lt_add_of_pos_right started⟩
    rw [first, List.foldl_nil, same]
    exact agrees

/-- A cut behind a token that does not end the line. -/
theorem CutLineAgrees.cons {token : Token} {others ended ahead : List Token} {zone : Zone}
    (goesOn : token.kind.endsLine = false) (ends : token.endColumn ≤ column)
    (behind : CutLineAgrees (Token.openedBehind opened token) others column zone ended ahead) :
    CutLineAgrees opened (token :: others) column zone (token :: ended) ahead where
  split := by rw [behind.split, List.cons_append]
  inFront := List.forall_mem_cons.2 ⟨ends, behind.inFront⟩
  behind := behind.behind
  quiet := by
    have later : (∃ other ∈ token :: others, other.kind.endsLine = true ∧ other.column < column) ↔
        ∃ other ∈ others, other.kind.endsLine = true ∧ other.column < column := by
      simp [goesOn]
    rw [later]
    exact behind.quiet

/-- A token that ends its line, and a cut at the end of it. -/
theorem cutLineAgrees_final {token : Token} {zone : Zone} (endsLine : token.kind.endsLine = true)
    (leaves : zone ≠ .code) (ends : token.endColumn ≤ column) (starts : token.column < column) :
    CutLineAgrees opened [token] column zone [token] [] where
  split := rfl
  inFront := List.forall_mem_singleton.2 ends
  behind := fun other member => by cases member
  quiet := iff_of_true leaves (.inr ⟨token, List.mem_cons_self, endsLine, starts⟩)

/-- In code, only a triple quote leads into a string between triple quotes. -/
theorem mode_ne_inTriple_of_apart {words : List Text} {mode : Mode} {before : Option Char}
    {c : Char} {rest : Text} (opens : mode.IsOpenedBy opened) {others : List Lexeme}
    (started : 0 < cut)
    (through : cut < (c :: rest.take (mode.step words before c rest).extra).length)
    (apart : Token.OpeningsApart opened
      (Lexeme.place number column (⟨(mode.step words before c rest).kind,
        c :: rest.take (mode.step words before c rest).extra⟩ :: others)) (column + cut))
    (code : mode = .code) (quote : Quote) :
    (mode.step words before c rest).mode ≠ .inTriple quote := by
  intro triple
  have behind := isOpenedBy_step number column words before c rest opens
  subst code
  obtain rfl := (Mode.isOpenedBy_code rfl).1 opens
  generalize Mode.step words before c rest .code = step at *
  obtain ⟨opening, here, value⟩ := Option.map_eq_some_iff.1 (behind.trans (by rw [triple]; rfl))
  rw [Token.openedBehind] at here
  split at here
  · rename_i string
    cases here
    refine apart [] _ _ rfl rfl string ?_ ⟨Nat.lt_add_of_pos_right started, ?_⟩
    · exact congrArg List.length value
    · exact Nat.add_lt_add_left through column
  · cases here

/-- Wherever a line is cut off, but in the triple quote that opens a string, the zone
there agrees with the tokens of the whole line. -/
theorem exists_cutLineAgrees {words : List Text} (isWord : ∀ word ∈ words, word.IsWord)
    (mode : Mode) (before : Option Char) (text : Text) (oneLine : '\n' ∉ text)
    (known : mode ≠ .blanks)
    (closes : ∀ quote, mode = .inLine quote → staysOpen quote text = false)
    (opens : mode.IsOpenedBy opened) (inside : cut ≤ text.length)
    (apart : Token.OpeningsApart opened
      (Lexeme.place number column (scanFrom words mode before text).1) (column + cut)) :
    ∃ ended ahead, CutLineAgrees opened
      (Lexeme.place number column (scanFrom words mode before text).1) (column + cut)
      ((Zone.ofMode mode).scan 0 (text.take cut)).2 ended ahead := by
  have written := value_ne_nil_of_mem_scanFrom words mode before text
  fun_induction scanFrom words mode before text generalizing opened column cut with
  | case1 mode before =>
      obtain rfl := Nat.le_zero.1 inside
      exact ⟨_, _, cutLineAgrees_start opens known written⟩
  | case2 mode before c rest step value others final =>
      rename_i scanned ih
      rw [List.forall_mem_cons] at written
      rw [List.mem_cons, not_or] at oneLine
      have whole : c :: rest = value ++ rest.drop step.extra := by
        rw [List.cons_append, List.take_append_drop]
      by_cases started : 0 < cut
      · by_cases through : cut < value.length
        · have elsewhere : mode = .code → ∀ quote, step.mode ≠ .inTriple quote :=
            mode_ne_inTriple_of_apart opens started through apart
          have agrees := cutAgrees_step isWord known before oneLine.2 started
            (Nat.le_of_lt_succ through) elsewhere
          rw [whole, List.take_append_of_le_length (Nat.le_of_lt through)]
          exact ⟨_, _, cutLineAgrees_through opens started through agrees written.2⟩
        · rw [Nat.not_lt] at through
          have agrees : TokenAgrees (Zone.ofMode mode) c rest step :=
            tokenAgrees_step isWord before oneLine.2 known closes
          cases agrees with
          | onward goesOn known closes reads =>
              rw [scanned] at ih
              have oneLineBehind : '\n' ∉ rest.drop step.extra := fun member =>
                oneLine.2 (List.mem_of_mem_drop member)
              have columns : column + value.length + (cut - value.length) = column + cut := by
                omega
              have insideBehind : cut - value.length ≤ (rest.drop step.extra).length := by
                rw [whole, List.length_append] at inside
                omega
              have apartBehind := apart.tail
              rw [← columns] at apartBehind
              obtain ⟨ended, ahead, agrees⟩ := ih oneLineBehind known closes
                (isOpenedBy_step number column words before c rest opens) insideBehind
                apartBehind written.2
              rw [columns] at agrees
              rw [whole, List.take_append, List.take_of_length_le through,
                reads _ (List.take_prefix _ _)]
              exact ⟨_, ahead, agrees.cons goesOn (Nat.add_le_add_left through column)⟩
          | final last endsLine visible code next leaves breaks ends reads =>
              rw [ends, code, scanFrom] at scanned
              cases scanned
              rw [ends, List.append_nil] at whole
              rw [whole] at inside
              have zone : ((Zone.ofMode mode).scan 0 ((c :: rest).take cut)).2 = last := by
                rw [List.take_of_length_le (by rwa [whole]), reads]
              rw [zone]
              exact ⟨_, _, cutLineAgrees_final endsLine leaves (Nat.add_le_add_left through column)
                (Nat.lt_add_of_pos_right started)⟩
      · obtain rfl := Nat.eq_zero_of_not_pos started
        exact ⟨_, _, cutLineAgrees_start opens known (List.forall_mem_cons.2 written)⟩

end

end KeywordBridge
