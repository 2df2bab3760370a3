import KeywordBridge.Proofs.Token.CheckedTokens

/-!
# The tokens of lines that are read alike

Lines that are read alike have all tokens in common that the checks look at, column by
column. In each of them the next token is the same, unless a string with another content
starts here or nothing but blanks and a comment follow, and in these two cases no token
that is checked stands in what differs.
-/

namespace KeywordBridge

/-! ## Runs of characters that are read alike -/

namespace Zone

/-- The characters that are read alike at the start are a run of any class that leaves the
zone as it is. Behind the run either both texts go on with another character, or the one
ends and a comment is added in the other. -/
theorem ReadAlike.exists_run {zone : Zone} {p : Char → Bool} {region : Region}
    (passes : ∀ c, p c = true → ∀ rest, zone.read c rest = ⟨region, zone, 0⟩)
    (marks : zone = code → ∀ quote : Quote, p quote.mark = false) (outside : zone ≠ comment)
    {text other : Text} (alike : ReadAlike zone text other) :
    ∃ run rest behind, text = run ++ rest ∧ other = run ++ behind ∧ (∀ c ∈ run, p c = true) ∧
      ReadAlike zone rest behind ∧ (∀ c ∈ rest.head?, p c = false) ∧
      ((∀ c ∈ behind.head?, p c = false) ∨
        zone = code ∧ rest = [] ∧ ∃ blanks comment, (∀ c ∈ blanks, separates c = true) ∧
          behind = blanks ++ '#' :: comment) := by
  induction alike with
  | same zone text =>
      have stop := head?_dropWhile_eq_false (p := p) text
      exact ⟨text.takeWhile p, text.dropWhile p, text.dropWhile p,
        List.takeWhile_append_dropWhile.symm, List.takeWhile_append_dropWhile.symm,
        fun c member => List.mem_takeWhile_imp member, .same _ _, stop, .inl stop⟩
  | @kept zone c held rest other reading first second length behind ih =>
      by_cases passed : p c = true
      · rw [passes c passed] at first
        subst first
        obtain rfl := List.length_eq_zero_iff.1 length.symm
        obtain ⟨run, last, lastOther, rfl, rfl, all, alike, stop, stopOther⟩ :=
          ih passes marks outside
        exact ⟨c :: run, last, lastOther, rfl, rfl, List.forall_mem_cons.2 ⟨passed, all⟩, alike,
          stop, stopOther⟩
      · have stop {rest : Text} : ∀ d ∈ (c :: rest).head?, p d = false := by
          intro d isFirst
          cases isFirst
          exact Bool.eq_false_iff.2 passed
        exact ⟨[], _, _, rfl, rfl, List.forall_mem_nil _,
          .kept first second length behind, stop, .inl stop⟩
  | @refilled quote content filling rest other closes closesOther length behind =>
      have stop {rest : Text} : ∀ d ∈ (quote.mark :: rest).head?, p d = false := by
        intro d isFirst
        cases isFirst
        exact marks rfl quote
      exact ⟨[], _, _, rfl, rfl, List.forall_mem_nil _,
        .refilled closes closesOther length behind, stop, .inl stop⟩
  | @commented blanks separators comment =>
      exact ⟨[], _, _, rfl, rfl, List.forall_mem_nil _, .commented separators comment,
        nofun, .inr ⟨rfl, rfl, blanks, comment, separators, rfl⟩⟩
  | continued => exact absurd rfl outside

/-- Behind a first character of the class, both texts go on with the rest of its run. -/
theorem ReadAlike.exists_run_behind {zone : Zone} {p : Char → Bool} {region : Region}
    (passes : ∀ c, p c = true → ∀ rest, zone.read c rest = ⟨region, zone, 0⟩)
    (marks : zone = code → ∀ quote : Quote, p quote.mark = false) (outside : zone ≠ comment)
    {c : Char} (first : p c = true) {text other : Text}
    (alike : ReadAlike zone (c :: text) (c :: other)) :
    ∃ more rest behind, text = more ++ rest ∧ other = more ++ behind ∧
      (∀ d ∈ more, p d = true) ∧ ReadAlike zone rest behind ∧ (∀ d ∈ rest.head?, p d = false) ∧
      ((∀ d ∈ behind.head?, p d = false) ∨
        zone = code ∧ rest = [] ∧ ∃ blanks comment, (∀ d ∈ blanks, separates d = true) ∧
          behind = blanks ++ '#' :: comment) := by
  obtain ⟨run, rest, behind, whole, wholeOther, all, alike, stop, stopOther⟩ :=
    alike.exists_run passes marks outside
  cases run with
  | nil =>
      rw [List.nil_append] at whole
      have ends := stop c (by rw [← whole]; rfl)
      rw [first] at ends
      cases ends
  | cons d more =>
      rw [List.cons_append] at whole wholeOther
      exact ⟨more, rest, behind, (List.cons.inj whole).2, (List.cons.inj wholeOther).2,
        (List.forall_mem_cons.1 all).2, alike, stop, stopOther⟩

/-- Characters of code may stand in front. -/
theorem ReadAlike.append_run {run rest other : Text}
    (stays : ∀ c ∈ run, leavesCode c = false) (alike : ReadAlike code rest other) :
    ReadAlike code (run ++ rest) (run ++ other) := by
  induction run with
  | nil => exact alike
  | cons c others ih =>
      rw [List.forall_mem_cons] at stays
      have read (behind : Text) := read_code_of_stays stays.1 behind
      exact @ReadAlike.kept code c [] _ _ _ (read _) (read _) rfl (ih stays.2)

/-- Where three quotes are read as one mark, they are so in both texts. -/
theorem triple_or_single {zone inside outside : Zone} {quote : Quote}
    (read : ∀ rest : Text, zone.read quote.mark rest =
      if rest.take 2 = [quote.mark, quote.mark] then ⟨.string, inside, 2⟩
      else ⟨.string, outside, 0⟩)
    {text other : Text} {reading : Reading} (first : zone.read quote.mark text = reading)
    (second : zone.read quote.mark other = reading) :
    (reading = ⟨.string, inside, 2⟩ ∧ completesTriple quote text = true ∧
        completesTriple quote other = true) ∨
      (reading = ⟨.string, outside, 0⟩ ∧ completesTriple quote text = false ∧
        completesTriple quote other = false) := by
  simp only [← Bool.not_eq_true, take_two_of_completesTriple]
  rw [read] at first second
  subst first
  split at second
  · rename_i tripleOther
    split at second
    · rename_i triple
      exact .inl ⟨if_pos triple, triple, tripleOther⟩
    · cases second
  · rename_i singleOther
    split at second
    · cases second
    · rename_i single
      exact .inr ⟨if_neg single, single, singleOther⟩

/-- A string that one of the lines leaves open is open in the other as well, and the lines
are the same from there on. -/
theorem ReadAlike.staysOpen_eq {quote : Quote} {text other : Text}
    (alike : ReadAlike (inLine quote) text other) :
    staysOpen quote other = staysOpen quote text ∧
      (staysOpen quote text = true → other = text) := by
  generalize isZone : inLine quote = zone at alike
  induction alike with
  | same => exact ⟨rfl, fun _ => rfl⟩
  | @kept zone c held rest other reading first second length behind ih =>
      subst isZone
      rcases mark_or_backslash_or_plain quote c with rfl | rfl | plain
      · rw [staysOpen_of_mark, staysOpen_of_mark]
        refine ⟨rfl, fun opened => ?_⟩
        cases opened
      · rw [read_inLine_of_backslash] at first
        subst first
        obtain ⟨d, rfl⟩ := List.length_eq_one_iff.1 length.symm
        obtain ⟨same, equal⟩ := ih rfl
        simp only [List.singleton_append, staysOpen, same, Bool.and_eq_true]
        exact ⟨trivial, fun opened => by rw [equal opened.2]⟩
      · rw [read_inLine_of_plain plain] at first
        subst first
        obtain rfl := List.length_eq_zero_iff.1 length.symm
        obtain ⟨same, equal⟩ := ih rfl
        rw [List.nil_append, List.nil_append, staysOpen_of_plain plain, staysOpen_of_plain plain]
        exact ⟨same, fun opened => by rw [equal opened]⟩
  | refilled | commented | continued => cases isZone

end Zone

/-! ## The next token of both texts -/

/-- How texts start that are read alike from a mode on. -/
inductive StartsAlike (words : List Text) (before : Option Char) : Mode → Text → Text → Prop
  | same (mode : Mode) (text : Text) : StartsAlike words before mode text text
  /-- No token of the texts is checked. -/
  | unchecked {mode : Mode} {text other : Text}
      (first : Lexeme.Unchecked (scanFrom words mode before text).1)
      (second : Lexeme.Unchecked (scanFrom words mode before other).1) :
      StartsAlike words before mode text other
  /-- The texts start with the same token. -/
  | token {mode : Mode} {c : Char} {more rest other : Text} {step : TokenStep}
      (first : mode.step words before c (more ++ rest) = step)
      (second : mode.step words before c (more ++ other) = step)
      (length : step.extra = more.length) (known : step.mode ≠ .blanks)
      (behind : (Zone.ofMode step.mode).ReadAlike rest other) :
      StartsAlike words before mode (c :: (more ++ rest)) (c :: (more ++ other))
  /-- The texts start with strings of the same length. -/
  | literal {quote : Quote} {content filling rest other : Text}
      (closes : IsContent quote content rest) (closesOther : IsContent quote filling other)
      (length : filling.length = content.length) (behind : Zone.code.ReadAlike rest other) :
      StartsAlike words before .code (quote.mark :: (content ++ quote.mark :: rest))
        (quote.mark :: (filling ++ quote.mark :: other))

section

variable {words : List Text} {before : Option Char}

/-- Texts that are read alike inside a string start alike with a plain character. -/
theorem startsAlike_of_plain {mode : Mode} (known : mode ≠ .blanks) {p : Char → Bool}
    (passes : ∀ d, p d = true → ∀ rest,
      (Zone.ofMode mode).read d rest = ⟨.string, Zone.ofMode mode, 0⟩)
    (inString : Zone.ofMode mode ≠ .code) (outside : Zone.ofMode mode ≠ .comment) {c : Char}
    (isStep : ∀ rest, mode.step words before c rest = ⟨.string, Text.countWhile p rest, mode⟩)
    (plain : p c = true) {rest other : Text}
    (alike : (Zone.ofMode mode).ReadAlike (c :: rest) (c :: other)) :
    StartsAlike words before mode (c :: rest) (c :: other) := by
  obtain ⟨more, last, lastOther, rfl, rfl, all, behind, stop, stopOther⟩ :=
    alike.exists_run_behind passes (fun inCode => absurd inCode inString) outside plain
  have stopOther : ∀ d ∈ lastOther.head?, p d = false :=
    stopOther.resolve_right fun inCode => inString inCode.1
  have step {behind : Text} (stop : ∀ d ∈ behind.head?, p d = false) :
      mode.step words before c (more ++ behind) = ⟨.string, more.length, mode⟩ := by
    rw [isStep, countWhile_run all stop]
  exact .token (step stop) (step stopOther) rfl known behind

/-- Texts that are read alike inside a string start alike with an escape. -/
theorem startsAlike_of_escape {mode : Mode} (known : mode ≠ .blanks) {held rest other : Text}
    (oneLine : '\n' ∉ '\\' :: (held ++ rest)) (length : held.length = 1)
    (isStep : ∀ rest, hasEscapable rest = true →
      mode.step words before '\\' rest = ⟨.escape, 1, mode⟩)
    (behind : (Zone.ofMode mode).ReadAlike rest other) :
    StartsAlike words before mode ('\\' :: (held ++ rest)) ('\\' :: (held ++ other)) := by
  obtain ⟨d, rfl⟩ := List.length_eq_one_iff.1 length
  have escapable (rest : Text) : hasEscapable ([d] ++ rest) = true := by
    rw [List.singleton_append, hasEscapable, bne_iff_ne]
    rintro rfl
    exact oneLine (List.mem_cons_of_mem _ List.mem_cons_self)
  exact .token (isStep _ (escapable rest)) (isStep _ (escapable other)) rfl known behind

/-- Texts that are read alike inside a string that ends on its line start alike. -/
theorem startsAlike_inLine {quote : Quote} {text other : Text} (oneLine : '\n' ∉ text)
    (alike : (Zone.inLine quote).ReadAlike text other) :
    StartsAlike words before (.inLine quote) text other := by
  have whole := alike
  generalize isZone : Zone.inLine quote = zone at alike
  cases alike with
  | same => exact .same _ _
  | @kept zone c held rest other reading first second length behind =>
      subst isZone
      rcases mark_or_backslash_or_plain quote c with rfl | rfl | plain
      · rw [Zone.read_inLine_of_mark] at first
        subst first
        obtain rfl := List.length_eq_zero_iff.1 length.symm
        exact .token (inLineStep_of_mark quote _) (inLineStep_of_mark quote _) rfl
          Mode.noConfusion behind
      · rw [Zone.read_inLine_of_backslash] at first
        subst first
        exact startsAlike_of_escape Mode.noConfusion oneLine length.symm
          (fun rest escapable => (inLineStep_of_backslash quote rest).trans (if_pos escapable))
          behind
      · have step (rest : Text) : (Mode.inLine quote).step words before c rest =
            ⟨.string, Text.countWhile (isPlainIn quote) rest, .inLine quote⟩ :=
          inLineStep_of_plain plain rest
        exact startsAlike_of_plain Mode.noConfusion (fun d => Zone.read_inLine_of_plain)
          Zone.noConfusion Zone.noConfusion step plain whole
  | refilled | commented | continued => cases isZone

/-- Texts that are read alike inside a triple-quoted string start alike. -/
theorem startsAlike_inTriple {quote : Quote} {text other : Text} (oneLine : '\n' ∉ text)
    (alike : (Zone.inTriple quote).ReadAlike text other) :
    StartsAlike words before (.inTriple quote) text other := by
  have whole := alike
  generalize isZone : Zone.inTriple quote = zone at alike
  cases alike with
  | same => exact .same _ _
  | @kept zone c held rest other reading first second length behind =>
      subst isZone
      rcases mark_or_backslash_or_plain quote c with rfl | rfl | plain
      · obtain ⟨rfl, triple, tripleOther⟩ | ⟨rfl, single, singleOther⟩ :=
          Zone.triple_or_single (Zone.read_inTriple_of_mark quote) first second
        · have step {rest : Text} (triple : completesTriple quote rest = true) :
              (Mode.inTriple quote).step words before quote.mark rest = ⟨.string, 2, .code⟩ :=
            (inTripleStep_of_mark quote rest).trans (if_pos triple)
          exact .token (step triple) (step tripleOther) length Mode.noConfusion behind
        · have step {rest : Text} (single : completesTriple quote rest = false) :
              (Mode.inTriple quote).step words before quote.mark rest =
                ⟨.string, 0, .inTriple quote⟩ :=
            (inTripleStep_of_mark quote rest).trans (if_neg (Bool.eq_false_iff.1 single))
          exact .token (step single) (step singleOther) length Mode.noConfusion behind
      · have isReading : reading = ⟨.string, .inTriple quote, 1⟩ := by
          rw [← first]
          rfl
        subst isReading
        exact startsAlike_of_escape Mode.noConfusion oneLine length.symm
          (fun rest escapable => (inTripleStep_of_backslash quote rest).trans (if_pos escapable))
          behind
      · have step (rest : Text) : (Mode.inTriple quote).step words before c rest =
            ⟨.string, Text.countWhile (isPlainIn quote) rest, .inTriple quote⟩ :=
          inTripleStep_of_plain plain rest
        exact startsAlike_of_plain Mode.noConfusion (fun d => Zone.read_inTriple_of_plain)
          Zone.noConfusion Zone.noConfusion step plain whole
  | refilled | commented | continued => cases isZone

variable (isWord : ∀ word ∈ words, word.IsWord)

include isWord

/-- Texts that are read alike in code start alike with a quote. -/
theorem startsAlike_of_mark {quote : Quote} {held rest other : Text} {reading : Reading}
    (first : Zone.code.read quote.mark (held ++ rest) = reading)
    (second : Zone.code.read quote.mark (held ++ other) = reading)
    (length : reading.held = held.length) (behind : reading.zone.ReadAlike rest other) :
    StartsAlike words before .code (quote.mark :: (held ++ rest))
      (quote.mark :: (held ++ other)) := by
  have step (rest : Text) : Mode.code.step words before quote.mark rest = openingStep quote rest :=
    (codeStep_of_mark isWord before quote.isWordChar_mark rest).trans (plainStep_mark quote rest)
  obtain ⟨rfl, triple, tripleOther⟩ | ⟨rfl, single, singleOther⟩ :=
    Zone.triple_or_single (Zone.read_code_of_mark quote) first second
  · have opening {rest : Text} (triple : completesTriple quote rest = true) :
        openingStep quote rest = ⟨.string, 2, .inTriple quote⟩ := by
      rw [openingStep, triple]
      rfl
    exact .token ((step _).trans (opening triple)) ((step _).trans (opening tripleOther)) length
      Mode.noConfusion behind
  · obtain rfl := List.length_eq_zero_iff.1 length.symm
    obtain ⟨sameEnd, equal⟩ := behind.staysOpen_eq
    by_cases opened : staysOpen quote rest = true
    · rw [equal opened]
      exact .same _ _
    · have closed := Bool.eq_false_iff.2 opened
      have opening {rest : Text} (single : completesTriple quote rest = false)
          (closed : staysOpen quote rest = false) :
          openingStep quote rest = ⟨.string, 0, .inLine quote⟩ := by
        rw [openingStep, single, closed]
        rfl
      exact .token ((step _).trans (opening single closed))
        ((step _).trans (opening singleOther (sameEnd.trans closed))) length Mode.noConfusion behind

/-- Texts that are read alike behind a run of code start alike with a token of the run. -/
theorem startsAlike_of_run {c : Char} {more rest other : Text}
    (stays : ∀ d ∈ c :: more, leavesCode d = false) (behind : Zone.code.ReadAlike rest other)
    (stops : rest.StopsCode) (stopsOther : other.StopsCode)
    (apart : separates c = true →
      Text.countWhile separates (more ++ rest) = Text.countWhile separates more)
    (apartOther : separates c = true →
      Text.countWhile separates (more ++ other) = Text.countWhile separates more) :
    StartsAlike words before .code (c :: (more ++ rest)) (c :: (more ++ other)) := by
  rw [List.forall_mem_cons] at stays
  have first := codeStep_append_of_stopsCode stops isWord before stays.1 apart
  have second := codeStep_append_of_stopsCode stopsOther isWord before stays.1 apartOther
  have isToken := codeToken_codeStep isWord before c more
  have inRun := extra_le_of_stays stays.1 isToken
  have inCode := mode_of_stays stays.1 isToken
  generalize codeStep words before c more = step at first second inRun inCode
  -- The token may end inside the run.
  have cut := more.take_append_drop step.extra
  have alike : (Zone.ofMode step.mode).ReadAlike (more.drop step.extra ++ rest)
      (more.drop step.extra ++ other) := by
    rw [inCode]
    exact behind.append_run fun d member => stays.2 d (List.mem_of_mem_drop member)
  rw [← cut, List.append_assoc] at first second
  have known : step.mode ≠ .blanks := by
    rw [inCode]
    exact Mode.noConfusion
  have whole : StartsAlike words before .code
      (c :: (more.take step.extra ++ (more.drop step.extra ++ rest)))
      (c :: (more.take step.extra ++ (more.drop step.extra ++ other))) :=
    .token first second (List.length_take_of_le inRun).symm known alike
  rwa [← List.append_assoc, ← List.append_assoc, cut] at whole

/-- Texts that are read alike in code start alike with a character that stays there. -/
theorem startsAlike_of_stays {c : Char} (stays : leavesCode c = false) {rest other : Text}
    (oneLine : '\n' ∉ other) (alike : Zone.code.ReadAlike (c :: rest) (c :: other)) :
    StartsAlike words before .code (c :: rest) (c :: other) := by
  have passes (d : Char) (free : (!leavesCode d) = true) (rest : Text) :
      Zone.code.read d rest = ⟨.code, .code, 0⟩ :=
    Zone.read_code_of_stays ((by simpa using free)) rest
  have first : (!leavesCode c) = true := by rw [stays, Bool.not_false]
  obtain ⟨more, last, lastOther, rfl, rfl, all, behind, stop, stopOther⟩ :=
    alike.exists_run_behind passes (fun _ quote => by cases quote <;> decide) Zone.noConfusion first
  have inCode : ∀ d ∈ c :: more, leavesCode d = false :=
    List.forall_mem_cons.2 ⟨stays, fun d member => by simpa using all d member⟩
  have leaves {behind : Text} (stop : ∀ d ∈ behind.head?, (!leavesCode d) = false) :
      ∀ d ∈ behind.head?, leavesCode d = true := fun d first => by simpa using stop d first
  rcases stopOther with stopOther | ⟨-, rfl, blanks, comment, separators, rfl⟩
  · exact startsAlike_of_run isWord inCode behind (.of_leaves (leaves stop))
      (.of_leaves (leaves stopOther)) (fun _ => countWhile_separates_append (leaves stop) more)
      fun _ => countWhile_separates_append (leaves stopOther) more
  · by_cases blank : ∀ d ∈ c :: more, separates d = true
    · -- Nothing but blanks stand in front of the comment.
      have ends : '\n' ∉ comment := fun member => oneLine
        (List.mem_append_right _ (List.mem_append_right _ (List.mem_cons_of_mem _ member)))
      have unchecked :=
        unchecked_separators isWord blank (by simp) (unchecked_nil words .code) before
      have uncheckedOther := unchecked_blanks_comment isWord
        (List.forall_mem_append.2 ⟨blank, separators⟩) ends before
      rw [List.append_assoc] at uncheckedOther
      exact .unchecked unchecked uncheckedOther
    · rw [List.forall_mem_cons, not_and] at blank
      exact startsAlike_of_run isWord inCode behind (by simp [Text.StopsCode])
        (.of_blanks_comment separators comment) (fun _ => by rw [List.append_nil])
        fun separator => countWhile_append_of_not_all (blank separator) _

/-- Texts that are read alike in code start alike. -/
theorem startsAlike_code {text other : Text} (oneLine : '\n' ∉ text) (oneLineOther : '\n' ∉ other)
    (alike : Zone.code.ReadAlike text other) : StartsAlike words before .code text other := by
  have whole := alike
  generalize isZone : Zone.code = zone at alike
  cases alike with
  | same => exact .same _ _
  | @kept zone c held rest other reading first second length behind =>
      subst isZone
      rw [List.mem_cons, not_or] at oneLine oneLineOther
      by_cases leaves : leavesCode c = true
      · rcases leavesCode_cases leaves with ⟨quote, rfl⟩ | rfl
        · exact startsAlike_of_mark isWord first second length behind
        · exact .unchecked (unchecked_comment isWord before oneLine.2)
            (unchecked_comment isWord before oneLineOther.2)
      · exact startsAlike_of_stays isWord (Bool.eq_false_iff.2 leaves) oneLineOther.2 whole
  | refilled closes closesOther length behind => exact .literal closes closesOther length behind
  | @commented blanks separators comment =>
      have ends : '\n' ∉ comment := fun member =>
        oneLineOther (List.mem_append_right _ (List.mem_cons_of_mem _ member))
      exact .unchecked (unchecked_nil words .code before)
        (unchecked_blanks_comment isWord separators ends before)
  | continued => cases isZone

/-- Texts that are read alike from a mode on start alike. -/
theorem startsAlike_of_readAlike {mode : Mode} (known : mode ≠ .blanks) {text other : Text}
    (oneLine : '\n' ∉ text) (oneLineOther : '\n' ∉ other)
    (alike : (Zone.ofMode mode).ReadAlike text other) :
    StartsAlike words before mode text other := by
  cases mode with
  | code => exact startsAlike_code isWord oneLine oneLineOther alike
  | inLine quote => exact startsAlike_inLine oneLine alike
  | inTriple quote => exact startsAlike_inTriple oneLine alike
  | blanks => exact absurd rfl known

end

/-! ## All tokens of both texts -/

/-- Texts that are read alike have the same tokens that the checks look at. -/
theorem Zone.ReadAlike.checked_eq {words : List Text} (isWord : ∀ word ∈ words, word.IsWord)
    {mode : Mode} (known : mode ≠ .blanks) {text other : Text} (oneLine : '\n' ∉ text)
    (oneLineOther : '\n' ∉ other) (alike : (Zone.ofMode mode).ReadAlike text other)
    (before : Option Char) (line : Int) (column : Nat) :
    Lexeme.checked line column (scanFrom words mode before other).1 =
      Lexeme.checked line column (scanFrom words mode before text).1 := by
  induction size : text.length using Nat.strong_induction_on
    generalizing mode text other before column with
  | _ count ih =>
      have starts : StartsAlike words before mode text other :=
        startsAlike_of_readAlike isWord known oneLine oneLineOther alike
      cases starts with
      | same => rfl
      | unchecked first second => rw [first.checked_eq, second.checked_eq]
      | @token mode c more rest other step first second length known behind =>
          have shorter : rest.length < count := by
            rw [← size, List.length_cons, List.length_append]
            omega
          have inside {back : Text} (member : '\n' ∈ back) : '\n' ∈ c :: (more ++ back) :=
            List.mem_cons_of_mem c (List.mem_append_right more member)
          have onward := ih rest.length shorter known (mt inside oneLine) (mt inside oneLineOther)
            behind (c :: more).getLast?
            (column + (Lexeme.source [⟨step.kind, c :: more⟩]).length) rfl
          rw [scanFrom_of_step first length, scanFrom_of_step second length,
            ← List.singleton_append, Lexeme.checked_append, onward, ← Lexeme.checked_append]
          rfl
      | @literal quote content filling rest other closes closesOther length behind =>
          obtain ⟨lexemes, unchecked, width, scanned⟩ :=
            exists_unchecked_literal isWord closes before
          obtain ⟨others, uncheckedOther, widthOther, scannedOther⟩ :=
            exists_unchecked_literal isWord closesOther before
          have shorter : rest.length < count := by
            rw [← size, List.length_cons, List.length_append, List.length_cons]
            omega
          have inside {content back : Text} (member : '\n' ∈ back) :
              '\n' ∈ quote.mark :: (content ++ quote.mark :: back) :=
            List.mem_cons_of_mem _ (List.mem_append_right content (List.mem_cons_of_mem _ member))
          have onward := ih rest.length shorter known (mt inside oneLine) (mt inside oneLineOther)
            behind (some quote.mark) (column + (content.length + 2)) rfl
          rw [scanned, scannedOther, Lexeme.checked_append, Lexeme.checked_append,
            unchecked.checked_eq, uncheckedOther.checked_eq, width, widthOther, length, onward]

end KeywordBridge
