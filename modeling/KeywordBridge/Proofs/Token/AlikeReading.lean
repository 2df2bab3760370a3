import KeywordBridge.Proofs.Token.CodePart
import KeywordBridge.Proofs.Token.QuotedParts

/-!
# Lines that are read alike

Two lines are read alike if reading them for their quotes goes through the same zones,
except that a string which is closed on its line may have another content of the same
length in the one than in the other, and that a comment may be added at the end. So they
leave the same mode to the next line, and their parts in front of the comment differ
between quotes and in the blanks at the end only.
-/

namespace KeywordBridge

theorem isBlankChar_of_separates {c : Char} (separator : separates c = true) :
    isBlankChar c = true := by
  simp only [separates, Bool.or_eq_true, beq_iff_eq] at separator
  rcases separator with (((rfl | rfl) | rfl) | rfl) | rfl <;> decide

/-- Does a string with this content, which is opened by a single quote in code, end with
its first quote in front of the rest of the line? -/
structure IsContent (quote : Quote) (content rest : Text) : Prop where
  stays : staysOpen quote content = true
  single : completesTriple quote (content ++ quote.mark :: rest) = false

namespace Zone

/-- Texts that are read alike from a zone on. -/
inductive ReadAlike : Zone → Text → Text → Prop
  | same (zone : Zone) (text : Text) : ReadAlike zone text text
  /-- A character is kept with those that it holds. -/
  | kept {zone : Zone} {c : Char} {held rest other : Text} {reading : Reading}
      (first : zone.read c (held ++ rest) = reading)
      (second : zone.read c (held ++ other) = reading) (length : reading.held = held.length)
      (behind : ReadAlike reading.zone rest other) :
      ReadAlike zone (c :: (held ++ rest)) (c :: (held ++ other))
  /-- The content of a string is replaced. -/
  | refilled {quote : Quote} {content filling rest other : Text}
      (closes : IsContent quote content rest) (closesOther : IsContent quote filling other)
      (length : filling.length = content.length) (behind : ReadAlike code rest other) :
      ReadAlike code (quote.mark :: (content ++ quote.mark :: rest))
        (quote.mark :: (filling ++ quote.mark :: other))
  /-- A comment is added behind code. -/
  | commented {blanks : Text} (separators : ∀ c ∈ blanks, separates c = true) (comment : Text) :
      ReadAlike code [] (blanks ++ '#' :: comment)
  /-- A comment is continued. -/
  | continued (text more : Text) : ReadAlike comment text (text ++ more)

/-! ## The end of the line -/

/-- A character is read with those that it holds. -/
theorem scan_kept {zone : Zone} {c : Char} {held rest : Text} {reading : Reading}
    (read : zone.read c (held ++ rest) = reading) (length : reading.held = held.length) :
    zone.scan 0 (c :: (held ++ rest)) =
      prepend (reading.region :: List.replicate held.length .string)
        (reading.zone.scan 0 rest) := by
  rw [scan_cons, read, length, scan_held]
  rfl

/-- A string that is closed on its line is read from quote to quote. -/
theorem scan_content {quote : Quote} {content rest : Text}
    (closes : IsContent quote content rest) :
    code.scan 0 (quote.mark :: content ++ [quote.mark] ++ rest) =
      prepend (List.replicate (quote.mark :: content ++ [quote.mark]).length .string)
        (code.scan 0 rest) := by
  have single : ¬ completesTriple quote (content ++ quote.mark :: rest) = true :=
    Bool.eq_false_iff.1 closes.single
  rw [List.append_assoc, List.singleton_append, List.cons_append,
    scan_of_single single List.prefix_rfl, scan_inLine_append closes.stays, scan_cons,
    read_inLine_of_mark, List.length_append, List.length_singleton, List.replicate_add]
  simp [prepend, List.replicate_succ]

/-- Blanks in code are read as code. -/
theorem scan_separators {blanks : Text} (separators : ∀ c ∈ blanks, separates c = true)
    (rest : Text) :
    code.scan 0 (blanks ++ rest) =
      prepend (List.replicate blanks.length .code) (code.scan 0 rest) := by
  apply scan_append
  intro c member
  exact read_code_of_stays (leavesCode_eq_false_of_class (by decide) (separators c member))

/-- Texts that are read alike leave the same mode to the next line. -/
theorem ReadAlike.nextMode_eq {zone : Zone} {text other : Text}
    (alike : ReadAlike zone text other) :
    (zone.scan 0 other).2.nextMode = (zone.scan 0 text).2.nextMode := by
  induction alike with
  | same => rfl
  | kept first second length behind ih =>
      rw [scan_kept first length, scan_kept second length]
      exact ih
  | @refilled quote content filling rest other closes closesOther length behind ih =>
      have first := scan_content closes
      have second := scan_content closesOther
      rw [List.append_assoc, List.singleton_append, List.cons_append] at first second
      rw [first, second]
      exact ih
  | commented separators comment =>
      rw [scan_separators separators, scan_sign]
      rfl
  | continued text more => rw [scan_comment, scan_comment]

/-! ## The part in front of the comment -/

theorem codePart_held (zone : Zone) (held rest : Text) :
    zone.codePart held.length (held ++ rest) = held ++ zone.codePart 0 rest :=
  codePart_append_of_prepend held Region.noConfusion (scan_held zone held rest)

theorem codePart_of_region {zone : Zone} {c : Char} {rest : Text}
    (isComment : (zone.read c rest).region = .comment) : zone.codePart 0 (c :: rest) = [] := by
  rw [Zone.codePart, scan_cons, isComment]
  rfl

/-- Texts that are read alike agree in front of their comments, up to the contents of
strings and the blanks at the end. -/
theorem ReadAlike.codePart {zone : Zone} {text other : Text}
    (alike : ReadAlike zone text other) :
    Text.AlikeOutsideQuotes (zone.codePart 0 text).trimEnd (zone.codePart 0 other).trimEnd := by
  induction alike with
  | same zone text => exact .refl _
  | @kept zone c held rest other reading first second length behind ih =>
      by_cases isComment : reading.region = .comment
      · rw [codePart_of_region (by rw [first, isComment]),
          codePart_of_region (by rw [second, isComment])]
        exact .refl _
      · have part {rest : Text} (read : zone.read c (held ++ rest) = reading) :
            zone.codePart 0 (c :: (held ++ rest)) = c :: held ++ reading.zone.codePart 0 rest := by
          rw [codePart_cons (by rwa [read]), read, length, codePart_held, List.cons_append]
        rw [part first, part second]
        exact ih.trimEnd_append (c :: held)
  | @refilled quote content filling rest other closes closesOther length behind ih =>
      have part {content rest : Text} (closes : IsContent quote content rest) :
          (code.codePart 0 (quote.mark :: (content ++ quote.mark :: rest))).trimEnd =
            quote.mark :: (content ++ quote.mark :: (code.codePart 0 rest).trimEnd) := by
        have whole := codePart_append_of_prepend _ Region.noConfusion (scan_content closes)
        rw [List.append_assoc, List.singleton_append, List.cons_append] at whole
        rw [whole, List.append_assoc, List.singleton_append,
          Text.trimEnd, Text.dropEndWhile_append_cons _ quote.isBlankChar_mark]
        rfl
      rw [part closes, part closesOther]
      exact .quoted quote length ih
  | @commented blanks separators comment =>
      have isBlank : blanks.trimEnd = [] := by
        rw [← Text.isBlank_iff_trimEnd, Text.isBlank, List.all_eq_true]
        exact fun c member => isBlankChar_of_separates (separators c member)
      have whole := codePart_append_of_prepend blanks Region.noConfusion
        (scan_separators separators ('#' :: comment))
      rw [whole, codePart_sign, List.append_nil, isBlank]
      exact .refl _
  | continued text more =>
      rw [codePart_of_comment (scan_comment text), codePart_of_comment (scan_comment _)]
      exact .refl _

/-! ## A comment behind a line -/

theorem scan_of_length_le {zone : Zone} {held : Nat} {text : Text} (within : text.length ≤ held) :
    (zone.scan held text).2 = zone := by
  induction text generalizing held with
  | nil => rfl
  | cons c rest ih =>
      cases held with
      | zero => exact absurd within (Nat.not_succ_le_zero _)
      | succ held =>
          rw [scan_held_cons]
          exact ih (Nat.le_of_succ_le_succ within)

/-- Only a string can end among the characters that a character holds. -/
theorem held_read_le {zone : Zone} {c : Char} {rest : Text}
    (ends : (zone.scan 0 (c :: rest)).2 = .code ∨ (zone.scan 0 (c :: rest)).2 = .comment) :
    (zone.read c rest).held ≤ rest.length := by
  by_contra beyond
  have final : (zone.scan 0 (c :: rest)).2 = (zone.read c rest).zone := by
    rw [scan_cons]
    exact scan_of_length_le (Nat.le_of_lt (Nat.lt_of_not_le beyond))
  rw [final] at ends
  have short {quote : Quote} (two : rest.take 2 = [quote.mark, quote.mark]) : 2 ≤ rest.length := by
    have inside := List.length_take_le' 2 rest
    rw [two] at inside
    exact inside
  cases zone with
  | code =>
      cases leaves : leavesCode c with
      | false =>
          rw [read_code_of_stays leaves] at beyond
          exact beyond (Nat.zero_le _)
      | true =>
          rcases leavesCode_cases leaves with ⟨quote, rfl⟩ | rfl
          · rw [read_code_of_mark] at beyond
            split at beyond
            · exact beyond (short ‹_›)
            · exact beyond (Nat.zero_le _)
          · exact beyond (Nat.zero_le _)
  | inLine quote =>
      rcases mark_or_backslash_or_plain quote c with rfl | rfl | plain
      · rw [read_inLine_of_mark] at beyond
        exact beyond (Nat.zero_le _)
      · rw [read_inLine_of_backslash] at ends
        rcases ends with inCode | inComment
        · cases inCode
        · cases inComment
      · rw [read_inLine_of_plain plain] at beyond
        exact beyond (Nat.zero_le _)
  | inTriple quote =>
      rcases mark_or_backslash_or_plain quote c with rfl | rfl | plain
      · rw [read_inTriple_of_mark] at beyond
        split at beyond
        · exact beyond (short ‹_›)
        · exact beyond (Nat.zero_le _)
      · have inString : ((inTriple quote).read '\\' rest).zone = inTriple quote := rfl
        rw [inString] at ends
        rcases ends with inCode | inComment
        · cases inCode
        · cases inComment
      · rw [read_inTriple_of_plain plain] at beyond
        exact beyond (Nat.zero_le _)
  | comment => exact beyond (Nat.zero_le _)

/-- A comment may be added behind a line that ends in code or in a comment. -/
theorem readAlike_append {zone : Zone} {text blanks : Text}
    (ends : (zone.scan 0 text).2 = .code ∨ (zone.scan 0 text).2 = .comment)
    (separators : ∀ c ∈ blanks, separates c = true) (comment : Text) :
    ReadAlike zone text (text ++ (blanks ++ '#' :: comment)) := by
  have stop : NoQuoteFirst (blanks ++ '#' :: comment) := by
    intro quote first
    cases blanks with
    | nil => cases quote <;> cases first
    | cons d others =>
        have blank := isBlankChar_of_separates (separators d List.mem_cons_self)
        rw [Option.some.inj first, quote.isBlankChar_mark] at blank
        cases blank
  induction size : text.length using Nat.strong_induction_on generalizing zone text with
  | _ count ih =>
      cases text with
      | nil =>
          rcases ends with inCode | inComment
          · rw [show zone = .code from inCode]
            exact .commented separators comment
          · rw [show zone = .comment from inComment]
            exact .continued [] _
      | cons c rest =>
          have inside := held_read_le ends
          have cut := rest.take_append_drop (zone.read c rest).held
          have length : (zone.read c rest).held = (rest.take (zone.read c rest).held).length :=
            (List.length_take_of_le inside).symm
          have first : zone.read c (rest.take (zone.read c rest).held ++
              rest.drop (zone.read c rest).held) = zone.read c rest := by rw [cut]
          have second : zone.read c (rest.take (zone.read c rest).held ++
              (rest.drop (zone.read c rest).held ++ (blanks ++ '#' :: comment))) =
                zone.read c rest := by
            rw [← List.append_assoc, cut, read_append stop]
          have behind : ((zone.read c rest).zone.scan 0 (rest.drop (zone.read c rest).held)).2 =
              (zone.scan 0 (c :: rest)).2 := by
            conv_rhs => rw [← cut, scan_kept first length]
            rfl
          have shorter : (rest.drop (zone.read c rest).held).length < count := by
            rw [← size, List.length_cons, List.length_drop]
            omega
          have alike := ih _ shorter (by rwa [behind]) rfl
          have whole := ReadAlike.kept first second length alike
          rwa [← List.append_assoc, cut] at whole

end Zone

end KeywordBridge
