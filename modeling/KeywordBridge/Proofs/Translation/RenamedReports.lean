import KeywordBridge.Proofs.Diagnostic.BrokenStrings
import KeywordBridge.Proofs.Diagnostic.Order
import KeywordBridge.Proofs.Token.ProgramLines
import KeywordBridge.Proofs.Translation.RenamedLines

/-!
# Reports under a renaming of keywords

Parentheses and broken strings are counted among the lexemes of a line, which stand
one by one for those of the renamed line. A lexeme is blank on both sides or on none,
so the checks pass over the same lines. Hence the same lines are reported for
unbalanced parentheses and for broken strings, and each of them equally often.
-/

namespace KeywordBridge

/-- A kind that neither keywords nor names have is kept by the renaming. -/
theorem TokenKind.renamed_eq_iff {kind target : TokenKind} (noKeyword : target ≠ .keyword)
    (noName : target ≠ .identifier) : kind.renamed = target ↔ kind = target := by
  rw [renamed]
  split
  · rename_i keyword
    rw [keyword]
    exact iff_of_false noName.symm noKeyword.symm
  · exact Iff.rfl

/-! ## Counting lexemes -/

section

variable {α β : Type} {related : α → β → Prop} {p : α → Bool} {q : β → Bool}
  (same : ∀ a b, related a b → q b = p a) {first : List α} {second : List β}
  (pairs : List.Forall₂ related first second)

include same pairs

theorem countP_of_forall₂ : second.countP q = first.countP p := by
  induction pairs with
  | nil => rfl
  | cons here _ ih => rw [List.countP_cons, List.countP_cons, ih, same _ _ here]

theorem all_of_forall₂ : second.all q = first.all p := by
  induction pairs with
  | nil => rfl
  | cons here _ ih => rw [List.all_cons, List.all_cons, ih, same _ _ here]

end

namespace SourceLine

variable {image : Text → Text} {line other : SourceLine}
  (renamed : List.Forall₂ (Lexeme.IsRenamed image) line.lexemes other.lexemes)

include renamed

theorem hasCode_of_renamed : other.hasCode = line.hasCode := by
  have isBlank_code (line : SourceLine) : line.code.isBlank =
      line.lexemes.all fun lexeme => !(lexeme.kind != .comment) || lexeme.value.isBlank := by
    rw [code, Lexeme.source, Text.isBlank, List.all_flatMap, List.all_filter]
    rfl
  rw [hasCode, hasCode, isBlank_code, isBlank_code]
  congr 1
  refine all_of_forall₂ (fun lexeme next here => ?_) renamed
  have comment : (next.kind != .comment) = (lexeme.kind != .comment) := by
    rw [Bool.eq_iff_iff, bne_iff_ne, bne_iff_ne, here.kind]
    exact not_congr (TokenKind.renamed_eq_iff (by decide) (by decide))
  rw [comment, here.isBlank]

theorem countBracket_of_renamed (bracket : Char) :
    other.countBracket bracket = line.countBracket bracket := by
  refine countP_of_forall₂ (fun lexeme next here => ?_) renamed
  have kind : next.kind = .bracket ↔ lexeme.kind = .bracket := by
    rw [here.kind]
    exact TokenKind.renamed_eq_iff (by decide) (by decide)
  by_cases isBracket : lexeme.kind = .bracket
  · have code : lexeme.kind.region = .code := by
      rw [isBracket]
      rfl
    have value := here.value code
    rw [isBracket, if_neg (by decide)] at value
    rw [kind.2 isBracket, isBracket, value]
  · rw [beq_eq_false_iff_ne.2 isBracket, beq_eq_false_iff_ne.2 fun same => isBracket (kind.1 same),
      Bool.false_and, Bool.false_and]

theorem countP_brokenString_of_renamed :
    other.lexemes.countP (·.kind = .brokenString) =
      line.lexemes.countP (·.kind = .brokenString) := by
  refine countP_of_forall₂ (fun lexeme next here => ?_) renamed
  rw [decide_eq_decide, here.kind]
  exact TokenKind.renamed_eq_iff (by decide) (by decide)

end SourceLine

/-! ## The reports of a line -/

namespace Table

variable (table : Table)

/-- A line is reported for its parentheses if it has code and they do not balance. -/
theorem lineDiagnostics_parentheses (line : SourceLine) (following : List SourceLine) :
    ((table.lineDiagnostics line following).filter (·.problem = .unbalancedParentheses)).map
        (·.line) =
      if line.hasCode then
        if line.countBracket '(' = line.countBracket ')' then [] else [line.number]
      else [] := by
  have noToken : (table.tokenDiagnostics line).filter (·.problem = .unbalancedParentheses) =
      [] := by
    rw [List.filter_eq_nil_iff]
    intro diagnostic member
    simpa using table.problem_of_mem_tokenDiagnostics member
  rw [table.lineDiagnostics_filter, noToken, List.append_nil]
  · split
    · rw [SourceLine.parenthesisDiagnostics]
      split
      · rfl
      · rfl
    · rfl
  · intro diagnostic head
    rw [decide_eq_false_iff_not]
    intro unbalanced
    rw [unbalanced] at head
    exact Bool.noConfusion head

/-- A renamed line is reported as often as the line. -/
theorem lineDiagnostics_of_renamed {image : Text → Text} {problem : Problem}
    (listed : problem ∈ [.unbalancedParentheses, .brokenString]) {line other : SourceLine}
    (number : other.number = line.number)
    (renamed : List.Forall₂ (Lexeme.IsRenamed image) line.lexemes other.lexemes)
    (following otherFollowing : List SourceLine) :
    ((table.lineDiagnostics other otherFollowing).filter (·.problem = problem)).map (·.line) =
      ((table.lineDiagnostics line following).filter (·.problem = problem)).map (·.line) := by
  have hasCode := SourceLine.hasCode_of_renamed renamed
  rw [List.mem_cons, List.mem_singleton] at listed
  rcases listed with rfl | rfl
  · rw [lineDiagnostics_parentheses, lineDiagnostics_parentheses, hasCode, number,
      SourceLine.countBracket_of_renamed renamed, SourceLine.countBracket_of_renamed renamed]
  · have broken := SourceLine.countP_brokenString_of_renamed renamed
    change ((table.lineDiagnostics other otherFollowing).filter
      Diagnostic.reportsBrokenString).map (·.line) =
        ((table.lineDiagnostics line following).filter Diagnostic.reportsBrokenString).map (·.line)
    rw [lineDiagnostics_brokenStrings, lineDiagnostics_brokenStrings, hasCode]
    split
    · rw [tokenDiagnostics_brokenStrings, tokenDiagnostics_brokenStrings, broken, number]
    · rfl

/-! ## The reports of a program -/

variable {table}

/-- The lines of a program and of the renamed program are reported alike. -/
theorem diagnose_of_renamed {image : Text → Text} (words : table.HasWordKeywords)
    (renames : Renaming table.surfaces image) {problem : Problem}
    (listed : problem ∈ [.unbalancedParentheses, .brokenString]) {mode : Mode}
    (start : mode.StartsLine) (number : Nat) {lines : List Text}
    (oneLine : ∀ line ∈ lines, '\n' ∉ line.dropReturns) :
    ((table.diagnose (table.readFrom number mode (lines.map (Text.mapWords image)))).filter
        (·.problem = problem)).map (·.line) =
      ((table.diagnose (table.readFrom number mode lines)).filter (·.problem = problem)).map
        (·.line) := by
  induction lines generalizing number mode with
  | nil => rfl
  | cons line rest ih =>
      rw [List.forall_mem_cons] at oneLine
      obtain ⟨lexemes, next⟩ := renames.scanLine_renamed start oneLine.1
      have behind := ih (words.startsLine_scanLine start oneLine.1) (number + 1) oneLine.2
      rw [List.map_cons, readFrom_cons, readFrom_cons, diagnose, diagnose, List.filter_append,
        List.filter_append, List.map_append, List.map_append,
        Text.dropReturns_mapWords renames.isWord_image, next, behind]
      congr 1
      have pairs := lexemes.forall₂
      refine table.lineDiagnostics_of_renamed listed ?_ pairs _ _
      rfl

end Table

/-- Sorting does not matter to which lines are reported how often, and brings them in
order. -/
theorem map_line_mergeSort {first second : List Diagnostic} {report : Diagnostic → Bool}
    (same : (second.filter report).map (·.line) = (first.filter report).map (·.line)) :
    ((second.mergeSort Diagnostic.le).filter report).map (·.line) =
      ((first.mergeSort Diagnostic.le).filter report).map (·.line) := by
  have perm (list : List Diagnostic) :
      List.Perm (((list.mergeSort Diagnostic.le).filter report).map (·.line))
        ((list.filter report).map (·.line)) :=
    ((List.mergeSort_perm list Diagnostic.le).filter report).map _
  have sorted (list : List Diagnostic) :
      (((list.mergeSort Diagnostic.le).filter report).map (·.line)).Pairwise (· ≤ ·) := by
    rw [List.pairwise_map]
    refine ((List.pairwise_mergeSort Diagnostic.le_trans Diagnostic.le_total list).imp ?_).filter _
    intro above below ordered
    rw [Diagnostic.le_iff] at ordered
    omega
  have alike := (perm second).trans (same ▸ (perm first).symm)
  exact alike.eq_of_pairwise (fun _ _ _ _ => Nat.le_antisymm) (sorted second) (sorted first)

end KeywordBridge
