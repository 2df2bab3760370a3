import KeywordBridge.Text.Lowercase
import Mathlib.Data.List.Basic

/-!
# Dots and the lower case

Lower case leaves a dot where it is and makes nothing else a dot. So what follows the last
dot of a name follows the last dot of its lower case. Only a capital sigma is lowered by
what stands around it, and its lower case is one of the two small sigmas; what holds
neither of them was lowered code point by code point.
-/

namespace KeywordBridge

/-! ## Single characters -/

theorem loweredShifts_above_dot :
    ∀ run ∈ loweredShifts, 46 < (run.first : Int) + run.shift := by
  decide +kernel

/-- A code point that is moved ends up above the dot. -/
theorem CaseRun.apply_loweredShifts (point : Nat) :
    CaseRun.apply loweredShifts point = point ∨ 46 < CaseRun.apply loweredShifts point := by
  rw [CaseRun.apply]
  split
  · rename_i run found
    have above := loweredShifts_above_dot run (List.mem_of_find?_eq_some found)
    have inside := List.find?_some (p := fun run : CaseRun => run.contains point) found
    simp only [CaseRun.contains, Bool.and_eq_true, decide_eq_true_eq] at inside
    right
    omega
  · exact .inl rfl

/-- Only a dot has a dot in its lower case. -/
theorem eq_dot_of_mem_lowerChar {c : Char} (member : '.' ∈ lowerChar c) : c = '.' := by
  rw [lowerChar] at member
  split at member
  · exact absurd member (by decide)
  · have lowered : 46 = (Char.ofNat (CaseRun.apply loweredShifts c.toNat)).toNat :=
      congrArg Char.toNat (List.mem_singleton.1 member)
    by_cases valid : (CaseRun.apply loweredShifts c.toNat).isValidChar
    · rw [Char.ofNat, dif_pos valid] at lowered
      change 46 = CaseRun.apply loweredShifts c.toNat at lowered
      rcases CaseRun.apply_loweredShifts c.toNat with same | above
      · exact Char.toNat_inj.1 (same.symm.trans lowered.symm)
      · omega
    · rw [Char.ofNat, dif_neg valid] at lowered
      exact absurd lowered (by decide)

/-! ## Code points -/

theorem mem_lowerAt_sigma (before rest : List CodePoint) :
    .char '\u03C2' ∈ lowerAt before (.char '\u03A3') rest ∨
      .char '\u03C3' ∈ lowerAt before (.char '\u03A3') rest := by
  rw [lowerAt, if_pos rfl]
  split
  · exact .inl List.mem_cons_self
  · exact .inr List.mem_cons_self

/-- All characters but the capital sigma are lowered alike in every context, and so are
surrogates. -/
theorem lowerAt_eq {point : CodePoint} (other : point ≠ .char '\u03A3')
    (before others rest more : List CodePoint) :
    lowerAt before point rest = lowerAt others point more := by
  cases point with
  | char c =>
      have differs : c ≠ '\u03A3' := fun same => other (congrArg _ same)
      rw [lowerAt, lowerAt, if_neg differs, if_neg differs]
  | surrogate => rfl

/-- Only a dot has a dot in its lower case. -/
theorem eq_dot_of_mem_lowerAt {before rest : List CodePoint} {point : CodePoint}
    (member : .char '.' ∈ lowerAt before point rest) : point = .char '.' := by
  cases point with
  | char c =>
      rw [lowerAt] at member
      split at member
      · split at member
        · exact absurd member (by decide)
        · exact absurd member (by decide)
      · obtain ⟨d, lowered, same⟩ := List.mem_map.1 member
        cases same
        rw [eq_dot_of_mem_lowerChar lowered]
  | surrogate => exact (List.mem_singleton.1 member).symm

/-- The lower case of the end of a list of code points is the end of its lower case. -/
theorem exists_lowerFrom_append (before front back : List CodePoint) :
    ∃ lowered, lowerFrom before (front ++ back) =
      lowered ++ lowerFrom (front.reverse ++ before) back := by
  induction front generalizing before with
  | nil => exact ⟨[], rfl⟩
  | cons point rest ih =>
      obtain ⟨lowered, behind⟩ := ih (point :: before)
      refine ⟨lowerAt before point (rest ++ back) ++ lowered, ?_⟩
      rw [List.cons_append, lowerFrom, behind, List.append_assoc, List.reverse_cons,
        List.append_assoc, List.singleton_append]

/-- The lower case of code points without a dot has none. -/
theorem dot_not_mem_lowerFrom {before points : List CodePoint} (free : .char '.' ∉ points) :
    .char '.' ∉ lowerFrom before points := by
  induction points generalizing before with
  | nil => exact List.not_mem_nil
  | cons point rest ih =>
      rw [List.mem_cons, not_or] at free
      rw [lowerFrom, List.mem_append, not_or]
      exact ⟨fun member => free.1 (eq_dot_of_mem_lowerAt member).symm, ih free.2⟩

/-- Without a small sigma in their lower case, code points are lowered alike everywhere. -/
theorem lowerFrom_eq_of_no_sigma {before points : List CodePoint}
    (unfinished : .char '\u03C2' ∉ lowerFrom before points)
    (small : .char '\u03C3' ∉ lowerFrom before points) (other : List CodePoint) :
    lowerFrom other points = lowerFrom before points := by
  induction points generalizing before other with
  | nil => rfl
  | cons point rest ih =>
      rw [lowerFrom, List.mem_append, not_or] at unfinished small
      rw [lowerFrom, lowerFrom, ih unfinished.2 small.2]
      by_cases sigma : point = .char '\u03A3'
      · subst sigma
        rcases mem_lowerAt_sigma before rest with final | inner
        · exact absurd final unfinished.1
        · exact absurd inner small.1
      · rw [lowerAt_eq sigma before other rest rest]

/-- The lower case of a dot with what follows it, wherever it stands. -/
theorem lowerFrom_dot (before rest : List CodePoint) :
    lowerFrom before (.char '.' :: rest) = .char '.' :: lowerFrom (.char '.' :: before) rest := by
  have dot : lowerAt [] (.char '.') [] = [.char '.'] := by decide
  rw [lowerFrom, lowerAt_eq (by decide) before [] rest [], dot, List.singleton_append]

/-- A slash stays in the lower case. -/
theorem slash_mem_lowerFrom {before points : List CodePoint} (member : .char '/' ∈ points) :
    .char '/' ∈ lowerFrom before points := by
  induction points generalizing before with
  | nil => cases member
  | cons point rest ih =>
      rw [lowerFrom, List.mem_append]
      rcases List.mem_cons.1 member with rfl | behind
      · have slash : lowerAt [] (.char '/') [] = [.char '/'] := by decide
        rw [lowerAt_eq (by decide) before [] rest [], slash]
        exact .inl List.mem_cons_self
      · exact .inr (ih behind)

end KeywordBridge
