import KeywordBridge.Files.Discovery
import KeywordBridge.Proofs.Files.Path
import KeywordBridge.Proofs.Text.Lowercase
import Mathlib.Data.List.Lex
import Mathlib.Order.Basic

/-!
# Names of programs

Discovery looks at the end of a name or path, loading at the extension of a path. Both look
for the same endings, each of which is a dot with letters behind it, so that the last dot
decides. Names are ordered by their code points.
-/

namespace KeywordBridge

namespace CodePoint

theorem value_injective : Function.Injective value := fun first second same => by
  have known := ofValue?_value first
  rw [same, ofValue?_value] at known
  exact (Option.some.inj known).symm

instance : LE CodePoint := ⟨fun first second => first.value ≤ second.value⟩

instance : LinearOrder CodePoint where
  le_refl point := Nat.le_refl point.value
  le_trans first second third := Nat.le_trans (n := first.value) (m := second.value)
  le_antisymm _ _ le ge := value_injective (Nat.le_antisymm le ge)
  lt_iff_le_not_ge _ _ := Nat.lt_iff_le_and_not_ge
  le_total first second := Nat.le_total first.value second.value
  toDecidableLE first second := inferInstanceAs (Decidable (first.value ≤ second.value))
  toDecidableEq := inferInstance
  toDecidableLT := inferInstance

end CodePoint

namespace Source

theorem nameLe_iff (first second : NodeName) : nameLe first second = true ↔ first ≤ second := by
  rw [nameLe, Bool.not_eq_true', decide_eq_false_iff_not, not_lt]

theorem nameLe_trans (first second third : NodeName) (below : nameLe first second = true)
    (above : nameLe second third = true) : nameLe first third = true := by
  rw [nameLe_iff] at *
  exact below.trans above

theorem nameLe_total (first second : NodeName) :
    (nameLe first second || nameLe second first) = true := by
  rw [Bool.or_eq_true, nameLe_iff, nameLe_iff]
  exact le_total first second

/-! ## Extensions of programs -/

/-- Does the name end with an extension of programs, in lower case? -/
def HasExtension (name : NodeName) : Prop :=
  ∃ extension ∈ extensions, extension <:+ lowerCase name

theorem isName_iff (name : NodeName) : isName name = true ↔ HasExtension name := by
  simp only [isName, List.any_eq_true, List.isSuffixOf_iff_suffix, HasExtension]

theorem not_hasExtension_nil : ¬ HasExtension [] := by
  rintro ⟨extension, known, suffix⟩
  have empty := List.suffix_nil.1 suffix
  subst empty
  revert known
  decide

/-- The extensions begin with their only dot, and lower case has nothing in them that
depends on its neighbours. -/
theorem extensions_spelled : ∀ extension ∈ extensions,
    extension.head? = some (.char '.') ∧ .char '.' ∉ extension.tail ∧
      .char '\u03C2' ∉ extension.tail ∧ .char '\u03C3' ∉ extension.tail ∧
        .char '/' ∉ extension := by
  decide

/-- Whether a name ends with an extension is decided by its last dot. -/
theorem suffix_lowerCase_iff {extension stem ending : NodeName} (known : extension ∈ extensions)
    (free : .char '.' ∉ ending) :
    extension <:+ lowerCase (stem ++ .char '.' :: ending) ↔
      lowerCase (.char '.' :: ending) = extension := by
  obtain ⟨head, noDot, noFinal, noSmall, -⟩ := extensions_spelled extension known
  obtain ⟨letters, rfl⟩ : ∃ letters, extension = .char '.' :: letters :=
    ⟨extension.tail, List.eq_cons_of_mem_head? head⟩
  rw [List.tail_cons] at noDot noFinal noSmall
  obtain ⟨lowered, whole⟩ := exists_lowerFrom_append [] stem (.char '.' :: ending)
  rw [lowerCase, whole, lowerFrom_dot, lowerCase, lowerFrom_dot, List.cons.injEq,
    Path.dot_cons_suffix_iff noDot (dot_not_mem_lowerFrom free)]
  -- What follows the dot is lowered alike with and without the stem.
  constructor
  · rintro rfl
    exact ⟨rfl, lowerFrom_eq_of_no_sigma noFinal noSmall _⟩
  · rintro ⟨-, rfl⟩
    exact (lowerFrom_eq_of_no_sigma noFinal noSmall _).symm

/-- A name with an extension of programs has a last dot. -/
theorem HasExtension.exists_eq {name : NodeName} (named : HasExtension name) :
    ∃ stem ending, name = stem ++ .char '.' :: ending ∧ .char '.' ∉ ending := by
  obtain ⟨extension, known, suffix⟩ := named
  obtain ⟨head, -⟩ := extensions_spelled extension known
  have inside : .char '.' ∈ lowerCase name := suffix.mem (List.mem_of_head? head)
  have dot : .char '.' ∈ name :=
    Decidable.not_not.1 fun missing => dot_not_mem_lowerFrom missing inside
  obtain ⟨back, front, same, free⟩ := List.eq_append_cons_of_mem (List.mem_reverse.2 dot)
  refine ⟨front.reverse, back.reverse, ?_, fun member => free (List.mem_reverse.1 member)⟩
  rw [← List.reverse_reverse name, same, List.reverse_append, List.reverse_cons,
    List.append_assoc, List.singleton_append]

/-- Does the name end with an extension of programs with target keywords, in lower case? -/
def HasTargetExtension (name : NodeName) : Prop :=
  ∃ extension ∈ targetExtensions, extension <:+ lowerCase name

instance (name : NodeName) : Decidable (HasTargetExtension name) :=
  inferInstanceAs (Decidable (∃ extension ∈ targetExtensions, extension <:+ lowerCase name))

/-- What stands behind the last dot of a name decides which extensions it has. -/
theorem exists_suffix_lowerCase_iff {chosen : List NodeName} (known : chosen ⊆ extensions)
    {stem ending : NodeName} (free : .char '.' ∉ ending) :
    (∃ extension ∈ chosen, extension <:+ lowerCase (stem ++ .char '.' :: ending)) ↔
      lowerCase (.char '.' :: ending) ∈ chosen := by
  constructor
  · rintro ⟨extension, member, suffix⟩
    exact (suffix_lowerCase_iff (known member) free).1 suffix ▸ member
  · exact fun member => ⟨_, member, (suffix_lowerCase_iff (known member) free).2 rfl⟩

/-- A path ends like the name of a program if its last part does: no extension goes across
a slash. -/
theorem hasExtension_append_slash (front : Path) {name : NodeName}
    (noSlash : .char '/' ∉ name) :
    HasExtension (front ++ .char '/' :: name) ↔ HasExtension name := by
  have decided {stem ending : NodeName} (free : .char '.' ∉ ending) :
      HasExtension (stem ++ .char '.' :: ending) ↔ lowerCase (.char '.' :: ending) ∈ extensions :=
    exists_suffix_lowerCase_iff (List.Subset.refl _) free
  constructor
  · intro named
    obtain ⟨stem, ending, whole, free⟩ := named.exists_eq
    rw [whole, decided free] at named
    have inside : .char '/' ∉ .char '.' :: ending := fun member =>
      (extensions_spelled _ named).2.2.2.2 (slash_mem_lowerFrom member)
    -- The ending holds no slash, so it lies behind the last one.
    rw [List.append_cons, List.append_eq_append_iff] at whole
    obtain ⟨between, -, rfl⟩ | ⟨across, front_eq, ending_eq⟩ := whole
    · exact (decided free).2 named
    · rcases List.eq_nil_or_concat' across with rfl | ⟨others, last, rfl⟩
      · obtain rfl : .char '.' :: ending = name := ending_eq
        exact (@decided [] _ free).2 named
      · rw [← List.append_assoc, List.append_singleton_inj] at front_eq
        refine absurd ?_ inside
        rw [ending_eq, ← front_eq.2, List.append_assoc]
        exact List.mem_append_right _ List.mem_cons_self
  · intro named
    obtain ⟨stem, ending, rfl, free⟩ := named.exists_eq
    rw [decided free] at named
    rw [← List.cons_append, ← List.append_assoc, decided free]
    exact named

theorem isName_path_iff (path : Path) :
    isName path = true ↔ HasExtension path.lastPart := by
  rw [isName_iff]
  by_cases slash : .char '/' ∈ path
  · obtain ⟨back, front, same, free⟩ := List.eq_append_cons_of_mem (List.mem_reverse.2 slash)
    have whole : path = front.reverse ++ .char '/' :: back.reverse := by
      rw [← List.reverse_reverse path, same, List.reverse_append, List.reverse_cons,
        List.append_assoc, List.singleton_append]
    have noSlash : .char '/' ∉ back.reverse := fun member => free (List.mem_reverse.1 member)
    rw [whole, hasExtension_append_slash _ noSlash, Path.lastPart, Path.parts,
      Text.cutAt_append_mark, Text.cutAt_of_not_mem noSlash, List.getLastD_concat]
  · rw [Path.lastPart, Path.parts, Text.cutAt_of_not_mem slash]
    rfl

end Source

end KeywordBridge
