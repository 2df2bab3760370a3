/-!
# Simple case maps

Most characters with a case map go to the character a fixed distance away, and
neighbours share that distance: whole alphabets shift together, and in the
mixed ranges every second character does. A case map is therefore a list of runs
of equally spaced characters with a common shift.
-/

namespace KeywordBridge

/-- The characters `first`, `first + stride`, ... up to `last`, all of which are
moved by `shift`. -/
structure CaseRun where
  first : Nat
  last : Nat
  stride : Nat
  shift : Int

/-- Does the run hold this code point? -/
def CaseRun.contains (run : CaseRun) (point : Nat) : Bool :=
  run.first ≤ point && point ≤ run.last && (point - run.first) % run.stride == 0

/-- The image of a code point under the first run that holds it. -/
def CaseRun.apply (runs : List CaseRun) (point : Nat) : Nat :=
  match runs.find? (·.contains point) with
  | some run => (point + run.shift).toNat
  | none => point

/-- A point in no run is left alone. -/
theorem CaseRun.apply_of_forall_not {runs : List CaseRun} {point : Nat}
    (outside : ∀ run ∈ runs, run.contains point = false) :
    CaseRun.apply runs point = point := by
  have none_found : runs.find? (·.contains point) = none := by
    simpa [List.find?_eq_none] using outside
  simp [CaseRun.apply, none_found]

end KeywordBridge
