/-!
# Sets of code points as inversion lists

A property of characters is a set of code points, and the sets that matter for
text are unions of a few hundred intervals. An inversion list writes such a set
as the increasing list of the points where membership changes: the first
boundary opens an interval, the second closes it, and so on. A point belongs to
the set exactly when an odd number of boundaries lie at or below it.
-/

namespace KeywordBridge

/-- The increasing list of the code points at which membership changes. -/
abbrev InversionList := List Nat

namespace InversionList

/-- Membership of `point` when everything below the first boundary has the
membership `inside`. -/
def containsFrom (inside : Bool) : InversionList → Nat → Bool
  | [], _ => inside
  | boundary :: rest, point =>
      if point < boundary then inside else containsFrom (!inside) rest point

/-- Membership in the set: nothing below the first boundary belongs to it. -/
def contains (boundaries : InversionList) (point : Nat) : Bool :=
  containsFrom false boundaries point

/-- The first two boundaries delimit the first interval of the set. -/
theorem contains_cons_cons (first last : Nat) (rest : InversionList) (point : Nat) :
    contains (first :: last :: rest) point =
      if point < first then false else if point < last then true else contains rest point :=
  rfl

end InversionList

end KeywordBridge
