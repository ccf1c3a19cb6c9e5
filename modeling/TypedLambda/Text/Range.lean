/-
Classes of characters given by ranges.

A large class is stored as closed ranges of code points, and a character belongs to it
if it lies in one of them.  Nothing is asked of the order of the ranges.
-/

namespace TypedLambda.Text

/-- Whether a character lies in one of some closed ranges of code points. -/
def within (ranges : Array (Nat × Nat)) (c : Char) : Bool :=
  ranges.any fun r => r.1 ≤ c.toNat && c.toNat ≤ r.2

end TypedLambda.Text
