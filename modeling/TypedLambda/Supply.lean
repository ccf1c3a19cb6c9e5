/-
Supplies of fresh names.

A supply hands out `base_n`, where `n` counts the names it has handed out since it
was made or last reset.  The number is what keeps the names apart, whatever the bases
are: it stands after the last underscore, so two names with different numbers differ.
Nothing is promised against names that were not drawn from the supply; whoever needs
that draws until a name is free.

One supply is shared by all operations on terms.  Others may be opened beside it, and
each counts for itself.
-/

namespace TypedLambda

structure Supply where
  /-- The number that the next name ends in. -/
  next : Nat := 0
  deriving DecidableEq, Inhabited

namespace Supply

/-- The name with a given number. -/
def nameAt (base : String) (n : Nat) : String :=
  base ++ "_" ++ n.repr

/-- A name and the supply after it was drawn. -/
def fresh (s : Supply) (base : String) : String × Supply :=
  (nameAt base s.next, ⟨s.next + 1⟩)

def reset (_ : Supply) : Supply := ⟨0⟩

/-- The supply after a number of draws. -/
def skip (s : Supply) (n : Nat) : Supply := ⟨s.next + n⟩

/-- Draws until a name is outside `avoid`, giving up after `fuel` failures. -/
def search (base : String) (avoid : List String) : Nat → Supply → String × Supply
  | 0, s => s.fresh base
  | fuel + 1, s =>
    if (s.fresh base).1 ∈ avoid then search base avoid fuel (s.fresh base).2 else s.fresh base

/--
The first name outside `avoid`.  Names drawn one after another differ, so one more draw
than there are names to avoid always finds one.
-/
def freshOutside (s : Supply) (base : String) (avoid : List String) : String × Supply :=
  search base avoid avoid.length s

end Supply

/-! ### Several supplies -/

/-- The shared supply and the ones opened beside it, oldest first. -/
structure Supplies where
  shared : Supply := {}
  opened : List Supply := []
  deriving Inhabited

namespace Supplies

/-- Which supply is meant. -/
inductive Key where
  | shared
  | opened (index : Nat)
  deriving DecidableEq

/-- Opens a supply and tells its index. -/
def create (ss : Supplies) : Nat × Supplies :=
  (ss.opened.length, { ss with opened := ss.opened ++ [{}] })

def get? (ss : Supplies) : Key → Option Supply
  | .shared => some ss.shared
  | .opened i => ss.opened[i]?

def set (ss : Supplies) (s : Supply) : Key → Supplies
  | .shared => { ss with shared := s }
  | .opened i => { ss with opened := ss.opened.set i s }

/-- A name from one supply; nothing happens if there is no such supply. -/
def fresh (ss : Supplies) (key : Key) (base : String) : Option String × Supplies :=
  match ss.get? key with
  | none => (none, ss)
  | some s => (some (s.fresh base).1, ss.set (s.fresh base).2 key)

def reset (ss : Supplies) (key : Key) : Supplies :=
  match ss.get? key with
  | none => ss
  | some s => ss.set s.reset key

end Supplies

end TypedLambda
