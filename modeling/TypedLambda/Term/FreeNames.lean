/-
The free names of a term.

A name is free where it is used outside every binder for it.  A stray text has no
names, so `freeNames` is total; `freeNames?` is the checked form, which refuses a term
with a stray text anywhere in it.  Of several stray texts it reports the first in
reading order, and it may look for that one beforehand because reading a term has no
other effect.
-/
import TypedLambda.Term

namespace TypedLambda.Term

mutual

/-- The free names from left to right, each as often as it is used. -/
def freeNames : Term → List String
  | int _ | bool _ | stray _ => []
  | var x => [x]
  | ite c t e => freeNames c ++ freeNames t ++ freeNames e
  | prim _ ts => freeNamesAll ts
  | app f ts => freeNames f ++ freeNamesAll ts
  | fn ps b => (freeNames b).filter (· ∉ ps.map (·.1))
  | fix f _ b => (freeNames b).filter (· ≠ f)
  | letIn x v b => freeNames v ++ (freeNames b).filter (· ≠ x)

def freeNamesAll : List Term → List String
  | [] => []
  | t :: ts => freeNames t ++ freeNamesAll ts

end

theorem mem_freeNamesAll_iff {x : String} {ts : List Term} :
    x ∈ freeNamesAll ts ↔ ∃ t ∈ ts, x ∈ t.freeNames := by
  induction ts with
  | nil => simp [freeNamesAll]
  | cons t ts ih => simp [freeNamesAll, ih]

mutual

/-- The first stray text in reading order. -/
def firstStray? : Term → Option String
  | int _ | bool _ | var _ => none
  | stray s => some s
  | ite c t e => ((firstStray? c).or (firstStray? t)).or (firstStray? e)
  | prim _ ts => firstStrayOf? ts
  | app f ts => (firstStray? f).or (firstStrayOf? ts)
  | fn _ b | fix _ _ b => firstStray? b
  | letIn _ v b => (firstStray? v).or (firstStray? b)

def firstStrayOf? : List Term → Option String
  | [] => none
  | t :: ts => (firstStray? t).or (firstStrayOf? ts)

end

theorem firstStrayOf?_eq_none_iff {ts : List Term} :
    firstStrayOf? ts = none ↔ ∀ t ∈ ts, t.firstStray? = none := by
  induction ts with
  | nil => simp [firstStrayOf?]
  | cons t ts ih => simp [firstStrayOf?, ih]

def freeNames? (t : Term) : Except Fault (List String) :=
  match t.firstStray? with
  | some s => .error (.unknownTerm s)
  | none => .ok t.freeNames

/-- A list of names as a set: each name once, in the order of its code points. -/
def sortedNames (names : List String) : List String :=
  (names.mergeSort fun a b => decide (a ≤ b)).eraseDups

end TypedLambda.Term
