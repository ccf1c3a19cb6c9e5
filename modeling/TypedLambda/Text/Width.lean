/-
How many columns a text takes.

Most characters take one column.  The wide characters of East Asian scripts and the
pictograms take two; control characters, marks and invisible format characters take none.

Two characters act on their neighbours.  A joiner makes one pictogram of two, so what
follows it takes no column.  A selector asks for the pictogram of the symbol before it,
which then takes two columns if it has one.  The symbol may stand further back, with
characters of no column in between, and it widens once.

A cluster is a character that takes columns, with everything after it that does not add
one of its own.  Cutting a text at a column keeps whole clusters; where the column falls
inside a wide one, a blank stands for its first half.
-/
import TypedLambda.Text.Range
import TypedLambda.Text.Width.Table

namespace TypedLambda.Text

/-! ### Single characters -/

def charWidth (c : Char) : Nat :=
  let n := c.toNat
  if n < 32 ∨ (127 ≤ n ∧ n < 160) then 0
  else if n < 160 then 1
  else if within Width.zeroRanges c then 0
  else if within Width.wideRanges c then 2
  else 1

def joiner : Char := '\u200d'

/-- Asks for the pictogram of a symbol. -/
def selector : Char := '\ufe0f'

/-- The columns a selector adds to the symbol it follows. -/
def widening : Option Char → Nat
  | some c => if within Width.widenedRanges c then 1 else 0
  | none => 0

/-! ### Texts -/

/-- The columns of a text, given the last character before it that a selector could widen. -/
def columnsAfter : Option Char → List Char → Nat
  | _, [] => 0
  | last, [c] =>
    if c = joiner then 0 else if c = selector then widening last else charWidth c
  | last, c :: d :: cs =>
    if c = joiner then columnsAfter last cs
    else if c = selector then widening last + columnsAfter none (d :: cs)
    else if charWidth c = 0 then columnsAfter last (d :: cs)
    else charWidth c + columnsAfter (some c) (d :: cs)

def columns (cs : List Char) : Nat :=
  columnsAfter none cs

def width (s : String) : Nat :=
  columns s.toList

/-! ### Clusters -/

structure Cluster where
  chars : List Char
  columns : Nat
  deriving DecidableEq

/-- Adds characters that take no column of their own, and perhaps a column, to the last cluster. -/
def Cluster.extendLast (cs : List Char) (more : Nat) : List Cluster → List Cluster
  | [] => [⟨cs, 0⟩]
  | k :: ks => ⟨k.chars ++ cs, k.columns + more⟩ :: ks

/-- The clusters of a text after those already found, which are given last first. -/
def Cluster.after : Option Char → List Cluster → List Char → List Cluster
  | _, found, [] => found.reverse
  | last, found, [c] =>
    if c = selector then (extendLast [c] (widening last) found).reverse
    else if charWidth c = 0 then (extendLast [c] 0 found).reverse
    else (⟨[c], charWidth c⟩ :: found).reverse
  | last, found, c :: d :: cs =>
    if c = joiner ∧ found ≠ [] then after last (extendLast [c, d] 0 found) cs
    else if c = selector then
      after none (extendLast [c] (widening last) found) (d :: cs)
    else if charWidth c = 0 then after last (extendLast [c] 0 found) (d :: cs)
    else after (some c) (⟨[c], charWidth c⟩ :: found) (d :: cs)

def clusters (cs : List Char) : List Cluster :=
  Cluster.after none [] cs

/-- The clusters that fit, with a blank for the half of one that does not. -/
def cutClusters : Nat → List Cluster → List Char
  | _, [] => []
  | room, k :: ks =>
    if k.columns ≤ room ∧ 0 < room then k.chars ++ cutClusters (room - k.columns) ks
    else if 0 < room then [' '] else []

/-- The first columns of a text that has more. -/
def cutColumns (room : Nat) (cs : List Char) : List Char :=
  cutClusters room (clusters cs)

end TypedLambda.Text
