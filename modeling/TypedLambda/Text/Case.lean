/-
Lower case and upper case of a whole text.

A text is changed letter by letter, and a letter may become several characters, so
the length is not kept.  The one letter whose lower case depends on its neighbours
is the capital sigma: at the end of a word it becomes the final form.  A word ends
where a cased letter stands before and none stands after, marks and signs inside
words being passed over on both sides.

Below code point 128 the case of a letter is the one every character set agrees on,
and no table is read there.
-/
import TypedLambda.Text.Case.Table
import TypedLambda.Text.Range

namespace TypedLambda.Text

namespace Case

/-- The partner of a letter that belongs to one of the stretches. -/
def shifted? (table : Array Stretch) (n : Nat) : Option Nat :=
  table.findSome? fun s =>
    if s.first ≤ n ∧ n ≤ s.last ∧ (n - s.first) % s.step = 0 then
      some ((n : Int) + s.shift).toNat
    else none

/-- What a character from 128 on turns into: a sequence, its partner, or itself. -/
def mapped (sequences : Array (Nat × List Nat)) (stretches : Array Stretch) (c : Char) :
    List Char :=
  match sequences.find? (·.1 == c.toNat) with
  | some (_, codes) => codes.map Char.ofNat
  | none => [((shifted? stretches c.toNat).map Char.ofNat).getD c]

def lowerChar (c : Char) : List Char :=
  if c.toNat < 128 then [c.toLower] else mapped lowerSequences lowerStretches c

def upperChar (c : Char) : List Char :=
  if c.toNat < 128 then [c.toUpper] else mapped upperSequences upperStretches c

def isCased (c : Char) : Bool :=
  if c.toNat < 128 then c.isAlpha else within casedRanges c

def isIgnorable (c : Char) : Bool :=
  if c.toNat < 128 then "'.:^\x60".toList.contains c else within ignorableRanges c

/-- Whether the first character that is not passed over is a cased letter. -/
def startsCased (cs : List Char) : Bool :=
  match cs.dropWhile isIgnorable with
  | [] => false
  | c :: _ => isCased c

/-- A capital sigma in lower case, from what stands before it (nearest first) and after it. -/
def lowerSigma (before after : List Char) : Char :=
  if startsCased before && !startsCased after then 'ς' else 'σ'

def lowerFrom : List Char → List Char → List Char
  | _, [] => []
  | before, c :: rest =>
    (if c = 'Σ' then [lowerSigma before rest] else lowerChar c) ++ lowerFrom (c :: before) rest

end Case

def toLower (s : String) : String :=
  String.ofList (Case.lowerFrom [] s.toList)

def toUpper (s : String) : String :=
  String.ofList (s.toList.flatMap Case.upperChar)

end TypedLambda.Text
