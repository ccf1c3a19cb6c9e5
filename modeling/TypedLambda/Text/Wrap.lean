/-
Setting a line in a number of columns.

A line is broken before a word that does not fit, the blanks between words staying at the
end of the line before.  Those blanks may hang over the edge; they are taken away as far
as the line has more characters than there are columns.  A word that is too long for any
line stands on one of its own and is cut, with an ellipsis in the last column.
-/
import TypedLambda.Text.Blank
import TypedLambda.Text.Width

namespace TypedLambda.Text

/-! ### Words -/

/-- Whether two neighbours belong to one word, to which the blanks after it are counted. -/
def sameWord (c d : Char) : Bool :=
  !isBlank c || isBlank d

/-- The runs of neighbours that belong together. -/
def runs : List Char → List (List Char)
  | [] => []
  | c :: cs =>
    match runs cs with
    | (d :: run) :: rest =>
      if sameWord c d then (c :: d :: run) :: rest else [c] :: (d :: run) :: rest
    | rest => [c] :: rest

/-- The words of a line.  Blanks before the first belong to it. -/
def wordsOf (line : List Char) : List (List Char) :=
  match runs line with
  | first :: second :: rest =>
    if first.all isBlank then (first ++ second) :: rest else first :: second :: rest
  | words => words

/-! ### Lines -/

/-- The lines that words fill after a line that is begun and takes some columns. -/
def fillLines (room : Nat) : List Char → Nat → List (List Char) → List (List Char)
  | line, _, [] => [line]
  | line, taken, word :: words =>
    if taken + columns (trimEndBy isBlank word) ≤ room then
      fillLines room (line ++ word) (taken + columns word) words
    else line :: fillLines room word (columns word) words

/-- Takes away blanks at the end, no more than there are characters beyond the columns. -/
def dropHangingBlanks (room : Nat) (line : List Char) : List Char :=
  let blanks := line.length - (trimEndBy isBlank line).length
  line.take (line.length - min blanks (line.length - room))

/-- Cuts a line that does not fit. -/
def cutLine (room : Nat) (line : List Char) : List Char :=
  if columns line ≤ room then line else cutColumns (room - 1) line ++ ['…']

def wrapLine (room : Nat) (line : List Char) : List (List Char) :=
  let filled := match wordsOf line with
    | [] => [[]]
    | word :: words => fillLines room word (columns word) words
  filled.map fun line => cutLine room (dropHangingBlanks room line)

end TypedLambda.Text
