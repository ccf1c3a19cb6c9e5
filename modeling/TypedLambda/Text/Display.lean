/-
A text as it appears on a screen, line by line.

The characters that would move the cursor back or ring a bell are left out, a tab goes
on to the next multiple of eight columns, and blanks at the end of a line are not kept.
-/
import TypedLambda.Text.Blank
import TypedLambda.Text.Split
import TypedLambda.Text.Width

namespace TypedLambda.Text

/-- Bell, backspace, vertical tab, form feed and carriage return. -/
def isCursorControl (c : Char) : Bool :=
  let n := c.toNat
  n == 7 || n == 8 || n == 11 || n == 12 || n == 13

def withoutCursorControls (s : String) : List Char :=
  s.toList.filter (!isCursorControl ·)

/-- A blank after a text that begins at a tab stop, and further ones up to the next. -/
def toTabStop (cs : List Char) : List Char :=
  let begun := cs ++ [' ']
  begun ++ List.replicate ((8 - columns begun % 8) % 8) ' '

/-- What stands between tabs, set from tab stop to tab stop. -/
def setAtTabStops : List (List Char) → List Char
  | [] => []
  | [part] => part
  | part :: next :: parts => toTabStop part ++ setAtTabStops (next :: parts)

/-- A line with blanks in place of its tabs. -/
def expandTabs (line : List Char) : List Char :=
  setAtTabStops (splitAt '\t' line)

def displayLines (s : String) : List String :=
  (splitAt '\n' (withoutCursorControls s)).map fun line => trimEnd (String.ofList (expandTabs line))

end TypedLambda.Text
