/-
Blank characters, and what is left of a text between its blanks.

Two classes are in use.  The wider one adds the four information separators to the
blanks of the character standard; it decides what is trimmed from the parts of a log
filter.  The narrower one decides what may stand around a number.
-/

namespace TypedLambda.Text

/-- The blanks of the character standard. -/
def isSpace (c : Char) : Bool :=
  let n := c.toNat
  (9 ≤ n && n ≤ 13) || n == 0x20 || n == 0x85 || n == 0xA0 || n == 0x1680
    || (0x2000 ≤ n && n ≤ 0x200A) || n == 0x2028 || n == 0x2029 || n == 0x202F || n == 0x205F
    || n == 0x3000

/-- A blank or an information separator. -/
def isBlank (c : Char) : Bool :=
  isSpace c || (0x1C ≤ c.toNat && c.toNat ≤ 0x1F)

/-- The characters left when those of a class are taken away at the end. -/
def trimEndBy (p : Char → Bool) (cs : List Char) : List Char :=
  (cs.reverse.dropWhile p).reverse

/-- The characters left when those of a class are taken away at both ends. -/
def trimBy (p : Char → Bool) (cs : List Char) : List Char :=
  trimEndBy p (cs.dropWhile p)

def trim (s : String) : String :=
  String.ofList (trimBy isBlank s.toList)

/-- Trailing blanks taken away, as on every line that is shown. -/
def trimEnd (s : String) : String :=
  String.ofList (trimEndBy isBlank s.toList)

end TypedLambda.Text
