/-
Reading a number or a truth value from a text.

A number may stand between blanks, may have a sign and leading zeros, may group its
digits with single underscores and may end in a point and zeros, at least one of them.
What is left must be a plain decimal integer: an optional minus sign and digits, the
first of them no zero unless it is alone.  Underscores among the leading zeros go with
them, and a minus sign may stand after the leading zeros as well as before them.

A truth value is one of six words for each of the two, in any case and without blanks.
-/
import TypedLambda.Text.Blank
import TypedLambda.Text.Split

namespace TypedLambda.Settings

/-! ### Numbers -/

/-- The value of decimal digits that follow a value. -/
def digitsValue? : List Char → Nat → Option Nat
  | [], n => some n
  | c :: cs, n => if c.isDigit then digitsValue? cs (10 * n + (c.toNat - '0'.toNat)) else none

/-- Digits without a leading zero. -/
def plainNat? : List Char → Option Nat
  | [] => none
  | ['0'] => some 0
  | '0' :: _ => none
  | cs => digitsValue? cs 0

def plainInt? : List Char → Option Int
  | '-' :: cs => (plainNat? cs).map fun n => -(n : Int)
  | cs => (plainNat? cs).map fun n => (n : Int)

/--
What follows a leading zero: zeros and underscores are skipped up to the first other digit
or a minus sign; a point keeps the character before it, and at the end the last character
is kept.
-/
def afterZero : Char → List Char → Option (List Char)
  | last, [] => some [last]
  | last, c :: cs =>
    if c = '0' ∨ c = '_' then afterZero c cs
    else if c.isDigit ∨ c = '-' then some (c :: cs)
    else if c = '.' then some (last :: c :: cs)
    else none

def dropLeadingZeros : List Char → Option (List Char)
  | [] => none
  | c :: cs =>
    if c = '0' then afterZero c cs
    else if c.isDigit then some (c :: cs)
    else none

/-- Takes away a point with nothing but zeros after it, and at least one. -/
def dropZeroFraction (cs : List Char) : List Char :=
  match Text.cutAt '.' cs with
  | some (whole, '0' :: zeros) => if zeros.all (· == '0') then whole else cs
  | _ => cs

/-- Whether two underscores stand next to each other. -/
def hasDoubleUnderscore : List Char → Bool
  | '_' :: '_' :: _ => true
  | _ :: cs => hasDoubleUnderscore cs
  | [] => false

/-- Takes away the underscores, if each stands alone and inside. -/
def dropUnderscores (cs : List Char) : List Char :=
  if cs.head? = some '_' ∨ cs.getLast? = some '_' ∨ hasDoubleUnderscore cs then cs
  else cs.filter (· ≠ '_')

/-- A number without a sign, freed of what may stand inside it. -/
def tidyDigits (cs : List Char) : Option (List Char) :=
  (dropLeadingZeros cs).map fun cs => dropUnderscores (dropZeroFraction cs)

/-- A number freed of what may stand around and inside it. -/
def tidyNumber (cs : List Char) : Option (List Char) :=
  match Text.trimBy Text.isSpace cs with
  | '+' :: cs => tidyDigits cs
  | '-' :: cs => (tidyDigits cs).map ('-' :: ·)
  | cs => tidyDigits cs

def readInt? (s : String) : Option Int :=
  (plainInt? s.toList).or ((tidyNumber s.toList).bind plainInt?)

/-! ### Truth values -/

def trueWords : List String := ["1", "t", "y", "on", "yes", "true"]

def falseWords : List String := ["0", "f", "n", "no", "off", "false"]

def readBool? (s : String) : Option Bool :=
  let word := String.ofList (s.toList.map Char.toLower)
  if trueWords.contains word then some true
  else if falseWords.contains word then some false
  else none

end TypedLambda.Settings
