/-
The tokens of literal values.

Blanks part tokens, a comment runs to the end of its line, and a backslash before a line
feed joins two lines.  A line feed is a token of its own outside brackets and a blank
inside them; brackets may be nested two hundred deep.

A token need not be kept in full to tell whether a text is a literal: of a number it is
kept whether it is imaginary, of a text whether it is one of bytes.
-/
import TypedLambda.Text.Letter

namespace TypedLambda.Text.Literal

inductive Token where
  | number (imaginary : Bool)
  | text (bytes : Bool)
  | name (s : String)
  | symbol (c : Char)
  | dots
  | lineEnd
  deriving DecidableEq

/-- A part of the text that was understood, and the rest. -/
abbrev Reader (α : Type) := List Char → Option (α × List Char)

def startsName (c : Char) : Bool :=
  c == '_' || c.isAlpha || (128 ≤ c.toNat && isLetterOrNumeral c)

def continuesName (c : Char) : Bool :=
  c == '_' || isLetterOrNumeral c

/-- Digits with single underscores between them, and what follows. -/
def digits (p : Char → Bool) : List Char → List Char × List Char
  | c :: '_' :: d :: cs =>
    if p c && p d then
      let (more, rest) := digits p (d :: cs)
      (c :: more, rest)
    else if p c then ([c], '_' :: d :: cs)
    else ([], c :: '_' :: d :: cs)
  | c :: cs =>
    if p c then
      let (more, rest) := digits p cs
      (c :: more, rest)
    else ([], c :: cs)
  | [] => ([], [])

def isBinary (c : Char) : Bool := c == '0' || c == '1'

def isOctal (c : Char) : Bool := '0' ≤ c && c ≤ '7'

def isHex (c : Char) : Bool := c.isDigit || ('a' ≤ c.toLower && c.toLower ≤ 'f')

/-- What follows digits, of which there must be one. -/
def afterDigits? (p : Char → Bool) (cs : List Char) : Option (List Char) :=
  let (written, rest) := digits p cs
  if written = [] then none else some rest

/-- What follows an exponent. -/
def exponent? : List Char → Option (List Char)
  | e :: sign :: cs =>
    if e.toLower = 'e' then
      afterDigits? Char.isDigit (if sign = '+' ∨ sign = '-' then cs else sign :: cs)
    else none
  | _ => none

/-- What follows a number in base two, eight or sixteen, from behind its zero. -/
def based? : List Char → Option (List Char)
  | b :: cs =>
    let cs := match cs with
      | '_' :: cs => cs
      | cs => cs
    match b.toLower with
    | 'b' => afterDigits? isBinary cs
    | 'o' => afterDigits? isOctal cs
    | 'x' => afterDigits? isHex cs
    | _ => none
  | [] => none

/-- A decimal number.  Only zero, fractions, powers and imaginary numbers begin with a zero. -/
def decimal? (cs : List Char) : Option (Bool × List Char) :=
  let (whole, rest) := digits Char.isDigit cs
  let (fraction?, rest) := match rest with
    | '.' :: cs => let (fraction, rest) := digits Char.isDigit cs; (some fraction, rest)
    | cs => (none, cs)
  let power? := exponent? rest
  let rest := power?.getD rest
  let zeroOk := fraction?.isSome || power?.isSome || whole.head? != some '0' || whole.all (· == '0')
  if whole = [] ∧ fraction?.getD [] = [] then none
  else
    match rest with
    | 'j' :: rest | 'J' :: rest => some (true, rest)
    | rest => if zeroOk then some (false, rest) else none

/-- A number, which no letter may follow. -/
def number? : Reader Token := fun cs =>
  let read := match cs with
    | '0' :: rest => ((based? rest).map fun rest => (false, rest)).or (decimal? cs)
    | _ => decimal? cs
  read.bind fun (imaginary, rest) =>
    if rest.head?.any continuesName then none else some (.number imaginary, rest)

/-- Characters after a backslash: how many hexadecimal digits must follow them. -/
def escapeDigits (bytes : Bool) (c : Char) : Nat :=
  if c = 'x' then 2 else if bytes then 0 else if c = 'u' then 4 else if c = 'U' then 8 else 0

def hexValue (cs : List Char) : Nat :=
  cs.foldl (fun n c => 16 * n + (if c.isDigit then c.toNat - 48 else c.toLower.toNat - 87)) 0

/-- Whether the name of a character follows, in braces.  It is not looked up. -/
def startsCharName : List Char → Bool
  | '\x7b' :: cs =>
    let name := cs.takeWhile (· ≠ '\x7d')
    name ≠ [] && name.length < cs.length
      && name.all fun c => c.isAlphanum || c == ' ' || c == '-'
  | _ => false

/-- Whether what follows a backslash is an escape that can be read. -/
def escapeOk (bytes : Bool) (c : Char) (cs : List Char) : Bool :=
  let wanted := escapeDigits bytes c
  let written := cs.take wanted
  written.length == wanted && written.all isHex && hexValue written ≤ 0x10FFFF
    && (bytes || c != 'N' || startsCharName cs)

/-- The rest after a text, which ends with the given quotes. -/
def textEnd? (raw bytes : Bool) (quote : Char) (triple : Bool) : List Char → Option (List Char)
  | [] => none
  | '\\' :: c :: cs =>
    if (raw || escapeOk bytes c cs) && !(bytes && 128 ≤ c.toNat) then
      textEnd? raw bytes quote triple cs
    else none
  | c :: cs =>
    if c = quote ∧ !triple then some cs
    else if c = quote ∧ cs.take 2 = [quote, quote] then some (cs.drop 2)
    else if (c = '\n' ∧ !triple) ∨ c = '\\' ∨ (bytes ∧ 128 ≤ c.toNat) then none
    else textEnd? raw bytes quote triple cs

/-- The letters that may stand before the quotes of a text: whether it is raw, and of bytes. -/
def textKinds : List (String × Bool × Bool) :=
  [("", false, false), ("u", false, false), ("r", true, false), ("b", false, true),
    ("br", true, true), ("rb", true, true)]

/-- A text after the letters before it. -/
def text? (letters : List Char) : Reader Token
  | q :: cs =>
    if q = '\'' ∨ q = '"' then
      (textKinds.lookup (String.ofList (letters.map Char.toLower))).bind fun (raw, bytes) =>
        let rest := match cs with
          | c :: d :: cs =>
            if c = q ∧ d = q then textEnd? raw bytes q true cs
            else textEnd? raw bytes q false (c :: d :: cs)
          | cs => textEnd? raw bytes q false cs
        rest.map fun rest => (.text bytes, rest)
    else none
  | [] => none

/-- A name, or a text with letters before it. -/
def nameOrText? : Reader Token := fun cs =>
  let letters := cs.takeWhile continuesName
  let rest := cs.dropWhile continuesName
  match rest with
  | '\'' :: _ | '"' :: _ => text? letters rest
  | _ => some (.name (String.ofList letters), rest)

def symbols : List Char := "()\x7b\x7d,:+-".toList

/-- One token at the head of a text. -/
def token? : Reader Token
  | [] => none
  | '.' :: '.' :: '.' :: cs => some (.dots, cs)
  | c :: cs =>
    if c.isDigit ∨ c = '.' then number? (c :: cs)
    else if startsName c ∨ c = '\'' ∨ c = '"' then nameOrText? (c :: cs)
    else if symbols.contains c then some (.symbol c, cs)
    else if c = '\n' then some (.lineEnd, cs)
    else none

/-- What may stand between tokens, taken away. -/
def skip : List Char → List Char
  | '\\' :: '\n' :: cs => skip cs
  | c :: cs => if c = ' ' ∨ c = '\t' ∨ c = '\x0c' then skip cs else c :: cs
  | [] => []

/-- The tokens of a text no longer than the bound. -/
def tokensWithin : Nat → List Char → Option (List Token)
  | 0, cs => if cs = [] then some [] else none
  | n + 1, cs =>
    match skip cs with
    | [] => some []
    | '#' :: cs => tokensWithin n (cs.dropWhile (· ≠ '\n'))
    | cs => (token? cs).bind fun (t, rest) => (tokensWithin n rest).map (t :: ·)

/-- Line feeds of one kind. -/
def oneLineFeed : List Char → List Char
  | '\r' :: '\n' :: cs => '\n' :: oneLineFeed cs
  | c :: cs => (if c = '\r' then '\n' else c) :: oneLineFeed cs
  | [] => []

def opens (t : Token) : Bool := t == .symbol '(' || t == .symbol '\x7b'

def closes (t : Token) : Bool := t == .symbol ')' || t == .symbol '\x7d'

def greatestDepth : Nat := 200

/-- Drops the line ends inside brackets; none if brackets are nested too deep. -/
def joinLines : Nat → List Token → Option (List Token)
  | _, [] => some []
  | depth, t :: ts =>
    if t = .lineEnd ∧ 0 < depth then joinLines depth ts
    else if opens t ∧ depth = greatestDepth then none
    else
      let depth := if opens t then depth + 1 else if closes t then depth - 1 else depth
      (joinLines depth ts).map (t :: ·)

/-- The text from the first line on that holds more than a comment, no longer than the bound. -/
def dropComments : Nat → List Char → List Char
  | 0, cs => cs
  | n + 1, cs =>
    match cs with
    | '\n' :: cs | '\\' :: '\n' :: cs => dropComments n cs
    | '#' :: cs => dropComments n (cs.dropWhile (· ≠ '\n'))
    | cs => cs

/-- The tokens of a text that does not begin with a blank. -/
def tokens? (cs : List Char) : Option (List Token) :=
  let cs := dropComments cs.length (oneLineFeed cs)
  if cs.head? = some ' ' ∨ cs.head? = some '\t' ∨ '\x00' ∈ cs then none
  else (tokensWithin cs.length cs).bind (joinLines 0)

end TypedLambda.Text.Literal
