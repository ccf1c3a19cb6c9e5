/-
Literal values: numbers, texts, the constants, and tuples, sets and tables of them.

The question answered here is only whether a text is a literal; its value is not needed.

A number may have a sign, and to a real number, signed or not, an imaginary one may be
added, or subtracted from it; no other sum is a literal.  Brackets round a value change
nothing.  What is in a set, or stands before a colon in a table, must not be a set or a
table itself, nor a tuple that holds one.
-/
import TypedLambda.Text.Literal.Token

namespace TypedLambda.Text.Literal

/-- What must be known of a value to tell where it may stand. -/
inductive Kind where
  | real
  | signedReal
  | imaginary
  /-- Any other value that may be in a set. -/
  | key
  | container
  deriving DecidableEq

/-- Whether a value may be in a set, or stand before a colon. -/
def Kind.isKey (k : Kind) : Bool :=
  k != .container

def tupleKind (allKeys : Bool) : Kind :=
  if allKeys then .key else .container

/-- The tokens after further texts of the same sort. -/
def skipTexts (bytes : Bool) : List Token → Option (List Token)
  | .text b :: ts => if b = bytes then skipTexts bytes ts else none
  | ts => some ts

/-- A sign before a number. -/
def Kind.signed? : Kind → Option Kind
  | real => some signedReal
  | imaginary => some key
  | _ => none

def isSign (c : Char) : Bool :=
  c == '+' || c == '-'

def constants : List String := ["None", "True", "False"]

/-! ### Reading

Every reader here gives what it read and the tokens after it; the first argument bounds the
depth of its calls.
-/

mutual

/-- A value without a sign. -/
def atom? : Nat → List Token → Option (Kind × List Token)
  | 0, _ => none
  | n + 1, ts =>
    match ts with
    | .number imaginary :: ts => some (if imaginary then .imaginary else .real, ts)
    | .text bytes :: ts => (skipTexts bytes ts).map fun ts => (.key, ts)
    | .dots :: ts => some (.key, ts)
    | .name "set" :: .symbol '(' :: .symbol ')' :: ts => some (.container, ts)
    | .name word :: ts => if constants.contains word then some (.key, ts) else none
    | .symbol '(' :: .symbol ')' :: ts => some (.key, ts)
    | .symbol '(' :: ts => do
      let (first, ts) ← item? n ts
      match ts with
      | .symbol ')' :: ts => some (first, ts)
      | ts => do
        let (allKeys, ts) ← moreItems? n ')' ts
        some (tupleKind (first.isKey && allKeys), ts)
    | .symbol '\x7b' :: .symbol '\x7d' :: ts => some (.container, ts)
    | .symbol '\x7b' :: ts => do
      let (first, ts) ← item? n ts
      if first.isKey then
        let (allKeys, ts) ← match ts with
          | .symbol ':' :: ts => do moreEntries? n (← item? n ts).2
          | ts => moreItems? n '\x7d' ts
        if allKeys then some (.container, ts) else none
      else none
    | _ => none

/-- A value, perhaps with a sign, or a real number with an imaginary one added to it. -/
def item? : Nat → List Token → Option (Kind × List Token)
  | 0, _ => none
  | n + 1, ts => do
    let (first, ts) ← match ts with
      | .symbol sign :: rest =>
        if isSign sign then do
          let (k, ts) ← atom? n rest
          some (← k.signed?, ts)
        else atom? n ts
      | ts => atom? n ts
    match ts with
    | .symbol sign :: rest =>
      if isSign sign then
        if first = .real ∨ first = .signedReal then
          match ← atom? n rest with
          | (.imaginary, ts) => some (.key, ts)
          | _ => none
        else none
      else some (first, ts)
    | ts => some (first, ts)

/-- Further values, each after a comma, up to a closing bracket; whether all may be in a set. -/
def moreItems? : Nat → Char → List Token → Option (Bool × List Token)
  | 0, _, _ => none
  | n + 1, close, ts =>
    match ts with
    | .symbol ',' :: .symbol c :: rest =>
      if c = close then some (true, rest)
      else do
        let (k, ts) ← item? n (.symbol c :: rest)
        let (allKeys, ts) ← moreItems? n close ts
        some (k.isKey && allKeys, ts)
    | .symbol ',' :: ts => do
      let (k, ts) ← item? n ts
      let (allKeys, ts) ← moreItems? n close ts
      some (k.isKey && allKeys, ts)
    | .symbol c :: ts => if c = close then some (true, ts) else none
    | _ => none

/-- Further entries of a table, up to its closing bracket. -/
def moreEntries? : Nat → List Token → Option (Bool × List Token)
  | 0, _ => none
  | n + 1, ts =>
    match ts with
    | .symbol '\x7d' :: ts | .symbol ',' :: .symbol '\x7d' :: ts => some (true, ts)
    | .symbol ',' :: ts => do
      let (k, ts) ← item? n ts
      match ts with
      | .symbol ':' :: ts => do
        let (allKeys, ts) ← moreEntries? n (← item? n ts).2
        some (k.isKey && allKeys, ts)
      | _ => none
    | _ => none

end

/-- Values with commas between them, perhaps one after the last, up to the end of the text. -/
def isRow : Nat → List Token → Bool
  | 0, _ => false
  | n + 1, ts =>
    match item? (2 * ts.length + 2) ts with
    | some (_, .symbol ',' :: ts) => ts.all (· == .lineEnd) || isRow n ts
    | some (_, ts) => ts.all (· == .lineEnd)
    | none => false

end Literal

def isLiteral (cs : List Char) : Bool :=
  match Literal.tokens? cs with
  | some ts => Literal.isRow ts.length ts
  | none => false

end TypedLambda.Text
