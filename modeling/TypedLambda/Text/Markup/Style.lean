/-
Styles, and the form in which they are compared.

A style is said in words: attributes, `not` before an attribute to rule it out, a colour,
`on` before a colour for the background, and `link` before an address.  The words may be in
any case, but not an attribute after `not`; of attributes, colours and links the last one
said counts.

Two tags are of the same style if their styles are written alike: attributes in a fixed
order and by their long names, then the colours, then the link.  What is not understood as
a style is compared by its text in lower case.
-/
import TypedLambda.Text.Blank
import TypedLambda.Text.Markup.Colour

namespace TypedLambda.Text.Markup

/-- The attributes of a style, with the short forms of their names. -/
def attributes : List (String × List String) :=
  [("bold", ["b"]), ("dim", ["d"]), ("italic", ["i"]), ("underline", ["u"]), ("blink", []),
    ("blink2", []), ("reverse", ["r"]), ("conceal", ["c"]), ("strike", ["s"]),
    ("underline2", ["uu"]), ("frame", []), ("encircle", []), ("overline", ["o"])]

def readAttribute (word : String) : Except StyleFault String :=
  match attributes.find? fun a => a.1 == word || a.2.contains word with
  | some a => .ok a.1
  | none => .error .notUnderstood

structure Style where
  /-- The attributes that are set, or that are ruled out, the last one said first. -/
  settings : List (String × Bool) := []
  colour : Option String := none
  background : Option String := none
  link : Option String := none
  deriving DecidableEq

namespace Style

/-- A style with a word that stands by itself. -/
def addWord (word : String) (s : Style) : Except StyleFault Style :=
  match readAttribute (toLower word) with
  | .ok a => .ok { s with settings := (a, true) :: s.settings }
  | .error _ => do return { s with colour := some (← Colour.read word) }

/-- A style with what a word says of the next one; none if it stands by itself. -/
def addPair? (word next : String) (s : Style) : Option (Except StyleFault Style) :=
  match toLower word with
  | "on" => some do return { s with background := some (← Colour.read next) }
  | "not" => some do return { s with settings := (← readAttribute next, false) :: s.settings }
  | "link" => some (.ok { s with link := some next })
  | _ => none

/-- A style with further words. -/
def addWords : Style → List String → Except StyleFault Style
  | s, [] => .ok s
  | s, [word] => if (s.addPair? word "").isSome then .error .notUnderstood else s.addWord word
  | s, word :: next :: words =>
    match s.addPair? word next with
    | some paired => do addWords (← paired) words
    | none => do addWords (← s.addWord word) (next :: words)

def read (cs : List Char) : Except StyleFault Style :=
  if trimBy isBlank cs = "none".toList then .ok {}
  else
    let spaced := cs.map fun c => if isBlank c then ' ' else c
    addWords {} (((splitAt ' ' spaced).filter (· ≠ [])).map String.ofList)

/-- The words of a style, each attribute as it was said last. -/
def toWords (s : Style) : List String :=
  attributes.filterMap (fun a => (s.settings.lookup a.1).map fun b =>
    if b then a.1 else "not " ++ a.1)
    ++ s.colour.toList
    ++ (s.background.map ("on " ++ ·)).toList
    ++ (s.link.map ("link " ++ ·)).toList

def written (s : Style) : String :=
  if s.toWords = [] then "none" else " ".intercalate s.toWords

end Style

/-- The form in which the style of a tag is compared. -/
def comparedStyle (cs : List Char) : Except StyleFault String :=
  match Style.read cs with
  | .ok s => .ok s.written
  | .error .notUnderstood => .ok (toLower (trim (String.ofList cs)))
  | .error .missingNumber => .error .missingNumber

end TypedLambda.Text.Markup
