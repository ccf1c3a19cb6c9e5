/-
Pictograms that are called by name.

A name between two colons, with no blank inside, stands for a pictogram, whatever the case
of its letters.  After the name `-text` or `-emoji` may ask for one of the two forms that a
pictogram can have.  What is not known as a name stays as it was written, and then its
second colon does not begin another name.
-/
import TypedLambda.Text.Blank
import TypedLambda.Text.Case
import TypedLambda.Text.Pictogram.Names
import TypedLambda.Text.Split

namespace TypedLambda.Text

namespace Pictogram

/-! ### Names -/

structure Entry where
  pictogram : List Char
  names : List (List Char)

/-- An entry from its text, which is a pictogram and its names with blanks between. -/
def Entry.ofText? (cs : List Char) : Option Entry :=
  match splitAt ' ' (trimBy isBlank cs) with
  | [] => none
  | pictogram :: names => some ⟨pictogram, names⟩

def entries : List Entry :=
  entryLines.flatMap fun line => (splitAt ',' line.toList).filterMap Entry.ofText?

def tonedNames : List (List Char) :=
  tonedLines.flatMap fun line => (splitAt ',' line.toList).map (trimBy isBlank)

/-- The skin tones: what they add to a name, and the character that sets them. -/
def tones : List (List Char × Char) :=
  [("_light_skin_tone".toList, '🏻'), ("_medium-light_skin_tone".toList, '🏼'),
    ("_medium_skin_tone".toList, '🏽'), ("_medium-dark_skin_tone".toList, '🏾'),
    ("_dark_skin_tone".toList, '🏿')]

/-- The tone follows the first character and takes the place of its selector. -/
def withTone (tone : Char) : List Char → List Char
  | c :: '\ufe0f' :: cs => c :: tone :: cs
  | c :: cs => c :: tone :: cs
  | [] => []

def findPlain? (name : List Char) : Option (List Char) :=
  (entries.find? fun e => e.names.contains name).map (·.pictogram)

def findToned? (name : List Char) : Option (List Char) :=
  tones.findSome? fun (ending, tone) =>
    match ending.isSuffixOf? name with
    | some base => if tonedNames.contains base then (findPlain? base).map (withTone tone) else none
    | none => none

/-- The pictogram of a name in lower case. -/
def find? (name : List Char) : Option (List Char) :=
  (findPlain? name).or (findToned? name)

/-- The endings that ask for a form, and the character that sets it. -/
def forms : List (List Char × Char) :=
  [("-text".toList, '\ufe0e'), ("-emoji".toList, '\ufe0f')]

/-- A name without the ending that asks for a form, and what sets the form. -/
def splitForm (name : List Char) : List Char × List Char :=
  let found := forms.findSome? fun (ending, form) =>
    (ending.isSuffixOf? name).map fun base => (base, [form])
  found.getD (name, [])

/-! ### Texts -/

/-- What stands for a name that was written between colons. -/
def resolve (name : List Char) : List Char :=
  let (base, form) := splitForm name
  match find? (toLower (String.ofList base)).toList with
  | some pictogram => pictogram ++ form
  | none => ':' :: name ++ [':']

/-- Resolves the names in a text; `begun` is what follows a colon just read, backwards. -/
def resolveFrom : Option (List Char) → List Char → List Char
  | none, [] => []
  | some begun, [] => ':' :: begun.reverse
  | none, c :: cs => if c = ':' then resolveFrom (some []) cs else c :: resolveFrom none cs
  | some begun, c :: cs =>
    if c = ':' then resolve begun.reverse ++ resolveFrom none cs
    else if isBlank c then ':' :: begun.reverse ++ c :: resolveFrom none cs
    else resolveFrom (some (c :: begun)) cs

end Pictogram

/-- A text with pictograms in place of their names. -/
def withPictograms (cs : List Char) : List Char :=
  Pictogram.resolveFrom none cs

end TypedLambda.Text
