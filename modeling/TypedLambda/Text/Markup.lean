/-
Text with style tags.

A tag stands in square brackets and begins with a small letter or one of `#`, `/` and
`@`; it ends at the first closing bracket and holds no opening one.  Backslashes right
before a tag escape: of each pair one is kept, and an odd one makes the tag plain text.
A backslash before a bracket that opens no tag is dropped.  In plain text pictograms may
be called by name, but not across a tag.

Styles do not show here, so all that rendering keeps is the text between the tags.
Tags still have to match.  A closing tag takes away the nearest open tag of the same
style, whatever was opened after it, and one without a name takes away the nearest; if
there is none, the text is refused.  Tags may stay open.

After an equals sign a tag has a parameter.  It does not count when tags are matched.  If
the tag begins with `@` it is an action, which has to be readable when the tag is closed;
else it is painted as further words of the style.  Painting comes after reading, so a text
may be read and still be refused.

`escape` makes a text stand for itself in most cases.  It does not protect a backslash
before a bracket that opens no tag, and it doubles a single backslash at the end.
-/
import TypedLambda.Text.Markup.Action
import TypedLambda.Text.Markup.Style
import TypedLambda.Text.Pictogram

namespace TypedLambda.Text.Markup

/-! ### Reading -/

/-- A tag after its opening bracket: its inside, and the rest after the closing one. -/
def closeTag? : List Char → Option (List Char × List Char)
  | [] => none
  | c :: cs =>
    if c = ']' then some ([], cs)
    else if c = '[' then none
    else (closeTag? cs).map fun p => (c :: p.1, p.2)

/-- What a tag may begin with. -/
def opensTag (c : Char) : Bool :=
  c.isLower || c == '#' || c == '/' || c == '@'

/-- A tag at the head of a text: its inside, and the rest after it. -/
def tag? : List Char → Option (List Char × List Char)
  | '[' :: c :: cs => if opensTag c then (closeTag? cs).map fun p => (c :: p.1, p.2) else none
  | _ => none

/-- Escaped backslashes and an escaped tag are plain pieces of their own. -/
inductive Piece where
  | plain (cs : List Char)
  | tag (inside : List Char)
  deriving DecidableEq

/-- The backslashes at the head of a text: how many, and what follows them. -/
def backslashes : List Char → Nat × List Char
  | '\\' :: cs =>
    let (n, rest) := backslashes cs
    (n + 1, rest)
  | cs => (0, cs)

/-- The pieces of a tag with backslashes before it. -/
def tagPieces (escapes : Nat) (inside : List Char) : List Piece :=
  .plain (List.replicate (escapes / 2) '\\') ::
    if escapes % 2 = 1 then [.plain ('[' :: inside ++ [']'])] else [.tag inside]

/-- The pieces of a text no longer than the bound; `before` is plain text just read, backwards. -/
def piecesWithin : Nat → List Char → List Char → List Piece
  | 0, before, _ => [.plain before.reverse]
  | _ + 1, before, [] => [.plain before.reverse]
  | n + 1, before, c :: cs =>
    let (escapes, rest) := backslashes (c :: cs)
    match tag? rest with
    | some (inside, rest) =>
      .plain before.reverse :: tagPieces escapes inside ++ piecesWithin n [] rest
    | none => piecesWithin n (c :: before) cs

def pieces (cs : List Char) : List Piece :=
  piecesWithin cs.length [] cs

/-- Drops the backslash before every opening bracket. -/
def unescapeBrackets : List Char → List Char
  | '\\' :: '[' :: cs => '[' :: unescapeBrackets cs
  | c :: cs => c :: unescapeBrackets cs
  | [] => []

/-! ### Tags -/

/-- Why a text is refused. -/
inductive Refusal where
  /-- A closing tag that matches no open one. -/
  | unmatched (tag : String)
  /-- An action whose arguments are no literal value. -/
  | badAction (action : String)
  /-- A style with a colour that lacks a number. -/
  | badStyle (style : String)
  deriving DecidableEq

def Refusal.message : Refusal → String
  | unmatched tag => "Closing tag matches no open tag: " ++ tag
  | badAction action => "Action cannot be read: " ++ action
  | badStyle style => "Colour lacks a number: " ++ style

structure OpenTag where
  style : String
  /-- What stands after the equals sign. -/
  parameter : Option (List Char)
  deriving DecidableEq

/-- The form in which the style of a tag is compared. -/
def tagStyle (cs : List Char) : Except Refusal String :=
  (comparedStyle cs).mapError fun _ => .badStyle (String.ofList cs)

/-- The style that the text of a tag is painted in. -/
def OpenTag.paint (t : OpenTag) : List Char :=
  match t.parameter with
  | some parameter => t.style.toList ++ ' ' :: parameter
  | none => t.style.toList

/-- What is to be painted when a tag is closed. -/
def OpenTag.close (t : OpenTag) : Except Refusal (List (List Char)) :=
  if t.style.toList.head? = some '@' then
    if t.parameter.all Action.isReadable then .ok [] else .error (.badAction t.style)
  else .ok [t.paint]

/-! ### Rendering -/

/-- What was read of a text. -/
structure State where
  /-- The tags that are open, nearest first. -/
  opened : List OpenTag := []
  /-- The styles of the tags that were closed. -/
  painted : List (List Char) := []
  text : List Char := []

/-- Closes the nearest open tag of those that are wanted. -/
def State.close (s : State) (inside : List Char) (wanted : OpenTag → Bool) :
    Except Refusal State := do
  match s.opened.find? wanted with
  | none => .error (.unmatched (String.ofList inside))
  | some tag =>
    return { s with opened := s.opened.eraseP wanted, painted := s.painted ++ (← tag.close) }

def State.addTag (s : State) (inside : List Char) : Except Refusal State := do
  let (name, parameter) := match cutAt '=' inside with
    | some (name, parameter) => (name, some parameter)
    | none => (inside, none)
  match name with
  | '/' :: closing =>
    let closing := trimBy isBlank closing
    if closing = [] then s.close inside fun _ => true
    else
      let style ← tagStyle closing
      s.close inside (·.style == style)
  | _ => return { s with opened := ⟨← tagStyle name, parameter⟩ :: s.opened }

def State.add (s : State) : Piece → Except Refusal State
  | .plain cs => .ok { s with text := s.text ++ withPictograms (unescapeBrackets cs) }
  | .tag inside => s.addTag inside

/-- A text freed of its tags, and what has to be painted in it. -/
structure Rendered where
  text : String
  painted : List (List Char)

def parse (s : String) : Except Refusal Rendered := do
  let s ← (pieces s.toList).foldlM State.add {}
  return ⟨String.ofList s.text, s.painted ++ s.opened.map (·.paint)⟩

/-- The text, if everything in it can be painted. -/
def Rendered.show (r : Rendered) : Except Refusal String :=
  (r.painted.mapM tagStyle).map fun _ => r.text

def render (s : String) : Except Refusal String := do
  (← parse s).show

/-! ### Escaping -/

/-- Doubles the backslashes before every tag and adds one. -/
def escapeWithin : Nat → List Char → List Char
  | 0, cs => cs
  | _ + 1, [] => []
  | n + 1, c :: cs =>
    let (escapes, rest) := backslashes (c :: cs)
    match tag? rest with
    | some (inside, rest) =>
      List.replicate (2 * escapes + 1) '\\' ++ '[' :: inside ++ ']' :: escapeWithin n rest
    | none => c :: escapeWithin n cs

/-- Doubles a backslash that stands alone at the end. -/
def closeBackslash (cs : List Char) : List Char :=
  match cs.reverse with
  | '\\' :: '\\' :: _ => cs
  | '\\' :: _ => cs ++ ['\\']
  | _ => cs

def escape (s : String) : String :=
  String.ofList (closeBackslash (escapeWithin s.length s.toList))

end TypedLambda.Text.Markup
