import CollectionTypes.CommandLine.Usage
import CollectionTypes.Text.Cut
import CollectionTypes.Text.Digit

/-!
# The words of a command line

A word is an operand or a switch. A switch can be spelled in full, a long
one also by any beginning that no other switch has, and its value can be
attached: behind an equals sign, or directly to a short spelling. A
hyphen alone, a negative number and a word with a space are operands unless
they spell a switch. Behind two hyphens alone, all words are operands.
-/

namespace CollectionTypes.CommandLine

/-- **A value in the same word as its switch.** -/
inductive Attached where
  | nothing
  /-- Behind an equals sign. -/
  | joined (value : String)
  /-- Directly behind a short spelling. -/
  | glued (value : String)
  deriving DecidableEq, Repr

/-- The value, if there is one. -/
def Attached.value? : Attached → Option String
  | nothing => none
  | joined value => some value
  | glued value => some value

/-- **A word of a command line.** -/
inductive Word where
  | operand (text : String)
  /-- Two hyphens alone. -/
  | divider
  | switch (s : Switch) (attached : Attached)
  /-- A word that looks like a switch, but is none. -/
  | stray (text : String)
  deriving DecidableEq, Repr

namespace Word

/-- Whether a word is a negative number: a hyphen and digits, of which
some may stand behind a full stop. A line end may follow. -/
def isNegative : List Char → Bool
  | '-' :: cs =>
    let cs := if cs.getLast? == some '\n' then cs.dropLast else cs
    let isDigit c := (Text.digit? c).isSome
    let fraction := Text.behind '.' cs
    if cs.contains '.' then
      (Text.before '.' cs).all isDigit && !fraction.isEmpty && fraction.all isDigit
    else !cs.isEmpty && cs.all isDigit
  | _ => false

/-- What is attached behind an equals sign. -/
def joinedTo (cs : List Char) : Attached :=
  if cs.contains '=' then .joined (String.ofList (Text.behind '=' cs)) else .nothing

/-- What is attached to a spelling in full. A value behind the equals sign
of a short spelling might as well stand without it, unless it is empty. -/
def attachedTo (cs : List Char) : Attached :=
  match joinedTo cs, cs with
  | .joined value, '-' :: '-' :: _ => .joined value
  | .joined value, _ => if value = "" then .joined value else .glued value
  | other, _ => other

/-- The long spellings that begin as a word does, up to its equals sign. -/
def candidates (cs : List Char) : List (String × Switch) :=
  Switch.spellings.filter fun s => (Text.before '=' cs).isPrefixOf s.1.toList

/-- The word of a long switch that is not spelled in full, or a stray
word. -/
def ofLong (cs : List Char) : Except UsageError Word :=
  match candidates cs with
  | [] =>
    .ok (if cs.contains ' ' then .operand (String.ofList cs)
      else .stray (String.ofList cs))
  | [s] => .ok (.switch s.2 (joinedTo cs))
  | ss => .error (.ambiguous (String.ofList cs) (ss.map Prod.fst))

/-- The word of a short switch with its value, or another word with one
hyphen. -/
def ofShort (cs : List Char) : Word :=
  match Switch.ofName? (String.ofList (cs.take 2)) with
  | some s => .switch s (.glued (String.ofList (cs.drop 2)))
  | none =>
    if isNegative cs || cs.contains ' ' then .operand (String.ofList cs)
    else .stray (String.ofList cs)

/-- **The word that a text is**, two hyphens alone aside. -/
def ofString (text : String) : Except UsageError Word :=
  let cs := text.toList
  match Switch.ofName? text, Switch.ofName? (String.ofList (Text.before '=' cs)) with
  | some s, _ => .ok (.switch s .nothing)
  | none, some s => .ok (.switch s (attachedTo cs))
  | none, none =>
    match cs with
    | ['-'] => .ok (.operand text)
    | '-' :: '-' :: _ => ofLong cs
    | '-' :: _ => .ok (ofShort cs)
    | _ => .ok (.operand text)

end Word

/-- **The words of a command line.** -/
def wordsOf : List String → Except UsageError (List Word)
  | [] => .ok []
  | text :: rest =>
    if text = "--" then .ok (.divider :: rest.map .operand)
    else do
      let word ← Word.ofString text
      let words ← wordsOf rest
      return word :: words

end CollectionTypes.CommandLine
