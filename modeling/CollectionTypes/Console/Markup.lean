import CollectionTypes.Text.Cut

/-!
# Markup

A text for a console can hold tags in square brackets: a letter, a number
sign, a slash or an at-sign follows the bracket directly, and the tag has no
other bracket in it. A backslash before the bracket takes its meaning away,
and two backslashes there are one. `piecesOf` finds the tags and the plain
characters between them.
-/

namespace CollectionTypes.Console

/-- **A tag**: what stands in its brackets, cut at the first equals sign. -/
structure Tag where
  name : List Char
  parameters : Option (List Char)

namespace Tag

/-- The tag whose brackets hold some characters. -/
def ofChars (cs : List Char) : Tag where
  name := Text.before '=' cs
  parameters := if cs.contains '=' then some (Text.behind '=' cs) else none

/-- The tag with its brackets. -/
def text (t : Tag) : String :=
  "[" ++ String.ofList t.name
    ++ (match t.parameters with
      | some ps => "=" ++ String.ofList ps
      | none => "")
    ++ "]"

end Tag

/-- **A piece of a text with markup.** -/
inductive Piece where
  | plain (cs : List Char)
  /-- A tag, and how many characters there are before it. -/
  | tag (position : Nat) (t : Tag)

/-- Whether a character can stand right behind the bracket of a tag. -/
def startsTag (c : Char) : Bool :=
  ('a' ≤ c && c ≤ 'z') || c == '#' || c == '/' || c == '@'

/-- What is in the brackets and what is behind them, if characters that
follow an opening bracket make up a tag. -/
def tagContent? : List Char → Option (List Char × List Char)
  | [] => none
  | c :: cs =>
    if startsTag c && cs.contains ']' then
      some (c :: Text.before ']' cs, Text.behind ']' cs)
    else none

/-- How many backslashes are at the end. -/
def backslashes (cs : List Char) : Nat :=
  (cs.reverse.takeWhile (· == '\\')).length

/-- **The pieces of a text** that has been cut at its opening brackets.
Given are the plain characters since the last tag, and how many characters
there are before the next bracket. -/
def pieces (plain : List Char) (position : Nat) : List (List Char) → List Piece
  | [] => [.plain plain]
  | cs :: rest =>
    match tagContent? cs with
    | none => pieces (plain ++ '[' :: cs) (position + 1 + cs.length) rest
    | some (content, behind) =>
      let n := backslashes plain
      -- pairs of backslashes are halved, and one that is left takes the
      -- meaning of the bracket away
      let tag := if n % 2 = 0 then Piece.tag position (.ofChars content)
        else .plain ('[' :: content ++ [']'])
      .plain (plain.take (plain.length - n)) :: .plain (List.replicate (n / 2) '\\')
        :: tag :: pieces behind (position + 1 + cs.length) rest

/-- The pieces of a text. -/
def piecesOf (cs : List Char) : List Piece :=
  match Text.cutAt '[' cs with
  | first :: rest => pieces first first.length rest
  | [] => []

end CollectionTypes.Console
