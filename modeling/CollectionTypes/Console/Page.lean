import CollectionTypes.Console.Handler
import CollectionTypes.Console.Markup
import CollectionTypes.Console.Style
import CollectionTypes.Text.Wrap

/-!
# What a console shows

An opening tag switches a style on, a closing tag with the same name
switches it off, and a closing tag without a name switches off what was
switched on last. Short codes become pictures.

A console without styles shows nothing of the tags. What remains is a `Page`:
its characters, and the spans that have a style. Styles are read when they
are needed, so that a fault in the style of a span counts only if the span is
shown. `printed` is what a console shows in the end.
-/

namespace CollectionTypes.Console

/-- **Why markup cannot be shown.** -/
inductive MarkupError where
  /-- The style that a closing tag names has not been switched on. -/
  | notOpen (tag : Tag) (position : Nat)
  /-- No style has been switched on. -/
  | nothingOpen (position : Nat)
  | handler (f : HandlerFault)
  /-- A style that breaks off in the middle. -/
  | style (f : ComponentFault)

/-- The wording of the error. -/
def MarkupError.message : MarkupError → String
  | notOpen tag position =>
    "closing tag '" ++ tag.text ++ "' at position " ++ toString position
      ++ " doesn't match any open tag"
  | nothingOpen position =>
    "closing tag '[/]' at position " ++ toString position ++ " has nothing to close"
  | handler f => f.message
  | style f => f.message

/-- **A style that is switched on.** -/
structure OpenTag where
  /-- How many characters there are before it. -/
  start : Nat
  /-- The normal form of its name. -/
  name : String
  parameters : Option (List Char)

/-- **Characters with a style**, which is not read yet. -/
structure Span where
  start : Nat
  stop : Nat
  style : List Char

/-- The span of a style that is switched off behind some characters. -/
def OpenTag.span (t : OpenTag) (stop : Nat) : Span where
  start := t.start
  stop
  style := t.name.toList ++ (match t.parameters with
    | some ps => ' ' :: ps
    | none => [])

/-- **What remains of a text with markup.** -/
structure Page where
  text : List Char := []
  /-- The styles that are switched on, latest first. -/
  opened : List OpenTag := []
  /-- The spans, latest first. -/
  spans : List Span := []

/-- Characters whose opening brackets need no backslash any more. -/
def unescaped : List Char → List Char
  | '\\' :: '[' :: cs => '[' :: unescaped cs
  | c :: cs => c :: unescaped cs
  | [] => []

/-- Whether a console takes no notice of a character: bell, backspace,
vertical tab, form feed, carriage return. -/
def isDropped (c : Char) : Bool :=
  [7, 8, 11, 12, 13].contains c.toNat

/-- Plain characters as a console takes them. -/
def taken (cs : List Char) : List Char :=
  (withPictures (unescaped cs)).filter fun c => !isDropped c

/-- How many cells a line of the console has. -/
def columns : Nat := 4000

namespace Page

/-- The page with plain characters behind. -/
def write (p : Page) (cs : List Char) : Page :=
  { p with text := p.text ++ taken cs }

/-- A style switched off. Parameters of a handler are looked at, and other
styles leave a span. -/
def switchOff (p : Page) (t : OpenTag) : Except MarkupError Page :=
  if t.name.toList.head? = some '@' then
    match t.parameters with
    | none | some [] => .ok p
    | some parameters =>
      match handlerFault? parameters with
      | some f => .error (.handler f)
      | none => .ok p
  else .ok { p with spans := t.span p.text.length :: p.spans }

/-- The page behind a tag. -/
def followTag (p : Page) (position : Nat) (tag : Tag) : Except MarkupError Page :=
  match tag.name with
  | '/' :: name =>
    if (Text.trimBlanks name).isEmpty then
      match p.opened with
      | t :: others => { p with opened := others }.switchOff t
      | [] => .error (.nothingOpen position)
    else
      match normalForm (Text.trimBlanks name) with
      | .error f => .error (.style f)
      | .ok style =>
        match p.opened.find? fun t => t.name == style with
        | some t => { p with opened := p.opened.eraseP fun t => t.name == style }.switchOff t
        | none => .error (.notOpen tag position)
  | name =>
    match normalForm name with
    | .error f => .error (.style f)
    | .ok style =>
      .ok { p with opened := ⟨p.text.length, style, tag.parameters⟩ :: p.opened }

/-- The page behind some pieces. -/
def follow (p : Page) : List Piece → Except MarkupError Page
  | [] => .ok p
  | .plain cs :: rest => (p.write cs).follow rest
  | .tag position t :: rest => do (← p.followTag position t).follow rest

/-- The page at its end: what is still switched on is switched off. -/
def finish (p : Page) : Page where
  text := p.text
  spans := p.opened.foldl (fun spans t => t.span p.text.length :: spans) p.spans

/-- **The page of a text with markup.** -/
def ofMarkup (cs : List Char) : Except MarkupError Page :=
  (({} : Page).follow (piecesOf cs)).map finish

/-! ## Spans that are shown -/

/-- Where the pieces of a line between its tabs begin and end. A tab belongs
to the piece before it. -/
def pieceRanges (start : Nat) : List (List Char) → List (Nat × Nat)
  | [] => []
  | [piece] => [(start, start + piece.length)]
  | piece :: rest =>
    (start, start + piece.length + 1) :: pieceRanges (start + piece.length + 1) rest

/-- Where the pieces of the lines begin and end. -/
def lineRanges (start : Nat) : List (List Char) → List (Nat × Nat)
  | [] => []
  | line :: rest =>
    pieceRanges start (Text.cutAt '\t' line) ++ lineRanges (start + line.length + 1) rest

/-- The spans in the order of their beginnings. -/
def sortedSpans (p : Page) : List Span :=
  p.spans.mergeSort fun a b => a.start ≤ b.start

/-- **The spans that are shown**, piece by piece. A text without line ends
and tabs is shown as a whole; if it is cut, spans without characters are
lost. -/
def shownSpans (p : Page) : List Span :=
  if p.text.contains '\n' || p.text.contains '\t' then
    (lineRanges 0 (Text.cutAt '\n' p.text)).flatMap fun range =>
      p.sortedSpans.filter fun s => max s.start range.1 < min s.stop range.2
  else p.sortedSpans

/-- The fault in the first style that has one. -/
def styleFault? (p : Page) : Option ComponentFault :=
  p.shownSpans.findSome? fun s =>
    match Style.ofChars s.style with
    | .error f => some f
    | .ok _ => none

/-- The lines of the page, without tabs, and no wider than the console. -/
def shown (p : Page) : List Char :=
  ['\n'].intercalate ((Text.cutAt '\n' p.text).flatMap fun line =>
    Text.wrapped columns (Text.expandTabs line))

end Page

/-- **What a console shows of a text with markup**, with the line's end. -/
def printed (markup : String) : Except MarkupError String := do
  let page ← Page.ofMarkup markup.toList
  match page.styleFault? with
  | some f => throw (.style f)
  | none => return String.ofList page.shown ++ "\n"

end CollectionTypes.Console
