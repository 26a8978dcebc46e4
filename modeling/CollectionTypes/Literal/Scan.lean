import CollectionTypes.Literal.Numeral
import CollectionTypes.Text.Word

/-!
# Cutting a text into tokens

`Scan.ofChars` cuts a text into its tokens. Its state is the line, the
brackets that are open and the indentation of the lines around. Every step
reads a character at least or begins a line, so that two steps for each
character are enough.
-/

namespace CollectionTypes.Literal

/-- **Where cutting has got to.** -/
structure Scanner where
  line : Nat := 1
  /-- The open brackets, innermost first. -/
  brackets : List Bracket := []
  /-- The indentations, innermost first: with tabs that lead to the next
  multiple of eight, and with tabs that count as one. -/
  indents : List (Nat × Nat) := []

namespace Scanner

/-- The scan that ends with a fault. -/
def stop (s : Scanner) (f : ScanFault) : Scan where
  tokens := []
  fault := some (f, s.brackets)

/-- The scan that ends because there is no more to read although there
should be. -/
def stopAtEnd (s : Scanner) : Scan :=
  s.stop (match s.brackets with
    | b :: _ => .neverClosed b.opening
    | [] => .unexpectedEnd)

/-- A token at this place. -/
def token (s : Scanner) (kind : Kind) (text : List Char) : Token where
  kind
  text
  line := s.line
  depth := s.brackets.length

/-- The state some lines further on. -/
def down (s : Scanner) (lines : Nat) : Scanner :=
  { s with line := s.line + lines }

/-! ## Indentation -/

/-- **The blanks at the beginning of a line**: their widths, how many lines
they take, and what is behind them. -/
structure Margin where
  column : Nat := 0
  narrow : Nat := 0
  /-- The width before the first line was continued; zero if there is none. -/
  kept : Nat := 0
  lines : Nat := 0
  rest : List Char

/-- Why the blanks at the beginning of a line cannot be read. -/
inductive MarginFault where
  | noLine
  | notContinued

/-- The blanks at the beginning of a line, behind some that are read. -/
def margin (m : Margin) : List Char → Except MarginFault Margin
  | ' ' :: cs => margin { m with column := m.column + 1, narrow := m.narrow + 1 } cs
  | '\t' :: cs =>
    margin { m with column := (m.column / 8 + 1) * 8, narrow := m.narrow + 1 } cs
  | '\x0c' :: cs => margin { m with column := 0, narrow := 0 } cs
  | ['\\', '\n'] => .error .noLine
  | '\\' :: '\n' :: cs =>
    margin { m with kept := if m.kept = 0 then m.column else m.kept, lines := m.lines + 1 } cs
  | '\\' :: _ => .error .notContinued
  | cs => .ok { m with rest := cs }

/-- The widths that count. -/
def Margin.widths (m : Margin) : Nat × Nat :=
  if m.kept = 0 then (m.column, m.narrow) else (m.kept, m.kept)

/-- The most indentations that can be open. -/
def maxIndents : Nat := 100

/-- The tokens for a change of the indentation to given widths. -/
def indentTo (s : Scanner) (widths : Nat × Nat) : Except ScanFault (List Token × Scanner) :=
  let current := s.indents.head?.getD (0, 0)
  if widths.1 = current.1 then
    if widths.2 = current.2 then .ok ([], s) else .error .tabsAndBlanks
  else if current.1 < widths.1 then
    if maxIndents ≤ s.indents.length + 1 then .error .tooManyIndents
    else if widths.2 ≤ current.2 then .error .tabsAndBlanks
    else .ok ([s.token .indent []], { s with indents := widths :: s.indents })
  else
    let others := s.indents.dropWhile fun i => widths.1 < i.1
    let outer := others.head?.getD (0, 0)
    if widths.1 ≠ outer.1 then .error .badDedent
    else if widths.2 ≠ outer.2 then .error .tabsAndBlanks
    else
      .ok (List.replicate (s.indents.length - others.length) (s.token .dedent []),
        { s with indents := others })

/-! ## Quoted texts -/

/-- What is behind a text in single quotes, from behind the opening quote
on, or how many lines further on it breaks off. A backslash takes the
meaning of the next character away. -/
def shortRest (quote : Char) (lines : Nat) : List Char → Except Nat (List Char)
  | [] => .error lines
  | '\\' :: c :: cs => shortRest quote (if c = '\n' then lines + 1 else lines) cs
  | c :: cs =>
    if c = quote then .ok cs
    else if c = '\n' then .error lines
    else shortRest quote lines cs

/-- What is behind a text in triple quotes, from behind the opening quotes
on and with some quotes just read. -/
def longRest (quote : Char) (seen lines : Nat) : List Char → Except Nat (List Char)
  | [] => .error lines
  | '\\' :: c :: cs => longRest quote 0 (if c = '\n' then lines + 1 else lines) cs
  | c :: cs =>
    if c = quote then
      if seen = 2 then .ok cs else longRest quote (seen + 1) lines cs
    else longRest quote 0 (if c = '\n' then lines + 1 else lines) cs

/-- What is behind a quoted text, from behind its first quote on. -/
def quotedRest (s : Scanner) (quote : Char) (cs : List Char) :
    Except ScanFault (List Char) :=
  if [quote, quote].isPrefixOf cs then
    (longRest quote 0 0 (cs.drop 2)).mapError fun n => .openText true (s.line + n)
  else if cs.head? = some quote then .ok cs.tail
  else (shortRest quote 0 cs).mapError fun n => .openText false (s.line + n)

/-- The letters that can stand before a quoted text. -/
def quotePrefixes : List String :=
  ["b", "r", "u", "f", "br", "rb", "fr", "rf"]

/-- Whether a character is a quote. -/
def isQuote (c : Char) : Bool :=
  c == '\'' || c == '"'

/-! ## Names and marks -/

/-- The first character that keeps a word from being a name. -/
def badInName? (word : List Char) : Option Char :=
  match word with
  | [] => none
  | c :: cs =>
    if c = '_' || Text.startsName c then cs.find? fun d => !Text.continuesName d
    else some c

/-- The most brackets that can be open. -/
def maxBrackets : Nat := 200

/-- The bracket that a closing one closes. -/
def opener : Char → Char
  | ')' => '('
  | ']' => '['
  | _ => '{'

/-- The state behind a mark of one character. -/
def behindMark (s : Scanner) (c : Char) : Except ScanFault Scanner :=
  if c = '(' || c = '[' || c = '{' then
    if maxBrackets ≤ s.brackets.length then .error .tooManyBrackets
    else .ok { s with brackets := ⟨c, s.line⟩ :: s.brackets }
  else if c = ')' || c = ']' || c = '}' then
    match s.brackets with
    | [] => .error (.unmatched c)
    | b :: others =>
      if b.opening = opener c then .ok { s with brackets := others }
      else .error (.mismatched c b.opening (if b.line = s.line then none else some b.line))
  else if Text.isPrintable c then .ok s
  else .error (.badCharacter c)

/-- The mark of more than one character at the beginning of a text. -/
def longMark? (cs : List Char) : Option (List Char) :=
  (longMarks.map String.toList).find? (·.isPrefixOf cs)

/-- Whether only what follows shows that a token does not go on. Quotes that
hold nothing could be the beginning of three quotes. -/
def couldGoOn (kind : Kind) (text : List Char) : Bool :=
  match kind with
  | .quoted => (text.dropWhile Char.isAlpha).length == 2
  | .mark => text.length < 3
  | _ => true

/-- Whether a character is a blank between tokens. -/
def isGap (c : Char) : Bool :=
  c == ' ' || c == '\t' || c == '\x0c'

/-! ## The loop -/

/-- What begins a step. -/
inductive Stage where
  /-- A line begins. -/
  | line
  /-- A token is expected, on a line that can have nothing but a comment. -/
  | token (idle : Bool)

/-- **The tokens of a text**, from some state on. -/
def scan : Nat → Scanner → Stage → List Char → Scan
  | 0, _, _, _ => { tokens := [] }
  | fuel + 1, s, .line, cs =>
    match margin { rest := [] } cs with
    | .error .noLine => s.stopAtEnd
    | .error .notContinued => s.stop .badContinuation
    | .ok m =>
      let s := s.down m.lines
      let idle := m.rest.head?.any fun c => c == '#' || c == '\n'
      if idle || !s.brackets.isEmpty then scan fuel s (.token idle) m.rest
      else
        match s.indentTo m.widths with
        | .error f => s.stop f
        | .ok (ts, s) => (scan fuel s (.token false) m.rest).prepend ts
  | fuel + 1, s, .token idle, cs =>
    let cs := cs.dropWhile isGap
    let cs := if cs.head? = some '#' then cs.dropWhile (· != '\n') else cs
    -- a token of some kind that ends where the rest begins
    let put (kind : Kind) (rest : List Char) (s' : Scanner) : Scan :=
      let text := cs.take (cs.length - rest.length)
      (scan fuel s' (.token false) rest).prepend
        [{ s.token kind text with
            depth := s'.brackets.length
            reachesEnd := rest.isEmpty && couldGoOn kind text }]
    match cs with
    | [] => if s.brackets.isEmpty then { tokens := [s.token .finish []] } else s.stopAtEnd
    | '\n' :: rest =>
      let after := scan fuel (s.down 1) .line rest
      if idle || !s.brackets.isEmpty then after else after.prepend [s.token .lineEnd []]
    | ['\\', '\n'] => s.stopAtEnd
    | '\\' :: '\n' :: rest => scan fuel (s.down 1) (.token idle) rest
    | '\\' :: _ => s.stop .badContinuation
    | c :: rest =>
      if c.isDigit || (c = '.' && rest.head?.any Char.isDigit) then
        match Numeral.rest cs with
        | .error f => s.stop f
        | .ok rest => put .number rest s
      else
        let word := cs.takeWhile isNamePart
        let behind := cs.drop word.length
        if behind.head?.any isQuote
            && (word.isEmpty || quotePrefixes.contains (String.ofList (word.map Char.toLower))) then
          match s.quotedRest (behind.head?.getD c) behind.tail with
          | .error f => s.stop f
          | .ok rest =>
            put .quoted rest (s.down ((cs.take (cs.length - rest.length)).count '\n'))
        else if word.isEmpty then
          match longMark? cs with
          | some m => put .mark (cs.drop m.length) s
          | none =>
            match s.behindMark c with
            | .error f => s.stop f
            | .ok s' => put .mark rest s'
        else
          match (if word.any fun d => 128 ≤ d.toNat then badInName? word else none) with
          | some d => s.stop (.badCharacter d)
          | none =>
            put (if keywords.contains (String.ofList word) then .keyword else .name) behind s

end Scanner

/-- **The tokens of a text.** -/
def Scan.ofChars (cs : List Char) : Scan :=
  Scanner.scan (2 * cs.length + 3) {} .line cs

end CollectionTypes.Literal
