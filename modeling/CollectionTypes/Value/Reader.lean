import CollectionTypes.Text.Digit
import CollectionTypes.Value.Basic

/-!
# Reading a value from a JSON text

`Value.read` reads a whole text. Blanks are the four of JSON; the words
`NaN`, `Infinity` and `-Infinity` are numbers; a number too large for a
finite one is infinite; and when an object repeats a name, the first place
and the last value count. Two things have limits: the digits of a whole
number, and how deep values are nested.

Texts hold whole characters. An escape for half a pair that is without the
other half stands for no character, and what is read for it
(`Reader.charOfCode`) is only a stand-in: texts with such an escape are left
out of account wherever more is asked than whether they are JSON.

Reading works on the characters still to be read. Where a text is no JSON,
it hands back what it complained about together with the characters from
there on, so that `Place.after` can say on which line and in which column
that was; that a limit is exceeded needs no place. The fuel of `value`,
`items` and `members` bounds the depth of calls; each of them reads a
character or hands on to one that does, so two calls for each character are
enough.
-/

namespace CollectionTypes

/-- **What a reader complains about.** -/
inductive Complaint where
  | expectingValue
  | expectingName
  | expectingColon
  | expectingComma
  | extraData
  | unterminatedText
  | controlCharacter
  | badEscape
  | badCodeEscape
  | byteOrderMark
  deriving DecidableEq, Repr

/-- The wording of a complaint. -/
def Complaint.text : Complaint → String
  | expectingValue => "Expecting value"
  | expectingName => "Expecting property name enclosed in double quotes"
  | expectingColon => "Expecting ':' delimiter"
  | expectingComma => "Expecting ',' delimiter"
  | extraData => "Extra data"
  | unterminatedText => "Unterminated string starting at"
  | controlCharacter => "Invalid control character at"
  | badEscape => "Invalid \\escape"
  | badCodeEscape => "Invalid \\uXXXX escape"
  | byteOrderMark => "Unexpected UTF-8 BOM (decode using utf-8-sig)"

/-- **A place in a text**: lines and columns count from one, the offset
counts characters from zero. -/
structure Place where
  line : Nat
  column : Nat
  offset : Nat
  deriving DecidableEq, Repr

/-- The place behind the characters already read. -/
def Place.after (before : List Char) : Place where
  line := before.count '\n' + 1
  column := (before.reverse.takeWhile (· != '\n')).length + 1
  offset := before.length

/-- The wording of a place. -/
def Place.text (p : Place) : String :=
  "line " ++ toString p.line ++ " column " ++ toString p.column ++ " (char "
    ++ toString p.offset ++ ")"

/-- **Why a text is no JSON**, and where. -/
structure Misspelling where
  complaint : Complaint
  place : Place
  deriving DecidableEq, Repr

/-- The wording of a misspelling. -/
def Misspelling.message (m : Misspelling) : String :=
  m.complaint.text ++ ": " ++ m.place.text

/-- **A limit that a text exceeds.** -/
inductive Excess where
  /-- A whole number with too many digits. -/
  | digits (count : Nat)
  /-- A list or an object inside too many others. -/
  | depth (isList : Bool)
  deriving DecidableEq, Repr

/-- The wording of an exceeded limit. -/
def Excess.message : Excess → String
  | digits count => Text.tooManyDigits count
  | depth isList =>
    "maximum recursion depth exceeded while decoding a JSON "
      ++ (if isList then "array" else "object") ++ " from a unicode string"

/-- **Why a text cannot be read.** -/
inductive ReadError where
  | misspelt (m : Misspelling)
  | excess (e : Excess)
  deriving DecidableEq, Repr

namespace Reader

/-- Why reading is stuck: a complaint with the characters from its place on,
or an exceeded limit. -/
inductive Stuck where
  | misspelt (complaint : Complaint) (rest : List Char)
  | excess (e : Excess)

/-- The blanks of JSON. -/
def isBlank (c : Char) : Bool :=
  c == ' ' || c == '\t' || c == '\n' || c == '\r'

/-- The characters behind any blanks. -/
def skip (cs : List Char) : List Char :=
  cs.dropWhile isBlank

/-! ## Texts -/

/-- The value of a digit in base sixteen. -/
def hexDigit? (c : Char) : Option Nat :=
  if '0' ≤ c ∧ c ≤ '9' then some (c.toNat - 48)
  else if 'a' ≤ c ∧ c ≤ 'f' then some (c.toNat - 87)
  else if 'A' ≤ c ∧ c ≤ 'F' then some (c.toNat - 55)
  else none

/-- Four digits in base sixteen, and the characters behind them. -/
def fourHex? : List Char → Option (Nat × List Char)
  | a :: b :: c :: d :: rest => do
    let a ← hexDigit? a
    let b ← hexDigit? b
    let c ← hexDigit? c
    let d ← hexDigit? d
    return (((a * 16 + b) * 16 + c) * 16 + d, rest)
  | _ => none

/-- Whether a code is the first half of a pair. -/
def isHighHalf (n : Nat) : Bool := 0xD800 ≤ n && n < 0xDC00

/-- Whether a code is the second half of a pair. -/
def isLowHalf (n : Nat) : Bool := 0xDC00 ≤ n && n < 0xE000

/-- The character of a code. A half without its other half has none; the
replacement character stands in for it, though nothing that is said about
the value then holds of the half itself. -/
def charOfCode (n : Nat) : Char :=
  if isHighHalf n || isLowHalf n then '\uFFFD' else Char.ofNat n

/-- The character that a backslash and one letter stand for. -/
def simpleEscape? : Char → Option Char
  | '"' => some '"'
  | '\\' => some '\\'
  | '/' => some '/'
  | 'b' => some '\x08'
  | 'f' => some '\x0c'
  | 'n' => some '\n'
  | 'r' => some '\r'
  | 't' => some '\t'
  | _ => none

/-- The code behind `\u`, of one half or of a pair; `cs` starts at the
`u`. -/
def codeEscape (cs : List Char) : Except Stuck (Char × List Char) :=
  match fourHex? (cs.drop 1) with
  | none => .error (.misspelt .badCodeEscape cs)
  | some (high, rest) =>
    -- the text still needs its closing quote
    if rest.isEmpty then .error (.misspelt .badCodeEscape cs)
    -- the other half takes six characters, and the quote one more
    else if isHighHalf high && 6 < rest.length then
      match rest with
      | '\\' :: 'u' :: digits =>
        match fourHex? digits with
        | none => .error (.misspelt .badCodeEscape ('u' :: digits))
        | some (low, rest') =>
          if isLowHalf low then
            .ok (Char.ofNat (0x10000 + (high - 0xD800) * 0x400 + (low - 0xDC00)), rest')
          else .ok (charOfCode high, rest)
      | _ => .ok (charOfCode high, rest)
    else .ok (charOfCode high, rest)

/-- **The inside of a text**, up to its closing quote. `opening` starts at
the opening quote and is where an unclosed text is complained about. -/
def text (opening : List Char) : Nat → List Char → Except Stuck (List Char × List Char)
  | 0, _ => .error (.misspelt .unterminatedText opening)
  | _ + 1, [] => .error (.misspelt .unterminatedText opening)
  | fuel + 1, c :: rest =>
    if c = '"' then .ok ([], rest)
    else if c = '\\' then
      match rest with
      | [] => .error (.misspelt .unterminatedText opening)
      | e :: rest' =>
        if e = 'u' then do
          let (d, rest'') ← codeEscape rest
          let (ds, end') ← text opening fuel rest''
          return (d :: ds, end')
        else
          match simpleEscape? e with
          | none => .error (.misspelt .badEscape (c :: rest))
          | some d => do
            let (ds, end') ← text opening fuel rest'
            return (d :: ds, end')
    else if c.toNat < 0x20 then .error (.misspelt .controlCharacter (c :: rest))
    else do
      let (ds, end') ← text opening fuel rest
      return (c :: ds, end')

/-- A text, from its opening quote on. -/
def quotedText (cs : List Char) : Except Stuck (String × List Char) := do
  let (ds, rest) ← text cs cs.length (cs.drop 1)
  return (String.ofList ds, rest)

/-! ## Numbers -/

/-- The digits at the front, and the characters behind them. -/
def digits (cs : List Char) : List Char × List Char :=
  (cs.takeWhile Char.isDigit, cs.dropWhile Char.isDigit)

/-- The number that digits in base ten write. -/
def natOfDigits (ds : List Char) : Nat :=
  ds.foldl (fun n d => 10 * n + (d.toNat - 48)) 0

/-- A sign in front of a number, if there is one. -/
def minus (cs : List Char) : Bool × List Char :=
  match cs with
  | '-' :: rest => (true, rest)
  | _ => (false, cs)

/-- The digits before the point: one zero, or digits that start with
another. -/
def wholePart (cs : List Char) : List Char × List Char :=
  match cs with
  | '0' :: rest => (['0'], rest)
  | _ => digits cs

/-- The digits behind a point; a point without digits is none. -/
def fraction (cs : List Char) : List Char × List Char :=
  match cs with
  | '.' :: rest => if (digits rest).1.isEmpty then ([], cs) else digits rest
  | _ => ([], cs)

/-- A sign in front of an exponent, if there is one. -/
def exponentSign (cs : List Char) : Bool × List Char :=
  match cs with
  | '-' :: rest => (true, rest)
  | '+' :: rest => (false, rest)
  | _ => (false, cs)

/-- The exponent; an `e` without digits is none. -/
def exponent (cs : List Char) : Option Int × List Char :=
  match cs with
  | e :: rest =>
    if e = 'e' ∨ e = 'E' then
      let (negative, rest') := exponentSign rest
      let (ds, rest'') := digits rest'
      if ds.isEmpty then (none, cs)
      else (some (if negative then -(natOfDigits ds : Int) else natOfDigits ds), rest'')
    else (none, cs)
  | [] => (none, cs)

/-- **A number.** Without fraction and exponent it is a whole number. -/
def number (cs : List Char) : Except Stuck (Value × List Char) :=
  let (negative, afterSign) := minus cs
  let (whole, afterWhole) := wholePart afterSign
  if whole.isEmpty then .error (.misspelt .expectingValue cs)
  else
    let (frac, afterFrac) := fraction afterWhole
    let (power, rest) := exponent afterFrac
    if frac.isEmpty && power.isNone then
      if Text.maxDigits < whole.length then .error (.excess (.digits whole.length))
      else
        let n : Int := natOfDigits whole
        .ok (.int (if negative then -n else n), rest)
    else
      .ok (.real (Binary64.ofDecimal negative (natOfDigits (whole ++ frac))
        (power.getD 0 - frac.length)), rest)

/-- The words that stand for values. -/
def words : List (List Char × Value) :=
  [("null".toList, .null), ("true".toList, .bool true), ("false".toList, .bool false),
    ("NaN".toList, .real .nan), ("Infinity".toList, .real (.infinite false)),
    ("-Infinity".toList, .real (.infinite true))]

/-- The word at the front and the characters behind it. -/
def word? (cs : List Char) : Option (Value × List Char) :=
  words.findSome? fun w => if w.1.isPrefixOf cs then some (w.2, cs.drop w.1.length) else none

/-! ## Values -/

/-- How deep lists and objects can be nested. -/
def maxDepth : Nat := 990

/-- Members with each name once: the first place and the last value. -/
def settle (members : List (String × Value)) : List (String × Value) :=
  members.foldl (fun ms m => Table.put m.1 m.2 ms) []

mutual

/-- **A value**, without blanks in front of it. Given is how deep lists and
objects can still be nested. -/
def value : Nat → Nat → List Char → Except Stuck (Value × List Char)
  | 0, _, cs => .error (.misspelt .expectingValue cs)
  | fuel + 1, depth, cs =>
    match cs with
    | '"' :: _ => do
      let (s, rest) ← quotedText cs
      return (.text s, rest)
    | '[' :: inside =>
      if depth = 0 then .error (.excess (.depth true))
      else
        match skip inside with
        | ']' :: rest => .ok (.list [], rest)
        | first => do
          let (vs, rest) ← items fuel (depth - 1) first
          return (.list vs, rest)
    | '\x7b' :: inside =>
      if depth = 0 then .error (.excess (.depth false))
      else
        match skip inside with
        | '\x7d' :: rest => .ok (.object [], rest)
        | first => do
          let (ms, rest) ← members fuel (depth - 1) first
          return (.object (settle ms), rest)
    | _ =>
      match word? cs with
      | some found => .ok found
      | none => number cs

/-- The items of a list, from the first one to the closing bracket. -/
def items : Nat → Nat → List Char → Except Stuck (List Value × List Char)
  | 0, _, cs => .error (.misspelt .expectingValue cs)
  | fuel + 1, depth, cs => do
    let (v, afterValue) ← value fuel depth cs
    match skip afterValue with
    | ']' :: rest => return ([v], rest)
    | ',' :: rest =>
      let (vs, rest') ← items fuel depth (skip rest)
      return (v :: vs, rest')
    | rest => .error (.misspelt .expectingComma rest)

/-- The members of an object, from the first one to the closing brace. -/
def members : Nat → Nat → List Char →
    Except Stuck (List (String × Value) × List Char)
  | 0, _, cs => .error (.misspelt .expectingValue cs)
  | fuel + 1, depth, cs =>
    match cs with
    | '"' :: _ => do
      let (name, afterName) ← quotedText cs
      match skip afterName with
      | ':' :: afterColon =>
        let (v, afterValue) ← value fuel depth (skip afterColon)
        match skip afterValue with
        | '\x7d' :: rest => return ([(name, v)], rest)
        | ',' :: rest =>
          let (ms, rest') ← members fuel depth (skip rest)
          return ((name, v) :: ms, rest')
        | rest => .error (.misspelt .expectingComma rest)
      | rest => .error (.misspelt .expectingColon rest)
    | _ => .error (.misspelt .expectingName cs)

end

/-- A value that fills a text, blanks at its ends apart. -/
def whole (cs : List Char) : Except Stuck Value :=
  match cs with
  | '\uFEFF' :: _ => .error (.misspelt .byteOrderMark cs)
  | _ => do
    let (v, rest) ← value (2 * cs.length + 2) maxDepth (skip cs)
    match skip rest with
    | [] => return v
    | rest => .error (.misspelt .extraData rest)

end Reader

namespace Value

/-- **Reading a value from the characters of a text.** -/
def readChars (cs : List Char) : Except ReadError Value :=
  match Reader.whole cs with
  | .ok v => .ok v
  | .error (.misspelt complaint rest) =>
    .error (.misspelt ⟨complaint, Place.after (cs.take (cs.length - rest.length))⟩)
  | .error (.excess e) => .error (.excess e)

/-- **Reading a value from a text.** -/
def read (s : String) : Except ReadError Value :=
  readChars s.toList

end Value

end CollectionTypes
