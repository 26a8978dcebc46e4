import CollectionTypes.Text.Quoted

/-!
# The tokens of a literal

A literal is a value that is written down: a number, a quoted text, or a
tuple, set or table of values. A literal is read from its tokens: names,
keywords, numbers, quoted texts and marks. Where brackets are open, line
ends are no more than blanks; elsewhere they are tokens too, and so are
changes of the indentation.

`ScanFault` says why a text cannot be cut into tokens. Some of these faults
are final: whatever else is wrong with the text, they are what is
complained about. The others count only if somebody wants to read on.
-/

namespace CollectionTypes.Literal

/-- **What a token is.** -/
inductive Kind where
  | name
  | keyword
  | number
  | quoted
  | mark
  | lineEnd
  | indent
  | dedent
  /-- The end of the text. -/
  | finish
  deriving DecidableEq

/-- **A token.** -/
structure Token where
  kind : Kind
  /-- What is written. -/
  text : List Char
  line : Nat
  /-- How many brackets are open behind the token. -/
  depth : Nat
  /-- Whether finding out where the token ends meant to look at the end of the
  text. -/
  reachesEnd : Bool := false

/-- The words that are no names. -/
def keywords : List String :=
  ["False", "None", "True", "and", "as", "assert", "async", "await", "break", "class",
    "continue", "def", "del", "elif", "else", "except", "finally", "for", "from", "global",
    "if", "import", "in", "is", "lambda", "nonlocal", "not", "or", "pass", "raise", "return",
    "try", "while", "with", "yield"]

/-- The names that are keywords in some places. -/
def softKeywords : List String :=
  ["_", "case", "match"]

/-- Whether a name is a keyword in some places, or the beginning of one. -/
def beginsSoftKeyword (text : List Char) : Bool :=
  softKeywords.any fun w => text.isPrefixOf w.toList

/-- The marks of more than one character, longest first. -/
def longMarks : List String :=
  ["**=", "//=", "<<=", ">>=", "...", "!=", "%=", "&=", "**", "*=", "+=", "-=", "->", "//",
    "/=", ":=", "<<", "<=", "<>", "==", ">=", ">>", "@=", "^=", "|="]

/-- The spellings of a number. -/
inductive NumberKind where
  | decimal
  | hexadecimal
  | octal
  | binary
  | imaginary
  deriving DecidableEq

/-- The name of a spelling. -/
def NumberKind.name : NumberKind → String
  | decimal => "decimal"
  | hexadecimal => "hexadecimal"
  | octal => "octal"
  | binary => "binary"
  | imaginary => "imaginary"

/-- A bracket, and the line where it was opened. -/
structure Bracket where
  opening : Char
  line : Nat

/-- **Why a text cannot be cut into tokens.** -/
inductive ScanFault where
  | badNumber (kind : NumberKind)
  | badDigit (digit : Char) (kind : NumberKind)
  | leadingZeros
  | badCharacter (c : Char)
  /-- A quoted text without an end, which was looked for up to some line. -/
  | openText (long : Bool) (line : Nat)
  | unmatched (closing : Char)
  /-- A bracket closed by one of another kind, perhaps on another line. -/
  | mismatched (closing opening : Char) (line : Option Nat)
  | tooManyBrackets
  | neverClosed (opening : Char)
  | unexpectedEnd
  | badContinuation
  | badDedent
  | tabsAndBlanks
  | tooManyIndents

namespace ScanFault

/-- Whether the fault outranks everything else that is wrong. -/
def isFinal : ScanFault → Bool
  | neverClosed _ | unexpectedEnd | badContinuation | badDedent | tabsAndBlanks
  | tooManyIndents => false
  | _ => true

/-- A code point in base sixteen, with four digits at least. -/
def hexCode (n : Nat) : String :=
  String.ofList ((Text.hexPadded 4 n).map Char.toUpper)

/-- The wording of the fault. -/
def message : ScanFault → String
  | badNumber kind => "invalid " ++ kind.name ++ " literal"
  | badDigit digit kind =>
    "invalid digit '" ++ String.singleton digit ++ "' in " ++ kind.name ++ " literal"
  | leadingZeros =>
    "leading zeros in decimal integer literals are not permitted; use an 0o prefix for octal integers"
  | badCharacter c =>
    if Text.isPrintable c then
      "invalid character '" ++ String.singleton c ++ "' (U+" ++ hexCode c.toNat ++ ")"
    else "invalid non-printable character U+" ++ hexCode c.toNat
  | openText long line =>
    "unterminated " ++ (if long then "triple-quoted " else "")
      ++ "string literal (detected at line " ++ toString line ++ ")"
  | unmatched closing => "unmatched '" ++ String.singleton closing ++ "'"
  | mismatched closing opening line =>
    "closing parenthesis '" ++ String.singleton closing
      ++ "' does not match opening parenthesis '" ++ String.singleton opening ++ "'"
      ++ (match line with
        | some n => " on line " ++ toString n
        | none => "")
  | tooManyBrackets => "too many nested parentheses"
  | neverClosed opening => "'" ++ String.singleton opening ++ "' was never closed"
  | unexpectedEnd => "unexpected EOF while parsing"
  | badContinuation => "unexpected character after line continuation character"
  | badDedent => "unindent does not match any outer indentation level"
  | tabsAndBlanks => "inconsistent use of tabs and spaces in indentation"
  | tooManyIndents => "too many levels of indentation"

end ScanFault

/-- **The tokens of a text**, up to its end or to a fault. With a fault go
the brackets that are open there, innermost first. -/
structure Scan where
  tokens : List Token
  fault : Option (ScanFault × List Bracket) := none

namespace Scan

/-- A scan with more tokens in front. -/
def prepend (ts : List Token) (s : Scan) : Scan :=
  { s with tokens := ts ++ s.tokens }

end Scan

end CollectionTypes.Literal
