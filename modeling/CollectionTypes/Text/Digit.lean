import CollectionTypes.Text.Blank

/-!
# Decimal digits and whole numbers

Each script with decimal digits has ten of them in a row, from zero to
nine. `wholeNumber?` reads a whole number as a person may write one on a
command line: blanks at the ends, one sign, digits of any script, and
single underscores between digits. The information separators U+001C to
U+001F are no blanks around a number.
-/

namespace CollectionTypes.Text

/-- The code points of the zeros. -/
def zeros : List Nat :=
  [48, 1632, 1776, 1984, 2406, 2534, 2662, 2790, 2918,
    3046, 3174, 3302, 3430, 3558, 3664, 3792, 3872, 4160,
    4240, 6112, 6160, 6470, 6608, 6784, 6800, 6992, 7088,
    7232, 7248, 42528, 43216, 43264, 43472, 43504, 43600,
    44016, 65296, 66720, 68912, 69734, 69872, 69942, 70096,
    70384, 70736, 70864, 71248, 71360, 71472, 71904, 72016,
    72784, 73040, 73120, 92768, 92864, 93008, 120782,
    120792, 120802, 120812, 120822, 123200, 123632, 125264,
    130032]

/-- The value of a decimal digit of any script. -/
def digit? (c : Char) : Option Nat :=
  (zeros.find? fun z => z ≤ c.toNat && c.toNat ≤ z + 9).map (c.toNat - ·)

/-- Digits with single underscores between them, as one number. -/
def digitGroups? (soFar : Nat) : List Char → Option Nat
  | [] => some soFar
  | ['_'] => none
  | '_' :: c :: rest =>
    match digit? c with
    | some d => digitGroups? (10 * soFar + d) rest
    | none => none
  | c :: rest =>
    match digit? c with
    | some d => digitGroups? (10 * soFar + d) rest
    | none => none

/-- Digits with single underscores between them; at least one digit, and
a digit first. -/
def unsigned? : List Char → Option Nat
  | [] => none
  | c :: rest => (digit? c).bind fun d => digitGroups? d rest

/-- The most digits a whole number may have. -/
def maxDigits : Nat := 4300

/-- The complaint about a number with more digits. -/
def tooManyDigits (digits : Nat) : String :=
  "Exceeds the limit (" ++ toString maxDigits ++ " digits) for integer string conversion: value has "
    ++ toString digits ++ " digits; use sys.set_int_max_str_digits() to increase the limit"

/-- The complaint about a number that would be written with more digits. -/
def tooLongToWrite : String :=
  "Exceeds the limit (" ++ toString maxDigits ++ " digits) for integer string conversion; "
    ++ "use sys.set_int_max_str_digits() to increase the limit"

/-- Whether a character can stand beside a number as a blank. -/
def isBlankByNumber (c : Char) : Bool :=
  isBlank c && !inRanges [(28, 31)] c

/-- **A whole number**, or nothing if the text is not one. -/
def wholeNumber? (s : String) : Option Int :=
  let cs := trimEnds isBlankByNumber s.toList
  if maxDigits < (cs.filter fun c => (digit? c).isSome).length then none
  else
    match cs with
    | '-' :: rest => (unsigned? rest).map fun n => -(n : Int)
    | '+' :: rest => (unsigned? rest).map fun n => (n : Int)
    | rest => (unsigned? rest).map fun n => (n : Int)

end CollectionTypes.Text
