import CollectionTypes.Number.Places
import CollectionTypes.Text.Slot
import CollectionTypes.Value.Shown

/-!
# Texts with slots for values

Values are put into the slots of a text one after the other. The letter
of a slot says how: `%s` takes a value as in running text, `%r` as inside
a larger value, `%d` a whole number, and so on; `%%` is a percent sign.
There have to be as many values as slots. A text that no values come with
is taken as it is.
-/

namespace CollectionTypes.Text

/-- **Why values cannot be put into a text.** -/
inductive FormatError where
  | tooFewValues
  | tooManyValues
  | notNumber (letter : Char) (kind : Kind)
  | notWhole (letter : Char) (kind : Kind)
  | notReal (kind : Kind)
  | notChar
  | notCount
  | infinite
  | notANumber
  | tooLarge
  | unknownLetter (letter : Char) (position : Nat)
  | incomplete
  | needsObject
  | charOutOfRange
  /-- A width or a precision that is written and too large. -/
  | tooBig (c : Count)
  /-- A width or a precision that is taken from the values and too large. -/
  | countTooLarge (c : Count)
  /-- More digits of a whole number than can be shown. -/
  | tooManyDigits
  /-- More characters than memory holds. -/
  | noMemory

/-- The wording of the error. -/
def FormatError.message : FormatError → String
  | tooFewValues => "not enough arguments for format string"
  | tooManyValues => "not all arguments converted during string formatting"
  | notNumber letter kind =>
    "%" ++ letter.toString ++ " format: a real number is required, not " ++ kind.label
  | notWhole letter kind =>
    "%" ++ letter.toString ++ " format: an integer is required, not " ++ kind.label
  | notReal kind => "must be real number, not " ++ kind.label
  | notChar => "%c requires int or char"
  | notCount => "* wants int"
  | infinite => "cannot convert float infinity to integer"
  | notANumber => "cannot convert float NaN to integer"
  | tooLarge => "int too large to convert to float"
  | unknownLetter letter position =>
    let shown := if 31 ≤ letter.toNat ∧ letter.toNat < 127 then letter else '?'
    "unsupported format character '" ++ shown.toString ++ "' (0x"
      ++ String.ofList (Nat.toDigits 16 letter.toNat) ++ ") at index " ++ toString position
  | incomplete => "incomplete format"
  | needsObject => "format requires a mapping"
  | charOutOfRange => "%c arg not in range(0x110000)"
  | tooBig .width => "width too big"
  | tooBig .precision => "precision too big"
  | countTooLarge .width => "Python int too large to convert to C ssize_t"
  | countTooLarge .precision => "Python int too large to convert to C int"
  | tooManyDigits => "precision too large"
  | noMemory => ""

/-- A fault of a slot as a fault of the text. -/
def FormatError.ofSlot : SlotError → FormatError
  | .noCount => tooFewValues
  | .badCount => notCount
  | .tooBig c => tooBig c
  | .tooLarge c => countTooLarge c

/-- A character as it is, or escaped if it is not of ASCII. -/
def asciiChar (c : Char) : List Char :=
  if c.toNat < 128 then [c]
  else if c.toNat < 0x100 then '\\' :: 'x' :: hexPadded 2 c.toNat
  else if c.toNat < 0x10000 then '\\' :: 'u' :: hexPadded 4 c.toNat
  else '\\' :: 'U' :: hexPadded 8 c.toNat

/-- A value as inside a larger one, in ASCII. -/
def asciiQuoted (v : Value) : String :=
  String.ofList (v.quoted.toList.flatMap asciiChar)

/-- The most digits of a whole number that can be shown. -/
def mostDigits : Nat := Nat.pow 2 31 - 4

/-- A whole number at a slot. -/
def wholeAt (p : Slot) (mark : List Char) (base : Nat) (capital : Bool) (n : Int) :
    Except FormatError (List Char) :=
  let precision := p.precision.getD 0
  if mostDigits < precision then .error .tooManyDigits
  else if memoryLimit ≤ max precision p.width then .error .noMemory
  else
    let digits := Nat.toDigits base n.natAbs
    let digits := if capital then digits.map Char.toUpper else digits
    let digits := List.replicate (precision - digits.length) '0' ++ digits
    .ok (p.signed (p.sign (n < 0) ++ if p.long then mark else []) digits)

/-- The whole number of a value, a fraction being cut off. -/
def wholeOf (letter : Char) : Value → Except FormatError Int
  | .bool b => .ok (if b then 1 else 0)
  | .int n => .ok n
  | .real .nan => .error .notANumber
  | .real (.infinite _) => .error .infinite
  | .real x =>
    let q := x.ratio?.getD 0
    .ok (q.num.tdiv q.den)
  | v => .error (.notNumber letter v.kind)

/-- The whole number of a value that is one. -/
def exactOf (letter : Char) : Value → Except FormatError Int
  | .bool b => .ok (if b then 1 else 0)
  | .int n => .ok n
  | v => .error (.notWhole letter v.kind)

/-- The binary number of a value. -/
def realOf : Value → Except FormatError Binary64
  | .real x => .ok x
  | .bool b => .ok (.ofRatio false (if b then 1 else 0) 1)
  | .int n =>
    match Binary64.ofRatio (n < 0) n.natAbs 1 with
    | .infinite _ => .error .tooLarge
    | x => .ok x
  | v => .error (.notReal v.kind)

/-- As many digits as make any binary number exact, before its first digit
that is not zero and behind it. All further ones are zeros. -/
def enoughDigits : Nat := 1100

/-- The digits of the fraction `n / d` as a letter asks for them. -/
def digitsOf (p : Slot) (letter : Char) (n d : Nat) : Except FormatError (List Char) :=
  let precision := p.precision.getD 6
  let exact := min precision enoughDigits
  if letter = 'g' && !p.long then .ok (Binary64.general false exact n d)
  else if memoryLimit ≤ precision then .error .noMemory
  else
    .ok (match letter with
      | 'f' => Binary64.fixed p.long exact n d ++ List.replicate (precision - exact) '0'
      | 'e' => Binary64.scientific p.long exact (precision - exact) n d
      | _ => Binary64.general p.long precision n d)

/-- The sign and the digits of a binary number, as a small letter asks for
them. -/
def realParts (p : Slot) (letter : Char) :
    Binary64 → Except FormatError (List Char × List Char)
  | .nan => .ok (p.sign false, "nan".toList)
  | .infinite negative => .ok (p.sign negative, "inf".toList)
  | .finite negative m e => do
    let (n, d) := Binary64.shiftRight m 1 (-e)
    return (p.sign negative, ← digitsOf p letter n d)

/-- A binary number at a slot. -/
def realAt (p : Slot) (letter : Char) (x : Binary64) : Except FormatError (List Char) := do
  let (front, digits) ← realParts p letter.toLower x
  if memoryLimit ≤ p.width then throw .noMemory
  else return p.signed front (if letter.isUpper then digits.map Char.toUpper else digits)

/-- What is put in, if memory holds the slot. -/
def roomFor (p : Slot) (cs : Slot → List Char) : Except FormatError (List Char) :=
  if memoryLimit ≤ p.width then .error .noMemory else .ok (cs p)

/-- The one character of a value. -/
def charOf : Value → Except FormatError Char
  | .text s =>
    match s.toList with
    | [c] => .ok c
    | _ => .error .notChar
  | .bool b => .ok (if b then '\x01' else '\x00')
  | .int n =>
    if 0 ≤ n ∧ n < 0x110000 then .ok (Char.ofNat n.toNat) else .error .charOutOfRange
  | _ => .error .notChar

/-- **A value at a slot**; `none` for a letter that means nothing. -/
def valueAt (p : Slot) (letter : Char) (v : Value) :
    Option (Except FormatError (List Char)) :=
  match letter with
  | 's' => some (roomFor p fun p => p.cut v.shown)
  | 'r' => some (roomFor p fun p => p.cut v.quoted)
  | 'a' => some (roomFor p fun p => p.cut (asciiQuoted v))
  | 'd' | 'i' | 'u' => some ((wholeOf letter v).bind (wholeAt p [] 10 false))
  | 'x' => some ((exactOf letter v).bind (wholeAt p ['0', 'x'] 16 false))
  | 'X' => some ((exactOf letter v).bind (wholeAt p ['0', 'X'] 16 true))
  | 'o' => some ((exactOf letter v).bind (wholeAt p ['0', 'o'] 8 false))
  | 'e' | 'f' | 'g' | 'E' | 'F' | 'G' => some ((realOf v).bind (realAt p letter))
  | 'c' => some ((charOf v).bind fun c => roomFor p fun p => p.filled [c])
  | _ => none

/-- What comes behind a percent sign that begins a slot: what is put in,
how many characters the slot takes, and the values that are left. -/
def slotFrom (position : Nat) (cs : List Char) (vs : List Value) :
    Except FormatError (List Char × Nat × List Value) := do
  let (p, rest, vs) ← (Slot.read cs vs).mapError .ofSlot
  let before := cs.length - rest.length
  match rest, vs with
  | [], _ => .error .incomplete
  | _ :: _, [] => .error .tooFewValues
  | letter :: _, v :: vs =>
    match valueAt p letter v with
    | some x => return (← x, before + 1, vs)
    | none => .error (.unknownLetter letter (position + before))

/-- The characters from a position on, with values put in. The fuel is
their number. -/
def formatFrom : Nat → Nat → List Char → List Value → Except FormatError (List Char)
  | _, _, [], [] => .ok []
  | _, _, [], _ :: _ => .error .tooManyValues
  | 0, _, _, _ => .error .incomplete
  | fuel + 1, position, c :: rest, vs =>
    if c = '%' then
      match rest with
      -- two percent signs are one, and take no value
      | '%' :: rest => (formatFrom fuel (position + 2) rest vs).map ('%' :: ·)
      | '(' :: _ => .error .needsObject
      | _ => do
        let (put, taken, vs) ← slotFrom (position + 1) rest vs
        let others ← formatFrom fuel (position + 1 + taken) (rest.drop taken) vs
        return put ++ others
    else (formatFrom fuel (position + 1) rest vs).map (c :: ·)

/-- **A text with values put in.** -/
def format (s : String) (vs : List Value) : Except FormatError String :=
  if vs.isEmpty then .ok s
  else (formatFrom s.toList.length 0 s.toList vs).map String.ofList

end CollectionTypes.Text
