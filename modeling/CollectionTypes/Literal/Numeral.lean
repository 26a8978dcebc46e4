import CollectionTypes.Literal.Token
import CollectionTypes.Text.Digit

/-!
# Numbers in literals

A number is written in one of four bases, with single underscores between
its digits where one likes, and in base ten perhaps with a fraction, an
exponent and the mark of an imaginary number. `Numeral.rest` finds where
such a number ends. A name cannot follow a number directly; a few
keywords can.
-/

namespace CollectionTypes.Literal

/-- Whether a character can be in a name, as far as cutting into tokens is
concerned: all characters outside of ASCII can. -/
def isNamePart (c : Char) : Bool :=
  c.isAlphanum || c == '_' || 128 ≤ c.toNat

namespace Numeral

/-- What is behind the digits of a number, which can have single
underscores between them. -/
def digitsRest (kind : NumberKind) (isDigit : Char → Bool) :
    List Char → Except ScanFault (List Char)
  | '_' :: c :: cs =>
    if isDigit c then digitsRest kind isDigit cs
    else if c.isDigit && (kind == .octal || kind == .binary) then .error (.badDigit c kind)
    else .error (.badNumber kind)
  | ['_'] => .error (.badNumber kind)
  | c :: cs =>
    if isDigit c then digitsRest kind isDigit cs
    else if c.isDigit then .error (.badDigit c kind)
    else .ok (c :: cs)
  | [] => .ok []

/-- What is behind decimal digits. -/
def decimalRest (cs : List Char) : Except ScanFault (List Char) :=
  digitsRest .decimal Char.isDigit cs

/-- Whether a keyword comes next, and no longer name. -/
def keywordNext (word : String) (cs : List Char) : Bool :=
  word.toList.isPrefixOf cs && !(cs.drop word.length).head?.any isNamePart

/-- Whether something comes next that can follow a number directly although
it begins like a name. -/
def keywordFollows (cs : List Char) : Bool :=
  ["and", "else", "for", "or", "not"].any (keywordNext · cs)
    || ["if", "in", "is"].any fun w => w.toList.isPrefixOf cs

/-- What is behind a number, if the number can end there. -/
def ending (kind : NumberKind) (cs : List Char) : Except ScanFault (List Char) :=
  if (cs.head?.any fun c => c.toNat < 128 && isNamePart c) && !keywordFollows cs then
    .error (.badNumber kind)
  else .ok cs

/-- What is behind a number whose digits have ended: the mark of an
imaginary number may follow. -/
def suffixRest : List Char → Except ScanFault (List Char)
  | 'j' :: cs => ending .imaginary cs
  | 'J' :: cs => ending .imaginary cs
  | cs => ending .decimal cs

/-- What is behind a number whose whole part and fraction have ended: an
exponent may follow. -/
def exponentRest : List Char → Except ScanFault (List Char)
  | [] => .ok []
  | e :: cs =>
    if e == 'e' || e == 'E' then
      match cs with
      | sign :: d :: rest =>
        if sign == '+' || sign == '-' then
          if d.isDigit then do suffixRest (← decimalRest rest) else .error (.badNumber .decimal)
        else if sign.isDigit then do suffixRest (← decimalRest (d :: rest))
        else ending .decimal (e :: cs)
      | [d] =>
        if d == '+' || d == '-' then .error (.badNumber .decimal)
        else if d.isDigit then .ok []
        else ending .decimal (e :: cs)
      | [] => ending .decimal (e :: cs)
    else suffixRest (e :: cs)

/-- What is behind a number, from behind its point on. -/
def fractionRest (cs : List Char) : Except ScanFault (List Char) :=
  if cs.head?.any Char.isDigit then do exponentRest (← decimalRest cs) else exponentRest cs

/-- What is behind a number whose whole part has ended. -/
def pointRest : List Char → Except ScanFault (List Char)
  | '.' :: cs => fractionRest cs
  | cs => exponentRest cs

/-- What is behind the digits of a number in a base of its own. One
underscore can stand before them. -/
def basedRest (kind : NumberKind) (isDigit : Char → Bool) (cs : List Char) :
    Except ScanFault (List Char) := do
  let cs := if cs.head? == some '_' then cs.tail else cs
  match cs with
  | [] => .error (.badNumber kind)
  | c :: _ =>
    if isDigit c then ending kind (← digitsRest kind isDigit cs)
    else if c.isDigit && kind != .hexadecimal then .error (.badDigit c kind)
    else .error (.badNumber kind)

/-- Whether a character is a digit in base sixteen. -/
def isHexDigit (c : Char) : Bool :=
  c.isDigit || ('a' ≤ c && c ≤ 'f') || ('A' ≤ c && c ≤ 'F')

/-- What is behind zeros at the beginning of a number, which can have
single underscores between them. -/
def zerosRest : List Char → Except ScanFault (List Char)
  | '_' :: c :: cs =>
    if c == '0' then zerosRest cs
    else if c.isDigit then .ok (c :: cs)
    else .error (.badNumber .decimal)
  | ['_'] => .error (.badNumber .decimal)
  | '0' :: cs => zerosRest cs
  | cs => .ok cs

/-- What is behind a number that begins with a zero, from behind that zero
on. A whole number in base ten has no zeros in front. -/
def zeroRest (cs : List Char) : Except ScanFault (List Char) := do
  match cs with
  | 'x' :: rest | 'X' :: rest => basedRest .hexadecimal isHexDigit rest
  | 'o' :: rest | 'O' :: rest => basedRest .octal (fun c => '0' ≤ c && c ≤ '7') rest
  | 'b' :: rest | 'B' :: rest => basedRest .binary (fun c => c == '0' || c == '1') rest
  | _ =>
    let rest ← zerosRest cs
    if rest.head?.any Char.isDigit then
      let rest ← decimalRest rest
      if rest.head?.any fun c => ['.', 'e', 'E', 'j', 'J'].contains c then pointRest rest
      else .error .leadingZeros
    else pointRest rest

/-- **What is behind a number** that begins with a digit, or with a point
and a digit. -/
def rest : List Char → Except ScanFault (List Char)
  | '.' :: cs => fractionRest cs
  | '0' :: cs => zeroRest cs
  | cs => do pointRest (← decimalRest cs)

end Numeral

end CollectionTypes.Literal
