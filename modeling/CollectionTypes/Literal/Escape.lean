import CollectionTypes.Literal.Numeral
import CollectionTypes.Text.Cut
import CollectionTypes.Text.Quoted

/-!
# Escapes in quoted texts

In a quoted text a backslash begins an escape: a character by its code, in
base sixteen with two, four or eight digits, or by its name. What is wrong
with an escape is told with its place. Places are counted after every
character outside of ASCII has been written as an escape of its own, so that
such a character counts for ten (`spread`).

Letters in front of the quotes can make bytes of the text or switch the
escapes off. Which names of characters there are is not known here: every
name is taken for one.
-/

namespace CollectionTypes.Literal

/-- **A quoted text**, without its quotes. -/
structure Quoted where
  /-- The letters in front. -/
  letters : List Char
  body : List Char

namespace Quoted

/-- The quoted text that a token writes down. -/
def ofChars (cs : List Char) : Quoted :=
  let letters := cs.takeWhile Char.isAlpha
  let quoted := cs.drop letters.length
  let long := match quoted with
    | a :: b :: c :: _ => a == b && b == c && 6 ≤ quoted.length
    | _ => false
  let n := if long then 3 else 1
  { letters := letters.map Char.toLower
    body := (quoted.drop n).take (quoted.length - 2 * n) }

/-- Whether the text is for bytes. -/
def isBytes (q : Quoted) : Bool :=
  q.letters.contains 'b'

/-- Whether there are no escapes. -/
def isRaw (q : Quoted) : Bool :=
  q.letters.contains 'r'

/-- Whether there are expressions to be filled in. -/
def isFilled (q : Quoted) : Bool :=
  q.letters.contains 'f'

end Quoted

/-! ## Escapes of characters -/

/-- **A text with escapes for all characters outside of ASCII.** A backslash
before such a character is written as an escape, too. -/
def spread : List Char → List Char
  | [] => []
  | '\\' :: c :: cs =>
    if c.toNat < 128 then '\\' :: c :: spread cs
    else "\\u005c\\U".toList ++ Text.hexPadded 8 c.toNat ++ spread cs
  | c :: cs =>
    if c.toNat < 128 then c :: spread cs
    else "\\U".toList ++ Text.hexPadded 8 c.toNat ++ spread cs

/-- **An escape with a fault**: from where to where it reaches, and what is
wrong. -/
structure EscapeFault where
  start : Nat
  stop : Nat
  reason : String

/-- How many digits the code of a character has. -/
def codeLength? (c : Char) : Option Nat :=
  [('x', 2), ('u', 4), ('U', 8)].lookup c

/-- The value of digits in base sixteen. -/
def hexNumber (cs : List Char) : Nat :=
  cs.foldl (fun n c =>
    16 * n + (if c.isDigit then c.toNat - 48 else c.toLower.toNat - 87)) 0

/-- The largest code point. -/
def maxCode : Nat := 1114111

/-- The first fault among the escapes of a text, whose first character has
some place. -/
def escapeFault? (place : Nat) : List Char → Option EscapeFault
  | '\\' :: c :: cs =>
    match codeLength? c with
    | some n =>
      let digits := (cs.takeWhile Numeral.isHexDigit).take n
      if digits.length < n then
        some {
          start := place
          stop := place + 2 + digits.length
          reason := "truncated \\" ++ String.singleton c ++ String.ofList (List.replicate n 'X')
            ++ " escape" }
      else if maxCode < hexNumber digits then
        some { start := place, stop := place + 2 + n, reason := "illegal Unicode character" }
      else escapeFault? (place + 2 + n) (cs.drop n)
    | none =>
      if c = 'N' then
        let name := cs.tail.takeWhile (· != '}')
        let bad (length : Nat) : Option EscapeFault :=
          some {
            start := place
            stop := place + 2 + length
            reason := "malformed \\N character escape" }
        if cs.head? ≠ some '{' then bad 0
        else if (cs.tail.drop name.length).isEmpty || name.isEmpty then bad (1 + name.length)
        else escapeFault? (place + 4 + name.length) (cs.tail.drop (name.length + 1))
      else escapeFault? (place + 2) cs
  | _ :: cs => escapeFault? (place + 1) cs
  | [] => none
termination_by cs => cs.length
decreasing_by
  all_goals simp only [List.length_cons, List.length_drop, List.length_tail]; omega

/-- What is wrong with the escapes of a text. -/
def escapeComplaint? (cs : List Char) : Option String :=
  (escapeFault? 0 (spread cs)).map fun f =>
    "(unicode error) 'unicodeescape' codec can't decode bytes in position " ++ toString f.start
      ++ "-" ++ toString (f.stop - 1) ++ ": " ++ f.reason

/-! ## Escapes of bytes -/

/-- The place of the first escape of a byte that has too few digits. -/
def byteFault? (place : Nat) : List Char → Option Nat
  | '\\' :: 'x' :: cs =>
    match cs with
    | a :: b :: rest =>
      if Numeral.isHexDigit a then
        if Numeral.isHexDigit b then byteFault? (place + 4) rest else some (place + 1)
      else some place
    | [a] => some (if Numeral.isHexDigit a then place + 1 else place)
    | [] => some place
  | '\\' :: _ :: cs => byteFault? (place + 2) cs
  | _ :: cs => byteFault? (place + 1) cs
  | [] => none

/-- What is wrong with a text for bytes. -/
def bytesComplaint? (q : Quoted) : Option String :=
  if q.body.any fun c => 128 ≤ c.toNat then
    some "bytes can only contain ASCII literal characters"
  else if q.isRaw then none
  else
    (byteFault? 0 q.body).map fun place =>
      "(value error) invalid \\x escape at position " ++ toString place

/-- **What is wrong with a quoted text** into which nothing is filled. -/
def Quoted.complaint? (q : Quoted) : Option String :=
  if q.isBytes then bytesComplaint? q
  else if q.isRaw then none
  else escapeComplaint? q.body

end CollectionTypes.Literal
