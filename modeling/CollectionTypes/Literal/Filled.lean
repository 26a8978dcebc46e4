import CollectionTypes.Literal.Escape

/-!
# Texts with expressions to be filled in

Between braces in such a text stands an expression, behind it perhaps an
equals sign, the letter of a conversion and a format, in which there can be
expressions again. Two braces are one brace. What is wrong with an expression
is found out by `inner`, which reads it in round brackets.
-/

namespace CollectionTypes.Literal.Filled

/-- What is read, or what is wrong. -/
abbrev Reader (α : Type) := Except String α

/-- A complaint about a text with expressions. -/
def complain {α : Type} (text : String) : Reader α :=
  .error ("f-string: " ++ text)

/-- The complaint that an expression does not end. -/
def noEnd {α : Type} : Reader α :=
  complain "expecting '\x7d'"

/-! ## Plain text -/

/-- What is left behind plain text, and whether it ended at two braces. -/
abbrev PlainEnd := List Char × Bool

/-- The end of plain text at a brace. In a format, braces are never
doubled. -/
def endAtBrace (inFormat : Bool) (brace : Char) (cs : List Char) : Reader PlainEnd :=
  if inFormat then return (brace :: cs, false)
  else if cs.head? = some brace then return (cs.tail, true)
  else if brace = '}' then complain "single '\x7d' is not allowed"
  else return (brace :: cs, false)

theorem length_behind_le (d : Char) (cs : List Char) :
    (Text.behind d cs).length ≤ cs.length := by
  unfold Text.behind
  rw [List.length_drop]
  have h := (List.dropWhile_suffix (· != d) (l := cs)).length_le
  omega

/-- **Where plain text ends.** A backslash takes the meaning of the next
character away, unless that is a brace; the name of a character stands in
braces of its own. -/
def plainEnd (inFormat raw : Bool) : List Char → Reader PlainEnd
  | [] => return ([], false)
  | c :: cs =>
    if c = '\\' && !raw then
      match cs with
      | [] => return ([], false)
      | 'N' :: '{' :: rest => plainEnd inFormat raw (Text.behind '}' rest)
      | 'N' :: _ :: rest => plainEnd inFormat raw rest
      | d :: rest =>
        if d = '{' || d = '}' then endAtBrace inFormat d rest
        else plainEnd inFormat raw rest
    else if c = '{' || c = '}' then endAtBrace inFormat c cs
    else plainEnd inFormat raw cs
termination_by cs => cs.length
decreasing_by
  · have h := length_behind_le '}' rest
    simp only [List.length_cons]
    omega
  all_goals simp only [List.length_cons]; omega

/-! ## Expressions -/

/-- A quote that is open in an expression: the character, and whether it was
written three times. -/
structure OpenQuote where
  quote : Char
  long : Bool

/-- The most brackets that can be open. -/
def maxBrackets : Nat := 200

/-- **Where an expression ends**: what is left from the mark behind it
on. -/
def expressionEnd (quote : Option OpenQuote) (brackets : List Char) :
    List Char → Reader (List Char)
  | [] =>
    match quote, brackets with
    | some _, _ => complain "unterminated string"
    | none, b :: _ => complain ("unmatched '" ++ String.singleton b ++ "'")
    | none, [] => noEnd
  | c :: cs =>
    if c = '\\' then .error "f-string expression part cannot include a backslash"
    else
      match quote with
      | some q =>
        if c = q.quote then
          if q.long then
            if [c, c].isPrefixOf cs then expressionEnd none brackets (cs.drop 2)
            else expressionEnd quote brackets cs
          else expressionEnd none brackets cs
        else expressionEnd quote brackets cs
      | none =>
        if c = '\'' || c = '"' then
          if [c, c].isPrefixOf cs then expressionEnd (some ⟨c, true⟩) brackets (cs.drop 2)
          else expressionEnd (some ⟨c, false⟩) brackets cs
        else if c = '(' || c = '[' || c = '{' then
          if maxBrackets ≤ brackets.length then complain "too many nested parenthesis"
          else expressionEnd none (c :: brackets) cs
        else if c = '#' then .error "f-string expression part cannot include '#'"
        else if brackets.isEmpty && ['!', ':', '}', '=', '<', '>'].contains c then
          if cs.head? = some '=' && ['!', '=', '<', '>'].contains c then
            expressionEnd none brackets (cs.drop 1)
          else if c = '<' || c = '>' then expressionEnd none brackets cs
          else return c :: cs
        else if c = ')' || c = ']' || c = '}' then
          match brackets with
          | [] => complain ("unmatched '" ++ String.singleton c ++ "'")
          | b :: others =>
            if b = (if c = ')' then '(' else if c = ']' then '[' else '{') then
              expressionEnd none others cs
            else
              complain ("closing parenthesis '" ++ String.singleton c
                ++ "' does not match opening parenthesis '" ++ String.singleton b ++ "'")
        else expressionEnd none brackets cs
termination_by cs => cs.length
decreasing_by all_goals simp only [List.length_cons, List.length_drop]; omega

/-- Whether a character is a blank around an expression. -/
def isGap (c : Char) : Bool :=
  c == ' ' || c == '\t' || c == '\n' || c == '\x0c'

/-- An expression read, which is followed by some mark. -/
def readInner (inner : List Char → Reader Unit) (expression : List Char)
    (mark : Option Char) : Reader Unit :=
  if expression.all isGap then
    match mark with
    | some '}' => complain "empty expression not allowed"
    | some c => complain ("expression required before '" ++ String.singleton c ++ "'")
    | none => noEnd
  else inner ('(' :: expression ++ [')'])

/-- What is left behind the letter of a conversion, if there is one. -/
def conversionRest : List Char → Reader (List Char)
  | '!' :: c :: rest =>
    if c = 's' || c = 'r' || c = 'a' then return rest
    else complain "invalid conversion character: expected 's', 'r', or 'a'"
  | ['!'] => noEnd
  | cs => return cs

/-- Whether a character is a blank behind the equals sign of an
expression. -/
def isGapBehindEquals (c : Char) : Bool :=
  c == ' ' || (9 ≤ c.toNat && c.toNat ≤ 13)

/-- What is left behind the equals sign of an expression, if there is
one. -/
def equalsRest : List Char → List Char
  | '=' :: cs => cs.dropWhile isGapBehindEquals
  | cs => cs

/-- **What is left behind an expression** and its closing brace. A format is
read by `format`. -/
def expressionRest (inner : List Char → Reader Unit)
    (format : List Char → Reader (List Char)) (cs : List Char) : Reader (List Char) := do
  let rest ← expressionEnd none [] cs
  readInner inner (cs.take (cs.length - rest.length)) rest.head?
  let rest ← conversionRest (equalsRest rest)
  match rest with
  | [] => noEnd
  | ':' :: behind =>
    if behind.isEmpty then noEnd
    else
      match ← format behind with
      | '}' :: rest => return rest
      | _ => noEnd
  | '}' :: rest => return rest
  | _ => noEnd

/-- Expressions can have expressions in their formats, and these no more. -/
def maxDepth : Nat := 2

/-- **What is left behind plain text and expressions**, at some depth of
formats. Every step reads a character at least. -/
def piecesRest (inner : List Char → Reader Unit) (raw : Bool) :
    Nat → Nat → List Char → Reader (List Char)
  | 0, _, _ => return []
  | fuel + 1, depth, cs => do
    let (rest, doubled) ← plainEnd (0 < depth) raw cs
    let text := cs.take (cs.length - rest.length - (if doubled then 1 else 0))
    if !raw then
      match escapeComplaint? text with
      | some complaint => throw complaint
      | none => pure ()
    if doubled then piecesRest inner raw fuel depth rest
    else
      match rest with
      | '{' :: body =>
        if maxDepth ≤ depth then complain "expressions nested too deeply"
        else
          let rest ← expressionRest inner (piecesRest inner raw fuel (depth + 1)) body
          piecesRest inner raw fuel depth rest
      | _ =>
        if 0 < depth && rest.head? ≠ some '}' then noEnd else return rest

end Filled

/-- **What is wrong with a text** into which expressions are filled. -/
def Quoted.filledComplaint? (inner : List Char → Except String Unit) (q : Quoted) :
    Option String :=
  match Filled.piecesRest inner q.isRaw (q.body.length + 2) 0 q.body with
  | .ok _ => none
  | .error complaint => some complaint

end CollectionTypes.Literal
