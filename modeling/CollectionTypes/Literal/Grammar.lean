import CollectionTypes.Literal.Display
import CollectionTypes.Literal.Filled
import CollectionTypes.Text.Digit

/-!
# The grammar of expressions

From the weakest binding to the strongest: conditions, `or`, `and`, `not`,
comparisons, the operators on bits, sums and products, signs, powers,
members and calls, and what stands alone. `body` gives each remembered rule
its meaning in terms of the others; `rules` ties the knot. The fuel bounds
how deep the rules are nested, and nesting needs a token for every round
through all of them.
-/

namespace CollectionTypes.Literal.Grammar

open CollectionTypes.Literal.Parser

variable (inner : List Char → Except String Unit) (ask : Rule → Parser Expr)

/-! ## What stands alone -/

/-- The value of a number. Only of whole numbers the value is kept. -/
def numberValue (text : List Char) : Constant :=
  let digits := text.filter (· != '_')
  let based (base : Nat) : Constant :=
    .whole ((digits.drop 2).foldl (fun n c => base * n + hexNumber [c]) 0)
  match digits with
  | '0' :: 'x' :: _ | '0' :: 'X' :: _ => based 16
  | '0' :: 'o' :: _ | '0' :: 'O' :: _ => based 8
  | '0' :: 'b' :: _ | '0' :: 'B' :: _ => based 2
  | _ =>
    if digits.getLast?.any fun c => c == 'j' || c == 'J' then .imaginary
    else if digits.all Char.isDigit then
      .whole (digits.foldl (fun n c => 10 * n + (c.toNat - 48)) 0)
    else .real

/-- Whether a number has more digits in base ten than a whole number may
have. Zeros in front can only be followed by zeros. -/
def tooManyDigits? (text : List Char) : Option Nat :=
  let digits := text.filter (· != '_')
  if Text.maxDigits < digits.length && digits.all Char.isDigit && digits.head? != some '0' then
    some digits.length
  else none

/-- A number. -/
def number : Parser Expr := do
  let t ← kind .number
  match tooManyDigits? t.text with
  | some n =>
    tell (Text.tooManyDigits n
      ++ " - Consider hexadecimal for huge integer literals to avoid decimal conversion limits.")
  | none => return .constant (numberValue t.text)

/-- Quoted texts one behind the other, which are one text. They are all for
bytes, or all are not. -/
def joinQuoted (bytes : Bool) (filled : Bool) : List Quoted → Parser Expr
  | [] => return if filled then .composite .filledText else .constant .text
  | q :: qs => do
    if !q.isFilled then
      match q.complaint? with
      | some complaint => tell complaint
      | none => pure ()
    if q.isBytes != bytes then tell "cannot mix bytes and nonbytes literals"
    if q.isFilled then
      match q.filledComplaint? inner with
      | some complaint => tell complaint
      | none => pure ()
    joinQuoted bytes (filled || q.isFilled) qs

/-- Quoted texts. -/
def strings : Parser Expr := do
  let qs := (← many1 (kind .quoted)).map fun t => Quoted.ofChars t.text
  joinQuoted inner (qs.head?.any Quoted.isBytes) false qs

/-- A constant that is written as a word or a mark. -/
def constant (text : String) (c : Constant) : Parser Expr := do
  let _ ← sign text
  return .constant c

/-- What stands alone. -/
def atom : Parser Expr :=
  oneOfThese [
    name,
    constant "True" .true,
    constant "False" .false,
    constant "None" .none,
    do
      followed (kind .quoted)
      ask .strings,
    number,
    do
      followed (sign "(")
      oneOfThese [tuple ask, group ask, generator ask],
    do
      followed (sign "\x7b")
      oneOfThese [table ask, set ask, tableComprehension ask, setComprehension ask],
    constant "..." .ellipsis]

/-- Members and calls. -/
def primary : Parser Expr :=
  oneOfThese [
    do
      let _ ← ask .primary
      let _ ← sign "."
      let _ ← name
      return .composite .member,
    do
      let callee ← ask .primary
      return .call (some callee) [← generator ask] [],
    do
      let callee ← ask .primary
      callBehind ask callee,
    atom ask]

/-- Members and calls of which more follows. -/
def targetPrimary : Parser Expr :=
  oneOfThese [
    do
      let _ ← ask .targetPrimary
      let _ ← sign "."
      let _ ← name
      followed targetGoesOn
      return .composite .member,
    do
      let callee ← ask .targetPrimary
      let g ← generator ask
      followed targetGoesOn
      return .call (some callee) [g] [],
    do
      let callee ← ask .targetPrimary
      let e ← callBehind ask callee
      followed targetGoesOn
      return e,
    do
      let e ← atom ask
      followed targetGoesOn
      return e]

/-! ## Operators -/

/-- Something that is waited for. -/
def awaited : Parser Expr :=
  oneOfThese [
    do
      let _ ← sign "await"
      let _ ← ask .primary
      return .composite .awaited,
    ask .primary]

/-- A power. -/
def power : Parser Expr :=
  oneOfThese [
    do
      let _ ← ask .awaited
      let _ ← sign "**"
      let _ ← ask .factor
      return .composite .operation,
    ask .awaited]

/-- A sign before something. -/
def factor : Parser Expr :=
  oneOfThese [
    do
      let _ ← sign "+"
      return .signed false (← ask .factor),
    do
      let _ ← sign "-"
      return .signed true (← ask .factor),
    do
      let _ ← sign "~"
      let _ ← ask .factor
      return .composite .operation,
    power ask]

/-- A rule's own operation, or a rule that binds more strongly. -/
def operation (marks : List String) (left right : Rule) : Parser Expr :=
  oneOfThese [
    do
      let _ ← ask left
      let _ ← oneOf marks
      let _ ← ask right
      return .composite .operation,
    ask right]

/-- A sum or a difference. -/
def sum : Parser Expr :=
  oneOfThese [
    do
      let left ← ask .sum
      let mark ← oneOf ["+", "-"]
      return .sum (mark.text == ['-']) left (← ask .term),
    ask .term]

/-- The mark of a comparison; whether it asks for membership. -/
def comparisonMark : Parser Bool :=
  oneOfThese [
    do
      let _ ← oneOf ["==", "!=", "<=", "<", ">=", ">"]
      return false,
    do
      let _ ← sign "not"
      let _ ← sign "in"
      return false,
    do
      let _ ← sign "in"
      return true,
    do
      let _ ← sign "is"
      let _ ← sign "not"
      return false,
    do
      let _ ← sign "is"
      return false]

/-- One more operand of a comparison. -/
def comparisonPart : Parser Bool :=
  oneOfThese [
    do
      let isIn ← comparisonMark
      let _ ← ask .bitOr
      return isIn,
    do
      let _ ← sign "is"
      let _ ← ask .bitOr
      return false]

/-- A comparison. -/
def comparison : Parser Expr :=
  oneOfThese [
    do
      let left ← ask .bitOr
      let parts ← many1 (comparisonPart ask)
      return if parts.head? = some true then .membership left else .composite .comparison,
    ask .bitOr]

/-- A negation. -/
def inversion : Parser Expr :=
  oneOfThese [
    do
      let _ ← sign "not"
      let _ ← ask .inversion
      return .composite .operation,
    comparison ask]

/-- Operands of one rule with a keyword between them. -/
def chain (keyword : String) (operand : Rule) : Parser Expr :=
  oneOfThese [
    do
      let _ ← ask operand
      let _ ← many1 (do
        let _ ← sign keyword
        ask operand)
      return .composite .operation,
    ask operand]

/-! ## Expressions -/

/-- An expression with a condition. -/
def conditional : Parser Expr := do
  let _ ← ask .disjunction
  let _ ← sign "if"
  let _ ← ask .disjunction
  let _ ← sign "else"
  let _ ← ask .expression
  return .composite .conditional

/-- Whether an expression is the name of something that was once a
statement. -/
def isFormerStatement : Expr → Bool
  | .name text => text == "print".toList || text == "exec".toList
  | _ => false

/-- How many brackets are open behind the last token. -/
def depthBehind : Parser Nat := do
  let r ← get
  return ((r.tokens[r.place - 1]?).map Token.depth).getD 0

/-- What is wrong with an expression: two expressions with nothing between
them, or a condition without an alternative. -/
def expressionHint : Parser Expr :=
  firstMatch [
    do
      notFollowed (oneOfThese [
        do
          let _ ← kind .name
          kind .quoted,
        tokenIf fun t => t.kind == .name && beginsSoftKeyword t.text])
      let first ← ask .disjunction
      let _ ← withoutHints (oneOfThese [conditional ask, ask .disjunction, function ask])
      if isFormerStatement first then return none
      else if (← depthBehind) = 0 then return none
      else tell "invalid syntax. Perhaps you forgot a comma?",
    do
      let _ ← ask .disjunction
      let _ ← sign "if"
      let _ ← ask .disjunction
      notFollowed (oneOf ["else", ":"])
      tell "expected 'else' after 'if' expression"]

/-- A former statement, which has become a call. -/
def formerStatementHint : Parser Expr := do
  let t ← kind .name
  notFollowed (sign "(")
  let _ ← starExpressions ask
  if isFormerStatement (.name t.text) then
    let text := String.ofList t.text
    tell ("Missing parentheses in call to '" ++ text ++ "'. Did you mean " ++ text ++ "(...)?")
  else failure

/-- An expression. -/
def expression : Parser Expr :=
  oneOfThese [
    hint (expressionHint ask),
    hint (formerStatementHint ask),
    conditional ask,
    ask .disjunction,
    function ask]

/-- What is wrong where a name is given to something. -/
def namedHint : Parser Expr :=
  oneOfThese [
    do
      let e ← ask .expression
      let _ ← sign ":="
      let _ ← ask .expression
      tell ("cannot use assignment expressions with " ++ e.title),
    do
      let _ ← name
      let _ ← sign "="
      let _ ← ask .bitOr
      notFollowed (oneOf ["=", ":="])
      tell "invalid syntax. Maybe you meant '==' or ':=' instead of '='?",
    do
      notFollowed (oneOfThese [
        tuple ask,
        generator ask,
        constant "True" .true,
        constant "None" .none,
        constant "False" .false])
      let e ← ask .bitOr
      let _ ← sign "="
      let _ ← ask .bitOr
      notFollowed (oneOf ["=", ":="])
      tell ("cannot assign to " ++ e.title ++ " here. Maybe you meant '==' instead of '='?")]

/-! ## The rules -/

/-- **The meaning of a rule** in terms of the others. -/
def body : Rule → Parser Expr
  | .expression => expression ask
  | .starExpression => starredOr ask (ask .expression)
  | .disjunction => chain ask "or" .conjunction
  | .conjunction => chain ask "and" .inversion
  | .inversion => inversion ask
  | .bitOr => operation ask ["|"] .bitOr .bitXor
  | .bitXor => operation ask ["^"] .bitXor .bitAnd
  | .bitAnd => operation ask ["&"] .bitAnd .shift
  | .shift => operation ask ["<<", ">>"] .shift .sum
  | .sum => sum ask
  | .term => operation ask ["*", "/", "//", "%", "@"] .term .factor
  | .factor => factor ask
  | .awaited => awaited ask
  | .primary => primary ask
  | .strings => strings inner
  | .arguments => arguments ask
  | .target => target ask
  | .targetItem => targetItem ask
  | .targetPrimary => targetPrimary ask
  | .namedHint => namedHint ask

/-- Whether a rule can begin with itself. -/
def isGrowing : Rule → Bool
  | .bitOr | .bitXor | .bitAnd | .shift | .sum | .term | .primary | .targetPrimary => true
  | _ => false

/-- **The rules**, nested up to some depth. -/
def rules : Nat → Rule → Parser Expr
  | 0, _ => failure
  | fuel + 1, rule => fun r =>
    (if isGrowing rule then growing rule (body inner (fun other => rules fuel other) rule)
      else remembered rule (body inner (fun other => rules fuel other) rule)) r

end CollectionTypes.Literal.Grammar
