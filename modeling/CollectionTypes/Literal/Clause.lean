import CollectionTypes.Literal.Parser

/-!
# Parts of expressions

Names, starred expressions, the clauses of comprehensions and the heads of
functions. All rules that can contain themselves are reached through `ask`,
which stands for the rules that are remembered.
-/

namespace CollectionTypes.Literal.Grammar

open CollectionTypes.Literal.Parser

variable (ask : Rule → Parser Expr)

/-- A name. -/
def name : Parser Expr := do
  return .name (← kind .name).text

/-- A starred expression among arguments. -/
def starredExpression : Parser Expr := do
  let _ ← sign "*"
  return .starred (← ask .expression)

/-- A star before an operand, or an expression that an alternative gives. -/
def starredOr (p : Parser Expr) : Parser Expr :=
  oneOfThese [
    do
      let _ ← sign "*"
      return .starred (← ask .bitOr),
    p]

/-- A name that is given to the value of an expression. -/
def namedAssignment : Parser Expr := do
  let _ ← name
  let _ ← sign ":="
  let _ ← ask .expression
  return .composite .namedExpression

/-- An expression that is not given a name. -/
def unnamed : Parser Expr := do
  let e ← ask .expression
  notFollowed (sign ":=")
  return e

/-- An expression that can be given a name. -/
def namedExpression : Parser Expr :=
  oneOfThese [namedAssignment ask, hint (ask .namedHint), unnamed ask]

/-- An expression in a display. -/
def displayItem : Parser Expr :=
  starredOr ask (namedExpression ask)

/-- The expressions in a display, with an optional comma behind them. -/
def displayItems : Parser (List Expr) := do
  let es ← commaList (displayItem ask)
  optionalComma
  return es

/-- One expression, or a tuple of several that has no brackets. -/
def openTuple (p : Parser Expr) : Parser Expr := do
  let first ← p
  let others ← many (do
    let _ ← sign ","
    p)
  let comma ← attempt (sign ",")
  if others.isEmpty && comma.isNone then return first else return .tuple (first :: others)

/-- Expressions that can be starred. -/
def starExpressions : Parser Expr :=
  openTuple (ask .starExpression)

/-! ## Targets of loops -/

/-- What can follow if a target goes on. -/
def targetGoesOn : Parser Token :=
  oneOf ["(", "[", "."]

/-- Targets in brackets: several, or one with a comma. -/
def targetTuple : Parser Unit := do
  let _ ← ask .target
  let others ← many (do
    let _ ← sign ","
    ask .target)
  if others.isEmpty then
    let _ ← sign ","
  else optionalComma

/-- A target that is no part of anything. -/
def targetAtom : Parser Expr :=
  oneOfThese [
    name,
    do
      let _ ← sign "("
      let e ← ask .targetItem
      let _ ← sign ")"
      return e,
    do
      let _ ← sign "("
      let _ ← attempt (targetTuple ask)
      let _ ← sign ")"
      return .tuple []]

/-- A target, which can be starred once. -/
def target : Parser Expr :=
  oneOfThese [
    do
      let _ ← sign "*"
      notFollowed (sign "*")
      return .starred (← ask .target),
    ask .targetItem]

/-- A target without a star. -/
def targetItem : Parser Expr :=
  oneOfThese [
    do
      let _ ← ask .targetPrimary
      let _ ← sign "."
      let _ ← name
      notFollowed targetGoesOn
      return .composite .member,
    targetAtom ask]

/-- The targets of a loop. -/
def targets : Parser Unit :=
  oneOfThese [
    do
      let _ ← ask .target
      notFollowed (sign ","),
    do
      let _ ← ask .target
      let _ ← many (do
        let _ ← sign ","
        ask .target)
      optionalComma]

/-! ## Clauses of comprehensions -/

/-- The head of a loop, up to what it runs through. -/
def loopHead : Parser Unit := do
  let _ ← attempt (sign "async")
  let _ ← sign "for"
  targets ask
  let _ ← sign "in"

/-- What cannot be the target of a loop. -/
def loopHint : Parser Unit := do
  let _ ← attempt (sign "async")
  let _ ← sign "for"
  match (← starExpressions ask).noTarget? with
  | some e => tell ("cannot assign to " ++ e.title)
  | none => failure

/-- One loop of a comprehension and its conditions. -/
def loop : Parser Unit := do
  match ← attempt (loopHead ask) with
  | some _ =>
    let _ ← ask .disjunction
    let _ ← many (do
      let _ ← sign "if"
      ask .disjunction)
  | none => hint (loopHint ask)

/-- The loops of a comprehension. -/
def loops : Parser Unit := do
  let _ ← many1 (loop ask)

/-! ## Heads of functions -/

/-- What ends a parameter: a comma, or a colon that is left alone. -/
def parameterEnd : Parser Unit :=
  oneOfThese [
    do
      let _ ← sign ",",
    followed (sign ":")]

/-- A default value. -/
def defaultValue : Parser Unit :=
  oneOfThese [
    do
      let _ ← sign "="
      let _ ← ask .expression,
    hint (do
      let _ ← sign "="
      followed (oneOf [")", ","])
      tell "expected default value expression")]

/-- A parameter without a default value. -/
def plainParameter : Parser Unit := do
  let _ ← name
  parameterEnd

/-- A parameter with a default value. -/
def defaultParameter : Parser Unit := do
  let _ ← name
  defaultValue ask
  parameterEnd

/-- A parameter that may have a default value. -/
def anyParameter : Parser Unit := do
  let _ ← name
  let _ ← attempt (defaultValue ask)
  parameterEnd

/-- A slash and what ends it like a parameter. -/
def slashEnd : Parser Unit := do
  let _ ← sign "/"
  parameterEnd

/-- Parameters without default values before a slash. -/
def plainSlash : Parser Unit := do
  let _ ← many1 plainParameter
  slashEnd

/-- Parameters before a slash, of which the last have default values. -/
def defaultSlash : Parser Unit := do
  let _ ← many plainParameter
  let _ ← many1 (defaultParameter ask)
  slashEnd

/-- What is wrong with the parameter behind two stars. -/
def doubleStarHint : Parser Unit :=
  oneOfThese [
    do
      let _ ← sign "**"
      let _ ← name
      let _ ← sign "="
      tell "var-keyword argument cannot have default value",
    do
      let _ ← sign "**"
      let _ ← name
      let _ ← sign ","
      let _ ← name
      tell "arguments cannot follow var-keyword argument",
    do
      let _ ← sign "**"
      let _ ← name
      let _ ← sign ","
      let _ ← oneOf ["*", "**", "/"]
      tell "arguments cannot follow var-keyword argument"]

/-- The parameter behind two stars. -/
def doubleStar : Parser Unit :=
  oneOfThese [
    hint doubleStarHint,
    do
      let _ ← sign "**"
      plainParameter]

/-- What is wrong with the parameters from a star on. -/
def starHint : Parser Unit :=
  oneOfThese [
    do
      let _ ← sign "*"
      let _ ← oneOfThese [
        sign ":",
        do
          let _ ← sign ","
          oneOf [":", "**"]]
      tell "named arguments must follow bare *",
    do
      let _ ← sign "*"
      let _ ← name
      let _ ← sign "="
      tell "var-positional argument cannot have default value",
    do
      let _ ← sign "*"
      oneOfThese [
        plainParameter,
        do
          let _ ← sign ","]
      let _ ← many (anyParameter ask)
      let _ ← sign "*"
      oneOfThese [
        plainParameter,
        do
          let _ ← sign ","]
      tell "* argument may appear only once"]

/-- The parameters from a star on. -/
def starParameters : Parser Unit :=
  oneOfThese [
    hint (starHint ask),
    do
      let _ ← sign "*"
      plainParameter
      let _ ← many (anyParameter ask)
      let _ ← attempt doubleStar,
    do
      let _ ← sign "*"
      let _ ← sign ","
      let _ ← many1 (anyParameter ask)
      let _ ← attempt doubleStar,
    doubleStar]

/-- What is wrong with the parameters of a function. -/
def parametersHint : Parser Unit :=
  oneOfThese [
    do
      let _ ← many plainParameter
      oneOfThese [
        defaultSlash ask,
        do
          let _ ← many1 (defaultParameter ask)]
      plainParameter
      tell "non-default argument follows default argument",
    do
      let _ ← many plainParameter
      let _ ← sign "("
      let _ ← commaList name
      optionalComma
      let _ ← sign ")"
      tell "Lambda expression parameters cannot be parenthesized",
    do
      let _ ← sign "/"
      let _ ← sign ","
      tell "at least one argument must precede /",
    do
      oneOfThese [plainSlash, defaultSlash ask]
      let _ ← many (anyParameter ask)
      let _ ← sign "/"
      tell "/ may appear only once",
    do
      let _ ← attempt (oneOfThese [plainSlash, defaultSlash ask])
      let _ ← many (anyParameter ask)
      let _ ← sign "*"
      oneOfThese [
        do
          let _ ← sign ",",
        plainParameter]
      let _ ← many (anyParameter ask)
      let _ ← sign "/"
      tell "/ must be ahead of *",
    do
      let _ ← many1 (anyParameter ask)
      let _ ← sign "/"
      let _ ← sign "*"
      tell "expected comma between / and *"]

/-- The parameters of a function. -/
def parameters : Parser Unit :=
  oneOfThese [
    hint (parametersHint ask),
    do
      plainSlash
      let _ ← many plainParameter
      let _ ← many (defaultParameter ask)
      let _ ← attempt (starParameters ask),
    do
      defaultSlash ask
      let _ ← many (defaultParameter ask)
      let _ ← attempt (starParameters ask),
    do
      let _ ← many1 plainParameter
      let _ ← many (defaultParameter ask)
      let _ ← attempt (starParameters ask),
    do
      let _ ← many1 (defaultParameter ask)
      let _ ← attempt (starParameters ask),
    starParameters ask]

/-- A function. -/
def function : Parser Expr := do
  let _ ← sign "lambda"
  let _ ← attempt (parameters ask)
  let _ ← sign ":"
  let _ ← ask .expression
  return .composite .function

end CollectionTypes.Literal.Grammar
