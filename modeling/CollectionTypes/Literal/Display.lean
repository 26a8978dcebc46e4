import CollectionTypes.Literal.Clause

/-!
# Brackets and what is in them

Tuples, sets, tables, comprehensions, and the arguments of calls.
-/

namespace CollectionTypes.Literal.Grammar

open CollectionTypes.Literal.Parser

variable (ask : Rule → Parser Expr)

/-! ## Round brackets -/

/-- What a function gives while it goes on. -/
def yielded : Parser Expr := do
  let _ ← sign "yield"
  oneOfThese [
    do
      let _ ← sign "from"
      let _ ← ask .expression
      return .composite .yielded,
    do
      let _ ← attempt (starExpressions ask)
      return .composite .yielded]

/-- A tuple in brackets. -/
def tuple : Parser Expr := do
  let _ ← sign "("
  let items ← attempt (do
    let first ← displayItem ask
    let _ ← sign ","
    let others ← attempt (displayItems ask)
    return first :: others.getD [])
  let _ ← sign ")"
  return .tuple (items.getD [])

/-- What is wrong with an expression in brackets. -/
def groupHint : Parser Expr :=
  oneOfThese [
    do
      let _ ← sign "("
      let _ ← starredExpression ask
      let _ ← sign ")"
      tell "cannot use starred expression here",
    do
      let _ ← sign "("
      let _ ← sign "**"
      let _ ← ask .expression
      let _ ← sign ")"
      tell "cannot use double starred expression here"]

/-- An expression in brackets. -/
def group : Parser Expr :=
  oneOfThese [
    do
      let _ ← sign "("
      let e ← oneOfThese [yielded ask, namedExpression ask]
      let _ ← sign ")"
      return e,
    hint (groupHint ask)]

/-- What is wrong with a comprehension. -/
def comprehensionHint : Parser Expr :=
  oneOfThese [
    do
      let _ ← oneOf ["[", "(", "\x7b"]
      let _ ← starredExpression ask
      loops ask
      tell "iterable unpacking cannot be used in comprehension",
    do
      let _ ← oneOf ["[", "\x7b"]
      let _ ← displayItem ask
      let _ ← sign ","
      let _ ← displayItems ask
      loops ask
      tell "did you forget parentheses around the comprehension target?",
    do
      let _ ← oneOf ["[", "\x7b"]
      let _ ← displayItem ask
      let _ ← sign ","
      loops ask
      tell "did you forget parentheses around the comprehension target?"]

/-- A comprehension in round brackets. -/
def generator : Parser Expr :=
  oneOfThese [
    do
      let _ ← sign "("
      let _ ← oneOfThese [namedAssignment ask, unnamed ask]
      loops ask
      let _ ← sign ")"
      return .composite .generator,
    hint (comprehensionHint ask)]

/-! ## Braces -/

/-- A key and its value. -/
def keyAndValue : Parser (Option Expr × Expr) := do
  let key ← ask .expression
  let _ ← sign ":"
  let value ← ask .expression
  return (some key, value)

/-- An entry of a table. -/
def entry : Parser (Option Expr × Expr) :=
  oneOfThese [
    do
      let _ ← sign "**"
      return (none, ← ask .bitOr),
    keyAndValue ask]

/-- What is wrong behind a key. -/
def valueHint : Parser Expr :=
  oneOfThese [
    do
      let _ ← ask .expression
      let _ ← sign ":"
      let _ ← sign "*"
      let _ ← ask .bitOr
      tell "cannot use a starred expression in a dictionary value",
    do
      let _ ← ask .expression
      let _ ← sign ":"
      followed (oneOf ["\x7d", ","])
      tell "expression expected after dictionary key and ':'"]

/-- What is wrong with an entry behind others. -/
def laterEntryHint : Parser Expr :=
  oneOfThese [
    do
      let _ ← ask .expression
      notFollowed (sign ":")
      tell "':' expected after dictionary key",
    valueHint ask]

/-- What is wrong with the entries of a table. -/
def entriesHint : Parser Expr :=
  oneOfThese [
    do
      let _ ← commaList (entry ask)
      let _ ← sign ","
      laterEntryHint ask,
    valueHint ask]

/-- A table. What is wrong with its entries is told at once. -/
def table : Parser Expr :=
  oneOfThese [
    do
      let _ ← sign "\x7b"
      let entries ← attempt (do
        let es ← commaList (entry ask)
        optionalComma
        return es)
      let _ ← sign "\x7d"
      return .table (entries.getD []),
    do
      let _ ← sign "\x7b"
      let e ← entriesHint ask
      let _ ← sign "\x7d"
      return e]

/-- A set. -/
def set : Parser Expr := do
  let _ ← sign "\x7b"
  let es ← displayItems ask
  let _ ← sign "\x7d"
  return .set es

/-- A comprehension of a table. -/
def tableComprehension : Parser Expr :=
  oneOfThese [
    do
      let _ ← sign "\x7b"
      let _ ← keyAndValue ask
      loops ask
      let _ ← sign "\x7d"
      return .composite .tableComprehension,
    hint (do
      let _ ← sign "\x7b"
      let _ ← sign "**"
      let _ ← ask .bitOr
      loops ask
      let _ ← sign "\x7d"
      tell "dict unpacking cannot be used in dict comprehension")]

/-- A comprehension of a set. -/
def setComprehension : Parser Expr :=
  oneOfThese [
    do
      let _ ← sign "\x7b"
      let _ ← namedExpression ask
      loops ask
      let _ ← sign "\x7d"
      return .composite .setComprehension,
    hint (comprehensionHint ask)]

/-! ## Arguments -/

/-- **An argument.** -/
inductive Argument where
  | plain (e : Expr)
  /-- An argument with a name, or a table of such arguments. -/
  | named (table : Bool)

/-- The arguments of a call. -/
def callOf (as : List Argument) : Expr :=
  .call none
    (as.filterMap fun
      | .plain e => some e
      | .named _ => none)
    (as.filterMap fun
      | .plain _ => none
      | .named table => some table)

/-- What is wrong with an argument that has a name. -/
def namedArgumentHint : Parser Argument :=
  oneOfThese [
    do
      let t ← oneOf ["True", "False", "None"]
      let _ ← sign "="
      tell ("cannot assign to " ++ String.ofList t.text),
    do
      let _ ← name
      let _ ← sign "="
      let _ ← ask .expression
      loops ask
      tell "invalid syntax. Maybe you meant '==' or ':=' instead of '='?",
    do
      notFollowed (do
        let _ ← name
        sign "=")
      let _ ← ask .expression
      let _ ← sign "="
      tell "expression cannot contain assignment, perhaps you meant \"==\"?"]

/-- An argument with a name. -/
def namedArgument : Parser Argument := do
  let _ ← name
  let _ ← sign "="
  let _ ← ask .expression
  return .named false

/-- An argument with a name, or a starred one. -/
def namedOrStarred : Parser Argument :=
  oneOfThese [
    hint (namedArgumentHint ask),
    namedArgument ask,
    do return .plain (← starredExpression ask)]

/-- An argument with a name, or a table of arguments. -/
def namedOrTable : Parser Argument :=
  oneOfThese [
    hint (namedArgumentHint ask),
    namedArgument ask,
    do
      let _ ← sign "**"
      let _ ← ask .expression
      return .named true]

/-- The arguments from the first one with a name on. -/
def laterArguments : Parser (List Argument) :=
  oneOfThese [
    do
      let starred ← commaList (namedOrStarred ask)
      let _ ← sign ","
      let tables ← commaList (namedOrTable ask)
      return starred ++ tables,
    commaList (namedOrStarred ask),
    commaList (namedOrTable ask)]

/-- An argument without a name. -/
def plainArgument : Parser Expr :=
  oneOfThese [
    starredExpression ask,
    do
      let e ← oneOfThese [namedAssignment ask, unnamed ask]
      notFollowed (sign "=")
      return e]

/-- Arguments in an order that makes sense. -/
def orderedArguments : Parser (List Argument) :=
  oneOfThese [
    do
      let plain ← commaList (plainArgument ask)
      let later ← attempt (do
        let _ ← sign ","
        laterArguments ask)
      return plain.map .plain ++ later.getD [],
    laterArguments ask]

/-- Whether an argument has no name. -/
def Argument.isPlain : Argument → Bool
  | .plain _ => true
  | .named _ => false

/-- Whether an argument is a table of arguments. -/
def Argument.isTable : Argument → Bool
  | .named table => table
  | .plain _ => false

/-- What is wrong with arguments. -/
def argumentsHint : Parser Expr :=
  firstMatch [
    do
      let _ ← orderedArguments ask
      let _ ← sign ","
      let _ ← sign "*"
      tell "iterable argument unpacking follows keyword argument unpacking",
    do
      let _ ← ask .expression
      loops ask
      let _ ← sign ","
      let _ ← attempt (oneOfThese [
        do
          let _ ← orderedArguments ask,
        do
          let _ ← ask .expression
          loops ask])
      tell "Generator expression must be parenthesized",
    do
      let _ ← name
      let _ ← sign "="
      let _ ← ask .expression
      loops ask
      tell "invalid syntax. Maybe you meant '==' or ':=' instead of '='?",
    do
      let as ← orderedArguments ask
      loops ask
      if 1 < (as.filter Argument.isPlain).length then
        tell "Generator expression must be parenthesized"
      else return none,
    do
      let _ ← orderedArguments ask
      let _ ← sign ","
      let _ ← ask .expression
      loops ask
      tell "Generator expression must be parenthesized",
    do
      let as ← orderedArguments ask
      let _ ← sign ","
      let _ ← orderedArguments ask
      tell (if as.any Argument.isTable then
          "positional argument follows keyword argument unpacking"
        else "positional argument follows keyword argument")]

/-- The arguments of a call. -/
def arguments : Parser Expr :=
  oneOfThese [
    do
      let as ← orderedArguments ask
      optionalComma
      followed (sign ")")
      return callOf as,
    hint (argumentsHint ask)]

/-- A call of something. -/
def callBehind (callee : Expr) : Parser Expr := do
  let _ ← sign "("
  let as ← attempt (ask .arguments)
  let _ ← sign ")"
  match as with
  | some (.call _ plain named) => return .call (some callee) plain named
  | _ => return .call (some callee) [] []

end CollectionTypes.Literal.Grammar
