import CollectionTypes.Literal.Datum
import CollectionTypes.Text.Blank
import CollectionTypes.Text.Quoted
import CollectionTypes.Text.Word

/-!
# Handlers of tags

The parameters of a tag whose name begins with an at-sign say what happens
when somebody points at the text: they are the name of a handler with its
arguments in brackets, or arguments alone. Arguments are literals. Nothing
of this shows, except that parameters can be wrong.
-/

namespace CollectionTypes.Console

/-- **What is wrong with the parameters of a tag.** -/
inductive HandlerFault where
  /-- The character of code zero among the arguments, which nothing may hold
  that is to be read. -/
  | holdsNull (parameters : List Char)
  /-- Arguments that cannot be read. -/
  | unreadable (arguments parameters : List Char) (complaint : String)
  /-- Arguments that are no literal. -/
  | noLiteral (parameters : List Char) (fault : Literal.DatumFault)

/-- The wording of the fault. -/
def HandlerFault.message : HandlerFault → String
  | holdsNull parameters =>
    "error parsing " ++ Text.quoted (String.ofList parameters)
      ++ "; source code string cannot contain null bytes"
  | unreadable arguments parameters complaint =>
    "error parsing " ++ Text.quoted (String.ofList arguments) ++ " in "
      ++ Text.quoted (String.ofList parameters) ++ "; " ++ complaint
  | noLiteral parameters fault =>
    "error parsing " ++ Text.quoted (String.ofList parameters) ++ "; " ++ fault.message

/-- Whether a character can be in the name of a handler. -/
def isHandlerChar (c : Char) : Bool :=
  c == '_' || c == '.' || Text.isWordChar c

/-- Whether characters are brackets with something on one line in them. -/
def areBracketed (cs : List Char) : Bool :=
  cs.head? == some '(' && cs.getLast? == some ')' && !cs.contains '\n'

/-- **The arguments** in parameters. A handler's name is left out, and a name
alone has no arguments. -/
def argumentsOf (parameters : List Char) : List Char :=
  let cs := Text.trimBlanks parameters
  match cs.dropWhile isHandlerChar with
  | [] => "()".toList
  | behind => if areBracketed behind then behind else cs

/-- What is wrong with the parameters of a tag, if anything is. -/
def handlerFault? (parameters : List Char) : Option HandlerFault :=
  let arguments := argumentsOf parameters
  if arguments.contains '\x00' then some (.holdsNull parameters)
  else
    match Literal.Expr.read arguments with
    | .error complaint => some (.unreadable arguments parameters complaint)
    | .ok e =>
      match Literal.Datum.ofExpr e with
      | .error fault => some (.noLiteral parameters fault)
      | .ok _ => none

end CollectionTypes.Console
