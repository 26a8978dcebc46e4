import CollectionTypes.Literal.Token

/-!
# Expressions

What a literal is made of is a small part of what can be written where a
literal is expected. All the rest is an expression too, and is told apart
from a literal only later; of those expressions only the name of their kind
is kept (`Composite`). Everything that cannot be assigned to is called by
that name in complaints (`Expr.title`).
-/

namespace CollectionTypes.Literal

/-- **A constant.** -/
inductive Constant where
  | none
  | true
  | false
  | ellipsis
  /-- A quoted text. -/
  | text
  | whole (n : Nat)
  | real
  | imaginary
  deriving DecidableEq

/-- **An expression of which only the kind matters.** -/
inductive Composite where
  | member
  | operation
  | comparison
  | conditional
  | namedExpression
  | function
  | generator
  | setComprehension
  | tableComprehension
  | yielded
  | awaited
  | filledText
  deriving DecidableEq

/-- The name of the kind. -/
def Composite.title : Composite → String
  | member => "attribute"
  | operation => "expression"
  | comparison => "comparison"
  | conditional => "conditional expression"
  | namedExpression => "named expression"
  | function => "lambda"
  | generator => "generator expression"
  | setComprehension => "set comprehension"
  | tableComprehension => "dict comprehension"
  | yielded => "yield expression"
  | awaited => "await expression"
  | filledText => "f-string expression"

/-- **An expression.** -/
inductive Expr where
  | name (text : List Char)
  | constant (c : Constant)
  | tuple (es : List Expr)
  | set (es : List Expr)
  /-- A table; an entry without a key is a table whose entries are taken. -/
  | table (entries : List (Option Expr × Expr))
  /-- A sign before an expression. -/
  | signed (minus : Bool) (e : Expr)
  /-- A sum or a difference. -/
  | sum (minus : Bool) (left right : Expr)
  /-- The question whether the one is in the other. -/
  | membership (element : Expr)
  | starred (e : Expr)
  /-- A call, or the arguments of one if there is nothing to call. Of
  arguments with a name it is kept whether they are a table of them. -/
  | call (callee : Option Expr) (arguments : List Expr) (named : List Bool)
  | composite (c : Composite)

namespace Expr

/-- The name of the expression's kind. -/
def title : Expr → String
  | name _ => "name"
  | constant .none => "None"
  | constant .true => "True"
  | constant .false => "False"
  | constant .ellipsis => "ellipsis"
  | constant _ => "literal"
  | tuple _ => "tuple"
  | set _ => "set display"
  | table _ => "dict literal"
  | signed _ _ => "expression"
  | sum _ _ _ => "expression"
  | membership _ => "comparison"
  | starred _ => "starred"
  | call _ _ _ => "function call"
  | composite c => c.title

mutual

/-- **What in an expression cannot be the target of a loop**, if anything
cannot. -/
def noTarget? : Expr → Option Expr
  | name _ => none
  | composite .member => none
  | composite .comparison => none
  | tuple es => noTargetAmong? es
  | starred e => noTarget? e
  | membership e => noTarget? e
  | e => some e

/-- The first of some expressions, or of their parts, that cannot be the
target of a loop. -/
def noTargetAmong? : List Expr → Option Expr
  | [] => none
  | e :: es =>
    match noTarget? e with
    | some bad => some bad
    | none => noTargetAmong? es

end

end Expr

end CollectionTypes.Literal
