import CollectionTypes.Literal.Read

/-!
# Literals among the expressions

`Datum.ofExpr` picks the literals out of the expressions: constants,
numbers with a sign, complex numbers written as a sum, and tuples, sets and
tables of literals. Sets and the keys of tables hold only what does not
change, and neither sets nor tables are among that.
-/

namespace CollectionTypes.Literal

/-- **A number.** -/
inductive Quantity where
  | whole (n : Int)
  | real
  | imaginary

/-- **The value of a literal**, as far as it matters. -/
inductive Datum where
  /-- A constant that is no number. -/
  | word
  | number (q : Quantity)
  | tuple (items : List Datum)
  | set
  | table

/-- **Why an expression is no literal.** -/
inductive DatumFault where
  | noLiteral
  /-- A table in a table that is no entry of it. -/
  | noKey
  /-- Something that can change, where nothing of that kind can stand. -/
  | changeable (kind : String)
  /-- A whole number that is too large to be part of a complex one. -/
  | tooLarge

/-- The wording of the fault. -/
def DatumFault.message : DatumFault → String
  | noLiteral => "malformed node or string"
  | noKey => "malformed node or string: None"
  | changeable kind => "unhashable type: '" ++ kind ++ "'"
  | tooLarge => "int too large to convert to float"

namespace Datum

mutual

/-- What in a value can change, if anything can. -/
def changeable? : Datum → Option String
  | word => none
  | number _ => none
  | tuple items => changeableAmong? items
  | set => some "set"
  | table => some "dict"

/-- What among some values can change. -/
def changeableAmong? : List Datum → Option String
  | [] => none
  | d :: ds =>
    match changeable? d with
    | some kind => some kind
    | none => changeableAmong? ds

end

/-- A value, if it cannot change. -/
def lasting (d : Datum) : Except DatumFault Unit :=
  match d.changeable? with
  | some kind => .error (.changeable kind)
  | none => .ok ()

/-- The number that an expression is. -/
def quantity? : Expr → Option Quantity
  | .constant (.whole n) => some (.whole n)
  | .constant .real => some .real
  | .constant .imaginary => some .imaginary
  | _ => none

/-- The number that an expression with an optional sign is. -/
def signedQuantity? : Expr → Option Quantity
  | .signed minus e =>
    (quantity? e).map fun
      | .whole n => .whole (if minus then -n else n)
      | q => q
  | e => quantity? e

/-- The least whole number that is too large for a floating-point number. -/
def tooLargeFrom : Nat :=
  Nat.pow 2 1024 - Nat.pow 2 970

/-- A real number and an imaginary one, put together. -/
def complex (left : Option Quantity) (right : Option Quantity) : Except DatumFault Datum :=
  match left, right with
  | some (.whole n), some .imaginary =>
    if tooLargeFrom ≤ n.natAbs then .error .tooLarge else .ok (.number .imaginary)
  | some .real, some .imaginary => .ok (.number .imaginary)
  | _, _ => .error .noLiteral

mutual

/-- **The value of a literal.** -/
def ofExpr : Expr → Except DatumFault Datum
  | .constant (.whole n) => .ok (.number (.whole n))
  | .constant .real => .ok (.number .real)
  | .constant .imaginary => .ok (.number .imaginary)
  | .constant _ => .ok .word
  | .tuple es => do return .tuple (← ofExprs es)
  | .set es => do
    ofMembers es
    return .set
  | .call (some (.name text)) [] [] =>
    if text = "set".toList then .ok .set else .error .noLiteral
  | .table entries => do
    ofEntries entries
    return .table
  | .sum _ left right => complex (signedQuantity? left) (quantity? right)
  | .signed minus e =>
    match signedQuantity? (.signed minus e) with
    | some q => .ok (.number q)
    | none => .error .noLiteral
  | _ => .error .noLiteral

/-- The values of some literals. -/
def ofExprs : List Expr → Except DatumFault (List Datum)
  | [] => .ok []
  | e :: es => do return (← ofExpr e) :: (← ofExprs es)

/-- The values of some literals, which are put into a set one by one. -/
def ofMembers : List Expr → Except DatumFault Unit
  | [] => .ok ()
  | e :: es => do
    (← ofExpr e).lasting
    ofMembers es

/-- The values of some entries, which are put into a table one by one. -/
def ofEntries : List (Option Expr × Expr) → Except DatumFault Unit
  | [] => .ok ()
  | (none, _) :: _ => .error .noKey
  | (some key, value) :: entries => do
    let k ← ofExpr key
    let _ ← ofExpr value
    k.lasting
    ofEntries entries

end

end Datum

end CollectionTypes.Literal
