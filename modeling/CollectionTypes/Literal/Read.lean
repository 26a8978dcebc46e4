import CollectionTypes.Literal.Grammar
import CollectionTypes.Literal.Scan
import CollectionTypes.Text.Newline

/-!
# Reading expressions

`Expr.read` reads a whole text as an expression, or says what is wrong with
it. First the text is read without hints. If that fails, it is read again
with hints; and if they find nothing, all there is to say is that something
is wrong, or that a line is indented without a reason.

A complaint gives way to a fault further on in the text if that fault is
final, and to a bracket that is never closed if it was opened on an earlier
line. A hint gives way only if the end of the text has not come into sight.
-/

namespace CollectionTypes.Literal

namespace Fault

/-- The wording of the fault. -/
def message : Fault → String
  | scan f => f.message
  | told text => text

/-- The wording of the fault in an expression that is filled into a text. -/
def innerMessage : Fault → String
  | scan f => if f.isFinal then f.message else "f-string: " ++ f.message
  | told text => "f-string: " ++ text

end Fault

namespace Reading

/-- The state in which reading begins. -/
def ofScan (s : Scan) : Reading where
  tokens := s.tokens.toArray
  ending := (s.fault.map Prod.fst).getD .unexpectedEnd
  memory := Array.replicate s.tokens.length []

/-- The state in which reading begins again, with hints. -/
def again (r : Reading) : Reading :=
  { r with place := 0, hinting := true, memory := Array.replicate r.tokens.size [] }

/-- The last token that has been looked at. -/
def last? (r : Reading) : Option Token :=
  r.tokens[r.looked - 1]?

/-- The fault further on to which complaints give way. -/
def outranking? (s : Scan) (r : Reading) : Option ScanFault :=
  match s.fault with
  | none => none
  | some (f, brackets) =>
    if f.isFinal then some f
    else
      match brackets with
      | [] => none
      | b :: _ =>
        if b.line < (r.last?.map Token.line).getD 0 then some (.neverClosed b.opening) else none

/-- A complaint, or the fault to which it gives way. -/
def giveWay (s : Scan) (r : Reading) (f : Fault) : Fault :=
  ((outranking? s r).map Fault.scan).getD f

/-- The fault that reading breaks off with. -/
def settle (s : Scan) (r : Reading) (f : Fault) : Fault :=
  match f with
  | .scan _ => f
  | .told _ => if r.last?.any Token.reachesEnd then f else giveWay s r f

/-- The complaint if there is nothing else to say. -/
def plainComplaint (first : Reading) : String :=
  match first.last?.map Token.kind with
  | some .indent => "unexpected indent"
  | some .dedent => "unexpected unindent"
  | _ => "invalid syntax"

/-- **What a parser finds in a text**, or what is wrong with the text. -/
def run (p : Parser Expr) (s : Scan) : Except Fault Expr :=
  match StateT.run (ExceptT.run (OptionT.run p)) (ofScan s) with
  | (.ok (some e), _) => .ok e
  | (.error f, r) => .error (settle s r f)
  | (.ok none, first) =>
    match StateT.run (ExceptT.run (OptionT.run p)) first.again with
    | (.error f, r) => .error (settle s r f)
    | (.ok _, r) =>
      match first.last?.map Token.kind with
      | some .indent | some .dedent => .error (.told (plainComplaint first))
      | _ => .error (giveWay s r (.told (plainComplaint first)))

end Reading

namespace Grammar

open CollectionTypes.Literal.Parser

/-- A whole text. -/
def whole (ask : Rule → Parser Expr) : Parser Expr := do
  let e ← openTuple (ask .expression)
  let _ ← many (kind .lineEnd)
  let _ ← kind .finish
  return e

/-- How deep rules can be nested in some tokens. -/
def fuelFor (s : Scan) : Nat :=
  40 * (s.tokens.length + 2)

/-- What is wrong with an expression that is filled into a text. Given is
how deep such texts can still be nested. -/
def readInner : Nat → List Char → Except String Unit
  | 0, _ => .ok ()
  | fuel + 1, cs =>
    let s := Scan.ofChars (cs ++ ['\n'])
    match Reading.run (starExpressions (rules (readInner fuel) (fuelFor s))) s with
    | .ok _ => .ok ()
    | .error f => .error f.innerMessage

end Grammar

/-- **The expression that a text writes down.** -/
def Expr.read (cs : List Char) : Except String Expr :=
  let s := Scan.ofChars (Text.unifyLineEnds cs)
  let ask := Grammar.rules (Grammar.readInner cs.length) (Grammar.fuelFor s)
  (Reading.run (Grammar.whole ask) s).mapError Fault.message

end CollectionTypes.Literal
