import CollectionTypes.Literal.Expr

/-!
# Parsers with a memory

A parser reads tokens from a place on. It finds an expression and stops
behind it, or it finds none and leaves the place to others, or it breaks
off with a complaint. Alternatives are tried in their order, and the first
that matches is taken.

Some rules are remembered: when such a rule is asked for again at the same
place, the answer is the earlier one. A rule can then begin with itself
(`growing`): it is first taken to find nothing, and then asked again as long
as what it finds gets longer.

Reading is done twice. Only the second time are there hints
(`hint`), rules that match what is wrong and say what is wrong with it; and
even then there are places without hints (`withoutHints`).
-/

namespace CollectionTypes.Literal

/-- **What is wrong with an expression.** -/
inductive Fault where
  /-- Cutting into tokens has come to its end. -/
  | scan (f : ScanFault)
  /-- A rule that matches what is wrong. -/
  | told (text : String)

/-- The rules that are remembered. -/
inductive Rule where
  | expression
  | starExpression
  | disjunction
  | conjunction
  | inversion
  | bitOr
  | bitXor
  | bitAnd
  | shift
  | sum
  | term
  | factor
  | awaited
  | primary
  | strings
  | arguments
  | target
  | targetItem
  | targetPrimary
  | namedHint
  deriving DecidableEq

/-- What a rule found at a place, and where it stopped. -/
structure Memory where
  rule : Rule
  found : Option Expr
  stop : Nat

/-- **The state of reading.** -/
structure Reading where
  tokens : Array Token
  /-- Why there are no more tokens. -/
  ending : ScanFault
  place : Nat := 0
  /-- How many tokens have been looked at. -/
  looked : Nat := 0
  hinting : Bool := false
  /-- What is remembered, place by place. -/
  memory : Array (List Memory)

/-- **A parser.** -/
abbrev Parser (α : Type) := OptionT (ExceptT Fault (StateM Reading)) α

namespace Parser

/-- Breaks reading off with a fault. -/
def complain {α : Type} (f : Fault) : Parser α :=
  OptionT.lift (throw f)

/-- Breaks reading off with a complaint. -/
def tell {α : Type} (text : String) : Parser α :=
  complain (.told text)

/-- The place. -/
def place : Parser Nat := do
  return (← get).place

/-- Reading goes on at a place. -/
def goTo (n : Nat) : Parser Unit :=
  modify fun r => { r with place := n }

/-- **The token at the place**, which is looked at. -/
def look : Parser Token := do
  let r ← get
  match r.tokens[r.place]? with
  | some t =>
    if r.looked ≤ r.place then set { r with looked := r.place + 1 }
    return t
  | none => complain (.scan r.ending)

/-- The token at the place, if it passes a test; reading goes on behind
it. -/
def tokenIf (p : Token → Bool) : Parser Token := do
  let t ← look
  if p t then
    modify fun r => { r with place := r.place + 1 }
    return t
  else failure

/-- A token of some kind. -/
def kind (k : Kind) : Parser Token :=
  tokenIf fun t => t.kind == k

/-- A mark or a keyword. -/
def sign (text : String) : Parser Token :=
  tokenIf fun t => (t.kind == .mark || t.kind == .keyword) && t.text == text.toList

/-- One of several marks and keywords. -/
def oneOf (texts : List String) : Parser Token :=
  tokenIf fun t =>
    (t.kind == .mark || t.kind == .keyword) && texts.contains (String.ofList t.text)

/-- Whether a parser finds something; if not, the place stays. -/
def attempt {α : Type} (p : Parser α) : Parser (Option α) := do
  let start ← place
  match ← OptionT.lift p.run with
  | some a => return some a
  | none =>
    goTo start
    return none

/-- **The first alternative that finds something.** -/
def oneOfThese {α : Type} : List (Parser α) → Parser α
  | [] => failure
  | p :: ps => do
    match ← attempt p with
    | some a => return a
    | none => oneOfThese ps

/-- The first alternative that matches; it decides, even if it finds
nothing. -/
def firstMatch {α : Type} (ps : List (Parser (Option α))) : Parser α := do
  match ← oneOfThese ps with
  | some a => return a
  | none => failure

/-- Whether something follows; the place stays. -/
def follows {α : Type} (p : Parser α) : Parser Bool := do
  let start ← place
  let found ← attempt p
  goTo start
  return found.isSome

/-- Nothing is read, but something has to follow. -/
def followed {α : Type} (p : Parser α) : Parser Unit := do
  if ← follows p then return () else failure

/-- Nothing is read, and something must not follow. -/
def notFollowed {α : Type} (p : Parser α) : Parser Unit := do
  if ← follows p then failure else return ()

/-- As many as there are, up to a number. -/
def manyUpTo {α : Type} (p : Parser α) : Nat → Parser (List α)
  | 0 => return []
  | n + 1 => do
    match ← attempt p with
    | some a => return a :: (← manyUpTo p n)
    | none => return []

/-- As many as there are. There cannot be more than there are tokens. -/
def many {α : Type} (p : Parser α) : Parser (List α) := do
  manyUpTo p ((← get).tokens.size + 1)

/-- As many as there are, and one at least. -/
def many1 {α : Type} (p : Parser α) : Parser (List α) := do
  return (← p) :: (← many p)

/-- One or more with something between them. -/
def separated {α β : Type} (between : Parser β) (p : Parser α) : Parser (List α) := do
  return (← p) :: (← many (do
    let _ ← between
    p))

/-- One or more with commas between them. -/
def commaList {α : Type} (p : Parser α) : Parser (List α) :=
  separated (sign ",") p

/-- A comma that may be missing. -/
def optionalComma : Parser Unit := do
  let _ ← attempt (sign ",")

/-- **A rule for what is wrong.** -/
def hint {α : Type} (p : Parser α) : Parser α := do
  if (← get).hinting then p else failure

/-- A parser to which there are no hints. -/
def withoutHints {α : Type} (p : Parser α) : Parser α := do
  let hinting := (← get).hinting
  modify fun r => { r with hinting := false }
  let found ← attempt p
  modify fun r => { r with hinting }
  match found with
  | some a => return a
  | none => failure

/-! ## Memory -/

/-- What is remembered of a rule at the place. -/
def remembered? (rule : Rule) : Parser (Option Memory) := do
  let _ ← look
  let r ← get
  return (r.memory[r.place]?.getD []).find? fun m => m.rule == rule

/-- Something is remembered about a place. -/
def remember (start : Nat) (m : Memory) : Parser Unit :=
  modify fun r =>
    { r with
      memory := r.memory.modify start fun ms => m :: ms.filter fun o => o.rule != m.rule }

/-- The answer that is remembered. -/
def answer (m : Memory) : Parser Expr := do
  match m.found with
  | some e =>
    goTo m.stop
    return e
  | none => failure

/-- **A remembered rule.** -/
def remembered (rule : Rule) (body : Parser Expr) : Parser Expr := do
  match ← remembered? rule with
  | some m => answer m
  | none =>
    let start ← place
    let found ← attempt body
    let m : Memory := { rule, found, stop := ← place }
    remember start m
    answer m

/-- A rule that can begin with itself, asked again as long as it finds
more. -/
def grow (rule : Rule) (body : Parser Expr) (start : Nat) (m : Memory) : Nat → Parser Expr
  | 0 => answer m
  | n + 1 => do
    remember start m
    goTo start
    let found ← attempt body
    let stop ← place
    if found.isSome && m.stop < stop then grow rule body start { rule, found, stop } n
    else answer m

/-- **A remembered rule that can begin with itself.** -/
def growing (rule : Rule) (body : Parser Expr) : Parser Expr := do
  match ← remembered? rule with
  | some m => answer m
  | none =>
    let start ← place
    grow rule body start { rule, found := none, stop := start } ((← get).tokens.size + 1)

end Parser

end CollectionTypes.Literal
