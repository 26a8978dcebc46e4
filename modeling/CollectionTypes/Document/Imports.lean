import CollectionTypes.Table

/-!
# Imported types

A document imports types of the host platform, some of them under a local
alias. `Imports` holds the names imported so far, each with its alias if
it has one. A name registered with an alias of its own keeps that alias
when it is registered again without one.
-/

namespace CollectionTypes

/-- **The imported names**, each with its alias. -/
abbrev Imports := Table String (Option String)

namespace Imports

/-- **The imports with one more name.** An alias that is empty or the name
itself says nothing. -/
def add (t : Imports) (name : String) (localName : Option String := none) : Imports :=
  match localName with
  | some a =>
    if a != "" && a != name then t.insert name (some a)
    else if t.contains name then t else t.insert name none
  | none => if t.contains name then t else t.insert name none

/-- The imports with more names. -/
def addAll (t : Imports) (names : List String) : Imports :=
  names.foldl (fun t name => t.add name) t

/-- The imports that names make. -/
def ofNames (names : List String) : Imports :=
  addAll Table.empty names

/-- How a name and its alias are written. -/
def specifier (e : String × Option String) : String :=
  match e.2 with
  | some localName => e.1 ++ " as " ++ localName
  | none => e.1

/-- The entries in the order of their names. -/
def arranged (t : Imports) : List (String × Option String) :=
  t.entries.mergeSort fun a b => decide (a.1 ≤ b.1)

/-- **What is imported, as it is written**, in the order of the names. -/
def specifiers (t : Imports) : List String :=
  t.arranged.map specifier

end Imports

end CollectionTypes
