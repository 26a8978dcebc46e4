import CollectionTypes.Naming.Member
import CollectionTypes.Naming.Pascal
import CollectionTypes.Naming.Singular
import CollectionTypes.Value.Misuse

/-!
# The names that a collection gives rise to

A collection gives its name to a type (`typeName`), to the member that
lists its items (`singular`), and, if the host platform provides it, to
the local alias of the host's own type (`aliasName`). The names of
collections that the host provides carry a mark in front, which the type
name leaves out.

Each of these also has a form for a loosely typed name, which says what
stands in the way when the name is no text: `singularOf`, `pascalOf`,
`unmarkedOf`, `typeNameOf`, `aliasNameOf`, `memberOf`. On a text they are
the plain functions (`typeNameOf_text` and its like).
-/

namespace CollectionTypes.Naming

/-- A name without the mark in front; a name without the mark as it is. -/
def unmarked (mark name : String) : String :=
  if mark.toList.isPrefixOf name.toList then
    String.ofList (name.toList.drop mark.toList.length)
  else name

/-- Whether a name carries a mark; the empty mark is carried by none. -/
def isMarked (mark name : String) : Bool :=
  mark != "" && mark.toList.isPrefixOf name.toList

/-- **The type name of a collection.** -/
def typeName (name : String) : String :=
  pascal (singular name)

/-- The type name of a collection without its mark. -/
def unmarkedTypeName (mark name : String) : String :=
  typeName (unmarked mark name)

/-- **The local alias of the host's own type**: the type name with the
mark. -/
def aliasName (name : String) : String :=
  typeName name

/-! ## Loosely typed names -/

/-- The singular of a loosely typed name; one that is not present stays. -/
def singularOf (v : Value) : Except Misuse Value :=
  if v.truthy then
    match v with
    | .text s => .ok (.text (singular s))
    | _ => .error (.lacks v.kind "lower")
  else .ok v

/-- The words of a loosely typed name put together; one that is not
present has none. -/
def pascalOf (v : Value) : Except Misuse String :=
  if v.truthy then
    match v with
    | .text s => .ok (pascal s)
    | _ => .error (.notText v.kind)
  else .ok ""

/-- Whether a loosely typed name carries a loosely typed mark; a mark that
is not present is carried by none. -/
def isMarkedOf (mark v : Value) : Except Misuse Bool :=
  if mark.truthy then
    match v, mark with
    | .text name, .text start => .ok (isMarked start name)
    | .text _, _ => .error (.notStart mark.kind)
    | _, _ => .error (.lacks v.kind "startswith")
  else .ok false

/-- A loosely typed name without its mark. -/
def unmarkedOf (mark v : Value) : Except Misuse Value := do
  if ← isMarkedOf mark v then
    match v, mark with
    | .text name, .text start => return .text (unmarked start name)
    | _, _ => return v
  else return v

/-- The type name of a loosely typed name, without a mark. -/
def typeNameOf (mark v : Value) : Except Misuse String := do
  pascalOf (← singularOf (← unmarkedOf mark v))

/-- The alias of a loosely typed name. -/
def aliasNameOf (v : Value) : Except Misuse String := do
  pascalOf (← singularOf v)

/-- A loosely typed member name as it is written. -/
def memberOf (v : Value) : Except Misuse String :=
  match v with
  | .text s => .ok (member s)
  | _ => .error (.notText v.kind)

/-! ## On texts -/

theorem singular_empty : singular "" = "" := by
  unfold singular
  rw [show ("" : String).toList = [] from rfl, singularChars_nil]

@[simp] theorem singularOf_text (s : String) :
    singularOf (.text s) = .ok (.text (singular s)) := by
  unfold singularOf
  by_cases h : s = ""
  · subst h
    rw [singular_empty]
    rfl
  · rw [Value.truthy_text, if_pos (bne_iff_ne.mpr h)]

@[simp] theorem pascalOf_text (s : String) : pascalOf (.text s) = .ok (pascal s) := by
  unfold pascalOf
  by_cases h : s = ""
  · subst h
    rfl
  · rw [Value.truthy_text, if_pos (bne_iff_ne.mpr h)]

@[simp] theorem isMarkedOf_text (mark name : String) :
    isMarkedOf (.text mark) (.text name) = .ok (isMarked mark name) := by
  unfold isMarkedOf
  by_cases h : mark = ""
  · subst h
    rfl
  · rw [Value.truthy_text, if_pos (bne_iff_ne.mpr h)]

end CollectionTypes.Naming
