/-!
# The singular of a collection's name

Collections are mostly named by English plurals, and a type is named for
one item. `singular` undoes the plural by its ending alone, capitals and
small letters counting alike:

* `ies` becomes `y` when something stands in front of it, with a capital
  `Y` for a capital `I`;
* after a hissing sound, `es` is dropped;
* `ss`, `us` and `is` are no plurals;
* any other `s` is dropped when something stands in front of it.

The endings are ASCII, and no other character has a small form that could
complete one, so the small forms of the ASCII letters decide.
-/

namespace CollectionTypes.Naming

/-- Whether a name ends in one of some endings, written in small letters. -/
def endsIn (endings : List String) (cs : List Char) : Bool :=
  endings.any fun e => e.toList.isSuffixOf (cs.map Char.toLower)

/-- The endings behind a hissing sound. -/
def hissing : List String := ["sses", "xes", "zes", "ches", "shes"]

/-- The endings that look like a plural and are none. -/
def unchanging : List String := ["ss", "us", "is"]

/-- The `y` for an `ies`, with the capital of its `i`. -/
def yFor (cs : List Char) : Char :=
  if cs[cs.length - 3]? = some 'I' then 'Y' else 'y'

/-- The singular of the characters of a name. -/
def singularChars (cs : List Char) : List Char :=
  if endsIn ["ies"] cs && 3 < cs.length then cs.take (cs.length - 3) ++ [yFor cs]
  else if endsIn hissing cs then cs.take (cs.length - 2)
  else if endsIn unchanging cs then cs
  else if endsIn ["s"] cs && 1 < cs.length then cs.take (cs.length - 1)
  else cs

/-- **The singular of a name.** -/
def singular (s : String) : String :=
  String.ofList (singularChars s.toList)

theorem toList_singular (s : String) : (singular s).toList = singularChars s.toList := by
  unfold singular
  rw [String.toList_ofList]

theorem singularChars_nil : singularChars [] = [] := by
  simp [singularChars, endsIn, hissing, unchanging]

end CollectionTypes.Naming
