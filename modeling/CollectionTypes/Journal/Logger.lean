import CollectionTypes.Journal.Basic
import CollectionTypes.Text.Upper
import CollectionTypes.Value.Misuse
import CollectionTypes.Value.Shown

/-!
# Loggers

Entries are written down by loggers. Every logger belongs to the program's
own, whose name its name starts with (`loggerName`). How important an entry
has to be to be shown is a number, which may be given by name; a name that
is no level stands for warnings (`thresholdOf`).
-/

namespace CollectionTypes

/-- The name of the program's own logger. -/
def ownLogger : String := "directus_typegen"

/-- **The name of a logger** of the program. -/
def loggerName (name : String) : String :=
  if name = ownLogger ∨ (ownLogger ++ ".").toList.isPrefixOf name.toList then name
  else ownLogger ++ "." ++ name

/-- The numbers of levels by their names. -/
def levelNumbers : List (String × Int) :=
  [("CRITICAL", 50), ("FATAL", 50), ("ERROR", 40), ("WARN", 30), ("WARNING", 30),
    ("INFO", 20), ("DEBUG", 10), ("NOTSET", 0)]

/-- A value that is no level. -/
structure NoLevel where
  value : Value

/-- The wording of the error. -/
def NoLevel.message (e : NoLevel) : String :=
  "Level not an integer or a valid string: " ++ e.value.shown

/-- **The number of a loosely typed level.** -/
def thresholdOf : Value → Except NoLevel Int
  | .text s =>
    let name := String.ofList (Text.upperAll s.toList)
    .ok (((levelNumbers.find? fun l => l.1 == name).map Prod.snd).getD 30)
  | .int n => .ok n
  | .bool b => .ok (if b then 1 else 0)
  | v => .error ⟨v⟩

end CollectionTypes
