import CollectionTypes.Table
import CollectionTypes.Value.Name

/-!
# Which fields the host platform owns

Records about fields, kept apart from the schema, say which fields the
host platform owns. A record counts when it names a collection and a field
and has an object under `meta`; the last record of a field wins. An object
without the mark `system` describes a field that a project added.
-/

namespace CollectionTypes

/-- **Whose a field is**, by the meta data of a field; nothing when there
are none. -/
def systemFlag? (v : Value) : Option Bool :=
  v.members?.map fun ms => (Value.get ms "system").truthy

/-- What the records say about one field. -/
structure Flag where
  collection : Name
  field : Name
  system : Bool
  deriving DecidableEq, Repr

/-- **What the records say**, by collection and field. -/
abbrev Flags := Table (Key × Key) Flag

namespace Flags

/-- The flags with one more; a flag set before keeps its place. -/
def record (flags : Flags) (collection field : Name) (system : Bool) : Flags :=
  let key := (collection.key, field.key)
  if flags.contains key then flags.modify key fun f => { f with system }
  else flags.insert key ⟨collection, field, system⟩

/-- The flag of a field. -/
def system? (flags : Flags) (collection field : Name) : Option Bool :=
  (flags.find? (collection.key, field.key)).map Flag.system

/-- The flags with what one record says. -/
def take (flags : Flags) (v : Value) : Except Misuse Flags :=
  match v.members? with
  | none => .ok flags
  | some ms =>
    let collection := Value.get ms "collection"
    let field := Value.get ms "field"
    if collection.truthy && field.truthy then
      match systemFlag? (Value.get ms "meta") with
      | none => .ok flags
      | some system => do
        let collection ← Name.ofValue collection
        let field ← Name.ofValue field
        return flags.record collection field system
    else .ok flags

/-- **The flags that records make.** -/
def ofRecords (v : Value) : Except Misuse Flags :=
  if v.truthy then do (← v.elements).foldlM take Table.empty else .ok Table.empty

theorem contains_iff (flags : Flags) (key : Key × Key) :
    flags.contains key = (flags.find? key).isSome := rfl

/-- **The last record wins**, and no other field is touched. -/
theorem system?_record (flags : Flags) (c f c' f' : Name) (b : Bool) :
    (flags.record c f b).system? c' f'
      = if (c.key, f.key) = (c'.key, f'.key) then some b else flags.system? c' f' := by
  unfold record system?
  by_cases hin : flags.contains (c.key, f.key) = true
  · rw [if_pos hin, Table.find?_modify]
    split
    · next h =>
      obtain ⟨old, hold⟩ := Option.isSome_iff_exists.mp (contains_iff flags _ ▸ hin)
      rw [← h, hold]
      rfl
    · rfl
  · rw [if_neg hin, Table.find?_insert]
    split <;> rfl

end Flags

end CollectionTypes
