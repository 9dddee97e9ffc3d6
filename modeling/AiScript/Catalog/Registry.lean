import Std.Data.ExtTreeMap

/-!
# Registries

A registry holds records of one sort under their ids. A record that is added takes the place of an
earlier one with the same id, and the records are listed by ascending id.
-/

namespace AiScript

/-- Records by the id that `key` reads off them. -/
structure Registry (α : Type) (key : α → UInt32) where
  entries : Std.ExtTreeMap UInt32 α
  /-- Every record is filed under its own id. -/
  keyed : ∀ {id : UInt32} {record : α}, entries[id]? = some record → key record = id

namespace Registry

variable {α : Type} {key : α → UInt32}

/-- The registry without records. -/
def empty : Registry α key := ⟨∅, by simp⟩

instance : EmptyCollection (Registry α key) := ⟨empty⟩

instance : Inhabited (Registry α key) := ⟨empty⟩

/-- File a record under its id. -/
def insert (registry : Registry α key) (record : α) : Registry α key where
  entries := registry.entries.insert (key record) record
  keyed := by
    intro id found hfound
    rw [Std.ExtTreeMap.getElem?_insert] at hfound
    split at hfound
    · next heq =>
      obtain rfl := Option.some.inj hfound
      exact Std.LawfulEqCmp.eq_of_compare heq
    · exact registry.keyed hfound

/-- File the records of a list, one after the other. -/
def ofList (records : List α) : Registry α key := records.foldl insert ∅

/-- The record with an id. -/
def find? (registry : Registry α key) (id : UInt32) : Option α := registry.entries[id]?

/-- Is there a record with this id? -/
def contains (registry : Registry α key) (id : UInt32) : Bool := (registry.find? id).isSome

/-- The records by ascending id. -/
def toList (registry : Registry α key) : List α := registry.entries.toList.map Prod.snd

/-- The number of records. -/
def size (registry : Registry α key) : Nat := registry.entries.size

end Registry

end AiScript
