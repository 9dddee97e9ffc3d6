import AiScript.Catalog.Snapshot
import Std.Data.ExtTreeSet

/-!
# Faults of a snapshot

A snapshot is consistent when its records have ids of their own, when no spell has too many effect
slots, and when every placed instance and every creature text belongs to a listed template. `faults`
lists every breach: repeated ids first, sort by sort, then oversized spells, then references.
-/

namespace AiScript

/-- The sorts of record whose ids must not repeat. -/
inductive RecordSort where
  | spell | creatureTemplate | gameObjectTemplate | creatureSpawn | gameObjectSpawn | quest
  | gameEvent
deriving DecidableEq

/-- The name of a sort of record in messages. -/
def RecordSort.name : RecordSort → String
  | .spell => "spell" | .creatureTemplate => "creature template"
  | .gameObjectTemplate => "gameobject template" | .creatureSpawn => "creature spawn"
  | .gameObjectSpawn => "gameobject spawn" | .quest => "quest" | .gameEvent => "game event"

/-- A record that refers to a template. -/
inductive TemplateUse where
  | creatureSpawn (guid : UInt32)
  | gameObjectSpawn (guid : UInt32)
  | creatureText (group : UInt8)
deriving DecidableEq

namespace TemplateUse

/-- The sort of template that is referred to. -/
def sort : TemplateUse → RecordSort
  | .creatureSpawn _ | .creatureText _ => .creatureTemplate
  | .gameObjectSpawn _ => .gameObjectTemplate

/-- The name of the record that refers to the template. -/
def text : TemplateUse → String
  | .creatureSpawn guid => s!"creature spawn {guid}"
  | .gameObjectSpawn guid => s!"gameobject spawn {guid}"
  | .creatureText group => s!"creature text group {group}"

end TemplateUse

/-- A breach of consistency in a snapshot. -/
inductive Fault where
  | repeatedId (sort : RecordSort) (id : UInt32)
  | oversizedSpell (id : UInt32) (slots : Nat)
  | missingTemplate (use : TemplateUse) (entry : UInt32)
deriving DecidableEq

/-- The text of a fault. -/
def Fault.text : Fault → String
  | .repeatedId sort id => s!"duplicate {sort.name} id {id}"
  | .oversizedSpell id slots =>
    s!"invalid value (spell {id} has {slots} effect slots (max {Spell.slotCount}))"
  | .missingTemplate use entry => s!"missing {use.sort.name} {entry} ({use.text})"

/-- Ids that were gone through: the set of them, and the occurrences of those that were in the set
already. -/
structure TrackedIds where
  seen : Std.ExtTreeSet UInt32 := ∅
  repeated : List UInt32 := []

namespace TrackedIds

/-- Go through one more id. -/
def track (tracked : TrackedIds) (id : UInt32) : TrackedIds where
  seen := tracked.seen.insert id
  repeated := if tracked.seen.contains id then tracked.repeated ++ [id] else tracked.repeated

/-- Go through a list of ids. -/
def ofIds (ids : List UInt32) : TrackedIds := ids.foldl track {}

end TrackedIds

namespace Snapshot

/-- One fault for each occurrence of an id after its first. -/
def repetitions (sort : RecordSort) (tracked : TrackedIds) : List Fault :=
  tracked.repeated.map (.repeatedId sort)

/-- One fault for each spell with too many effect slots. -/
def oversizedSpells (spells : List Spell) : List Fault :=
  (spells.filter fun spell => Spell.slotCount < spell.effects.length).map fun spell =>
    .oversizedSpell spell.id spell.effects.length

/-- One fault for each use of a template that is not among those gone through. -/
def missingTemplates (templates : TrackedIds) (uses : List (TemplateUse × UInt32)) : List Fault :=
  (uses.filter fun use => !templates.seen.contains use.2).map fun use =>
    .missingTemplate use.1 use.2

/-- Every fault of a snapshot. References are looked up among the entries of templates that were
gone through for repetitions. -/
def faults (snapshot : Snapshot) : List Fault :=
  let creatures := TrackedIds.ofIds (snapshot.creatureTemplates.map Template.entry)
  let gameObjects := TrackedIds.ofIds (snapshot.gameObjectTemplates.map Template.entry)
  repetitions .spell (.ofIds (snapshot.spells.map Spell.id))
    ++ repetitions .creatureTemplate creatures
    ++ repetitions .gameObjectTemplate gameObjects
    ++ repetitions .creatureSpawn (.ofIds (snapshot.creatureSpawns.map Spawn.guid))
    ++ repetitions .gameObjectSpawn (.ofIds (snapshot.gameObjectSpawns.map Spawn.guid))
    ++ repetitions .quest (.ofIds (snapshot.quests.map Quest.id))
    ++ repetitions .gameEvent (.ofIds (snapshot.gameEvents.map GameEvent.id))
    ++ oversizedSpells snapshot.spells
    ++ missingTemplates creatures
      (snapshot.creatureSpawns.map fun spawn => (.creatureSpawn spawn.guid, spawn.entry))
    ++ missingTemplates gameObjects
      (snapshot.gameObjectSpawns.map fun spawn => (.gameObjectSpawn spawn.guid, spawn.entry))
    ++ missingTemplates creatures
      (snapshot.creatureTexts.map fun text => (.creatureText text.group, text.entry))

end Snapshot

end AiScript
