/-!
# Catalog snapshots

The reference data that rules and waypoints are checked against arrives as one snapshot, a list of
records of each sort. Nothing here rules out records that share an id or that point nowhere; finding
those is the business of `AiScript.Catalog.Faults`.
-/

namespace AiScript

/-- One effect slot of a spell. -/
structure SpellEffect where
  effect : UInt32 := 0
  implicitTargetA : UInt32 := 0
  implicitTargetB : UInt32 := 0
  miscValue : Int32 := 0
  itemType : UInt32 := 0
deriving DecidableEq

/-- What the checks need to know of a spell. -/
structure Spell where
  id : UInt32 := 0
  schoolMask : UInt32 := 0
  effects : List SpellEffect := []
deriving DecidableEq

/-- The number of effect slots that a spell may fill, and that are looked at. -/
def Spell.slotCount : Nat := 3

/-- A creature or game object template, with the name of the driver that runs its behaviour. -/
structure Template where
  entry : UInt32 := 0
  aiName : String := ""
deriving DecidableEq

/-- A placed instance of a template. -/
structure Spawn where
  guid : UInt32
  entry : UInt32
deriving DecidableEq

/-- What the checks need to know of a quest. -/
structure Quest where
  id : UInt32 := 0
  specialFlags : UInt32 := 0
deriving DecidableEq

/-- A group of texts that a creature can speak. -/
structure CreatureText where
  entry : UInt32
  group : UInt8
deriving DecidableEq

/-- A scheduled event of the world. -/
structure GameEvent where
  id : UInt32 := 0
  length : UInt32 := 0
  worldEvent : Bool := false
deriving DecidableEq

/-- A game event can be used if it has a length or is a world event. -/
def GameEvent.isValid (event : GameEvent) : Bool := 0 < event.length || event.worldEvent

/-- All reference data, as listed. -/
structure Snapshot where
  spells : List Spell := []
  creatureTemplates : List Template := []
  creatureSpawns : List Spawn := []
  gameObjectTemplates : List Template := []
  gameObjectSpawns : List Spawn := []
  quests : List Quest := []
  creatureTexts : List CreatureText := []
  gameEvents : List GameEvent := []
  factions : List UInt32 := []
  maps : List UInt32 := []
  areas : List UInt32 := []
  areaTriggers : List UInt32 := []
  sounds : List UInt32 := []
  emotes : List UInt32 := []
  textEmotes : List UInt32 := []
  items : List UInt32 := []
  equipment : List UInt32 := []
  taxiPaths : List UInt32 := []
  displayModels : List UInt32 := []

end AiScript
