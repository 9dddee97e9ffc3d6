import AiScript.Catalog.Snapshot
import AiScript.DataText.Value
import AiScript.Row
import AiScript.Waypoint

/-!
# Records of data files

Rules and waypoints are kept as lists of records, and a catalog snapshot as one record of lists. A
field that a record does not know is passed over. A field that it knows may be left out if there is
something that it stands for then, which is so for every field of a rule, and for none of a
waypoint, of a placed instance or of a creature text.
-/

namespace AiScript.DataText

open Value (byte? half? word? signedWord? single? flag? text? listOf? fields?)

variable (dialect : Dialect)

/-- Read a stored rule. -/
def row? (value : Value) : Option Row := do
  let fields ← value.fields? dialect "RuleRowDef"
  let code (name : String) : Option UInt8 := optional fields name 0 byte?
  let slot (name : String) : Option UInt32 := optional fields name 0 word?
  let coordinate (name : String) : Option Single := optional fields name .zero single?
  return {
    owner := ← optional fields "owner_key" 0 signedWord?
    sourceCode := ← code "source_type"
    id := ← optional fields "id" 0 half?
    link := ← optional fields "link" 0 half?
    eventCode := ← code "event_type"
    phaseMask := ← code "event_phase_mask"
    chance := ← optional fields "event_chance" 100 byte?
    flags := ← code "event_flags"
    eventSlots := #v[← slot "event_param1", ← slot "event_param2", ← slot "event_param3",
      ← slot "event_param4", ← slot "event_param5"]
    actionCode := ← code "action_type"
    actionSlots := #v[← slot "action_param1", ← slot "action_param2", ← slot "action_param3",
      ← slot "action_param4", ← slot "action_param5", ← slot "action_param6"]
    targetCode := ← code "target_type"
    targetSlots := #v[← slot "target_param1", ← slot "target_param2", ← slot "target_param3"]
    position := ⟨← coordinate "target_x", ← coordinate "target_y", ← coordinate "target_z",
      ← coordinate "target_o"⟩ }

/-- Read a stored point. -/
def waypointRow? (value : Value) : Option WaypointRow := do
  let fields ← value.fields? dialect "WaypointRowDef"
  return ⟨← required fields "path" word?, ← required fields "point" word?,
    ← required fields "x" single?, ← required fields "y" single?, ← required fields "z" single?⟩

/-- Read an effect slot. -/
def spellEffect? (value : Value) : Option SpellEffect := do
  let fields ← value.fields? dialect "SpellEffectDef"
  return {
    effect := ← optional fields "effect" 0 word?
    implicitTargetA := ← optional fields "implicit_target_a" 0 word?
    implicitTargetB := ← optional fields "implicit_target_b" 0 word?
    miscValue := ← optional fields "misc_value" 0 signedWord?
    itemType := ← optional fields "item_type" 0 word? }

/-- Read a spell. -/
def spell? (value : Value) : Option Spell := do
  let fields ← value.fields? dialect "SpellDef"
  return ⟨← optional fields "id" 0 word?, ← optional fields "school_mask" 0 word?,
    ← optional fields "effects" [] (listOf? (spellEffect? dialect))⟩

/-- Read a template. -/
def template? (value : Value) : Option Template := do
  let fields ← value.fields? dialect "TemplateDef"
  return ⟨← optional fields "entry" 0 word?, ← optional fields "ai_name" "" text?⟩

/-- Read a placed instance. -/
def spawn? (value : Value) : Option Spawn := do
  let fields ← value.fields? dialect "SpawnDef"
  return ⟨← required fields "guid" word?, ← required fields "entry" word?⟩

/-- Read a quest. -/
def quest? (value : Value) : Option Quest := do
  let fields ← value.fields? dialect "QuestDef"
  return ⟨← optional fields "id" 0 word?, ← optional fields "special_flags" 0 word?⟩

/-- Read a group of creature texts. -/
def creatureText? (value : Value) : Option CreatureText := do
  let fields ← value.fields? dialect "CreatureTextDef"
  return ⟨← required fields "entry" word?, ← required fields "group" byte?⟩

/-- Read a game event. -/
def gameEvent? (value : Value) : Option GameEvent := do
  let fields ← value.fields? dialect "GameEventDef"
  return ⟨← optional fields "id" 0 word?, ← optional fields "length" 0 word?,
    ← optional fields "world_event" false flag?⟩

/-- Read a catalog snapshot. -/
def snapshot? (value : Value) : Option Snapshot := do
  let fields ← value.fields? dialect "CatalogDef"
  let listed {α : Type} (name : String) (item? : Value → Option α) : Option (List α) :=
    optional fields name [] (listOf? item?)
  return {
    spells := ← listed "spells" (spell? dialect)
    creatureTemplates := ← listed "creature_templates" (template? dialect)
    creatureSpawns := ← listed "creature_spawns" (spawn? dialect)
    gameObjectTemplates := ← listed "gameobject_templates" (template? dialect)
    gameObjectSpawns := ← listed "gameobject_spawns" (spawn? dialect)
    quests := ← listed "quests" (quest? dialect)
    creatureTexts := ← listed "creature_texts" (creatureText? dialect)
    gameEvents := ← listed "game_events" (gameEvent? dialect)
    factions := ← listed "factions" word?
    maps := ← listed "maps" word?
    areas := ← listed "areas" word?
    areaTriggers := ← listed "area_triggers" word?
    sounds := ← listed "sounds" word?
    emotes := ← listed "emotes" word?
    textEmotes := ← listed "text_emotes" word?
    items := ← listed "items" word?
    equipment := ← listed "equipment" word?
    taxiPaths := ← listed "taxi_paths" word?
    displayModels := ← listed "display_models" word? }

/-- The rules of a data file. -/
def rows? (text : String) : Option (List Row) := do
  let (dialect, value) ← Value.ofText? text
  listOf? (row? dialect) value

/-- The points of a data file. -/
def waypointRows? (text : String) : Option (List WaypointRow) := do
  let (dialect, value) ← Value.ofText? text
  listOf? (waypointRow? dialect) value

/-- The catalog snapshot of a data file. -/
def catalog? (text : String) : Option Snapshot := do
  let (dialect, value) ← Value.ofText? text
  snapshot? dialect value

end AiScript.DataText
