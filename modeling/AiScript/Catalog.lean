import AiScript.Catalog.Registry
import AiScript.Catalog.Snapshot
import AiScript.Row
import Std.Data.ExtTreeSet

/-!
# Catalogs

A catalog answers what a check asks of the reference data: which record an id stands for, and
whether an id is known at all. It is built from a snapshot, in which a later record takes the place
of an earlier one with the same id.
-/

namespace AiScript

/-- Creature texts go by creature, then group. -/
instance : Ord CreatureText where
  compare := compareLex (compareOn CreatureText.entry) (compareOn CreatureText.group)

instance : Std.TransOrd CreatureText :=
  inferInstanceAs (Std.TransCmp
    (compareLex (compareOn CreatureText.entry) (compareOn CreatureText.group)))

instance : Std.LawfulEqOrd CreatureText where
  eq_of_compare := by
    intro a b hab
    obtain ⟨hentry, hgroup⟩ := Ordering.then_eq_eq.mp (show (compare a.entry b.entry).then
      (compare a.group b.group) = .eq from hab)
    cases a
    cases b
    simp_all

/-- The templates of creatures or of game objects, and the placed instances of them. -/
structure Population where
  templates : Registry Template Template.entry := ∅
  spawns : Registry Spawn Spawn.guid := ∅

/-- The entry of the template that an owner is or is placed from. -/
def Population.entryOf? (population : Population) : Owner → Option UInt32
  | .template entry => some entry
  | .spawn guid => (population.spawns.find? guid).map Spawn.entry

/-- The reference data, indexed. -/
structure Catalog where
  spells : Registry Spell Spell.id := ∅
  creatures : Population := {}
  gameObjects : Population := {}
  quests : Registry Quest Quest.id := ∅
  gameEvents : Registry GameEvent GameEvent.id := ∅
  creatureTexts : Std.ExtTreeSet CreatureText := ∅
  factions : Std.ExtTreeSet UInt32 := ∅
  maps : Std.ExtTreeSet UInt32 := ∅
  areas : Std.ExtTreeSet UInt32 := ∅
  areaTriggers : Std.ExtTreeSet UInt32 := ∅
  sounds : Std.ExtTreeSet UInt32 := ∅
  emotes : Std.ExtTreeSet UInt32 := ∅
  textEmotes : Std.ExtTreeSet UInt32 := ∅
  items : Std.ExtTreeSet UInt32 := ∅
  equipment : Std.ExtTreeSet UInt32 := ∅
  taxiPaths : Std.ExtTreeSet UInt32 := ∅
  displayModels : Std.ExtTreeSet UInt32 := ∅

namespace Catalog

/-- Index a snapshot. -/
def ofSnapshot (snapshot : Snapshot) : Catalog where
  spells := .ofList snapshot.spells
  creatures := ⟨.ofList snapshot.creatureTemplates, .ofList snapshot.creatureSpawns⟩
  gameObjects := ⟨.ofList snapshot.gameObjectTemplates, .ofList snapshot.gameObjectSpawns⟩
  quests := .ofList snapshot.quests
  gameEvents := .ofList snapshot.gameEvents
  creatureTexts := .ofList snapshot.creatureTexts
  factions := .ofList snapshot.factions
  maps := .ofList snapshot.maps
  areas := .ofList snapshot.areas
  areaTriggers := .ofList snapshot.areaTriggers
  sounds := .ofList snapshot.sounds
  emotes := .ofList snapshot.emotes
  textEmotes := .ofList snapshot.textEmotes
  items := .ofList snapshot.items
  equipment := .ofList snapshot.equipment
  taxiPaths := .ofList snapshot.taxiPaths
  displayModels := .ofList snapshot.displayModels

/-- Can a creature speak a text of a group? Groups are numbered by one byte. -/
def hasCreatureText (catalog : Catalog) (entry group : UInt32) : Bool :=
  group < 256 && catalog.creatureTexts.contains ⟨entry, group.toUInt8⟩

end Catalog

end AiScript
