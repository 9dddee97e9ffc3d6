import AiScript.Catalog
import AiScript.Proofs.Catalog.Faults
import AiScript.Proofs.Catalog.Registry
import AiScript.Proofs.LastUnder

/-!
# What an index finds

Indexing files the records of a snapshot under their ids, so of those that share an id the last one
listed is found (`Registry.find?_ofList`). Nothing is made up and no id is lost, whatever the
snapshot. In a consistent snapshot there is nothing to choose between, and each record is found.
-/

namespace AiScript

namespace Registry

variable {α : Type} {key : α → UInt32}

/-- A registry holds the records of a list, under each id the last one that has it. -/
def HoldsLast (registry : Registry α key) (records : List α) : Prop :=
  ∀ id, registry.find? id = lastUnder key records id

/-- A registry finds every record of a list, and has no others. -/
structure HoldsAll (registry : Registry α key) (records : List α) : Prop where
  find?_key : ∀ record ∈ records, registry.find? (key record) = some record
  size_eq : registry.size = records.length

/-- A record that is filed is found under its id, and everything else as before. -/
theorem find?_insert (registry : Registry α key) (record : α) (id : UInt32) :
    (registry.insert record).find? id =
      if key record = id then some record else registry.find? id := by
  simp only [find?, insert, Std.ExtTreeMap.getElem?_insert, Std.LawfulEqCmp.compare_eq_iff_eq]

/-- Of the records that share an id the last one is found. -/
theorem holdsLast_ofList (records : List α) :
    (ofList records : Registry α key).HoldsLast records := by
  intro id
  induction records using List.reverseRecOn with
  | nil => exact Std.ExtTreeMap.getElem?_empty
  | append_singleton records record ih =>
    rw [ofList, List.foldl_concat, find?_insert, lastUnder_concat, ← ih, ofList]

/-- The ids that are listed are those of the records that were filed. -/
theorem mem_map_toList_iff {registry : Registry α key} {records : List α}
    (h : registry.HoldsLast records) (id : UInt32) :
    id ∈ registry.toList.map key ↔ id ∈ records.map key := by
  simp only [List.mem_map, mem_toList_iff]
  constructor
  · intro hlisted
    obtain ⟨record, hfound, rfl⟩ := hlisted
    rw [h] at hfound
    exact ⟨record, (mem_of_lastUnder hfound).1, rfl⟩
  · intro hrecord
    have hsome := (isSome_lastUnder_iff key records id).mpr hrecord
    obtain ⟨found, hfound⟩ := Option.isSome_iff_exists.mp hsome
    obtain ⟨-, rfl⟩ := mem_of_lastUnder hfound
    exact ⟨found, (h _).trans hfound, rfl⟩

/-- If no two records share an id, each of them is found and counted. -/
theorem HoldsLast.holdsAll {registry : Registry α key} {records : List α}
    (h : registry.HoldsLast records) (hnodup : (records.map key).Nodup) :
    registry.HoldsAll records where
  find?_key := fun record hrecord => (h (key record)).trans (lastUnder_key hnodup hrecord)
  size_eq := by
    have hordered : (registry.toList.map key).Pairwise (· < ·) :=
      List.pairwise_map.mpr registry.toList_ordered
    have hperm : (registry.toList.map key).Perm (records.map key) :=
      (List.perm_ext_iff_of_nodup (hordered.imp fun hlt => UInt32.ne_of_lt hlt) hnodup).mpr
        (mem_map_toList_iff h)
    calc registry.size
        = (registry.toList.map key).length := by
          rw [List.length_map, toList, List.length_map, Std.ExtTreeMap.length_toList, size]
      _ = (records.map key).length := hperm.length_eq
      _ = records.length := List.length_map _

end Registry

/-- A set is that of the things of a list. -/
def IsSetOf {α : Type} {cmp : α → α → Ordering} [Std.TransCmp cmp] (set : Std.ExtTreeSet α cmp)
    (items : List α) : Prop :=
  ∀ item, set.contains item = true ↔ item ∈ items

/-- The set that is made of a list is the set of its things. -/
theorem isSetOf_ofList {α : Type} [DecidableEq α] {cmp : α → α → Ordering} [Std.TransCmp cmp]
    [Std.LawfulEqCmp cmp] (items : List α) : IsSetOf (Std.ExtTreeSet.ofList items cmp) items := by
  intro item
  rw [Std.ExtTreeSet.contains_ofList, List.contains_iff_mem]

namespace Catalog

/-- A catalog is an index of a snapshot. Under an id it finds the last record listed with it, it
knows the ids that are listed and no others, and it goes through the spells by ascending id. -/
structure Indexes (catalog : Catalog) (snapshot : Snapshot) : Prop where
  spells : catalog.spells.HoldsLast snapshot.spells
  creatureTemplates : catalog.creatures.templates.HoldsLast snapshot.creatureTemplates
  creatureSpawns : catalog.creatures.spawns.HoldsLast snapshot.creatureSpawns
  gameObjectTemplates : catalog.gameObjects.templates.HoldsLast snapshot.gameObjectTemplates
  gameObjectSpawns : catalog.gameObjects.spawns.HoldsLast snapshot.gameObjectSpawns
  quests : catalog.quests.HoldsLast snapshot.quests
  gameEvents : catalog.gameEvents.HoldsLast snapshot.gameEvents
  creatureTexts : IsSetOf catalog.creatureTexts snapshot.creatureTexts
  hasCreatureText_iff : ∀ entry group, catalog.hasCreatureText entry group = true ↔
    ∃ text ∈ snapshot.creatureTexts, text.entry = entry ∧ text.group.toUInt32 = group
  factions : IsSetOf catalog.factions snapshot.factions
  maps : IsSetOf catalog.maps snapshot.maps
  areas : IsSetOf catalog.areas snapshot.areas
  areaTriggers : IsSetOf catalog.areaTriggers snapshot.areaTriggers
  sounds : IsSetOf catalog.sounds snapshot.sounds
  emotes : IsSetOf catalog.emotes snapshot.emotes
  textEmotes : IsSetOf catalog.textEmotes snapshot.textEmotes
  items : IsSetOf catalog.items snapshot.items
  equipment : IsSetOf catalog.equipment snapshot.equipment
  taxiPaths : IsSetOf catalog.taxiPaths snapshot.taxiPaths
  displayModels : IsSetOf catalog.displayModels snapshot.displayModels
  spellIds_ordered : (catalog.spells.toList.map Spell.id).Pairwise (· < ·)
  mem_spellIds_iff : ∀ id,
    id ∈ catalog.spells.toList.map Spell.id ↔ id ∈ snapshot.spells.map Spell.id
  find?_of_mem_spells : ∀ spell ∈ catalog.spells.toList, catalog.spells.find? spell.id = some spell

/-- A catalog finds every record of a snapshot under its id. -/
structure HoldsAll (catalog : Catalog) (snapshot : Snapshot) : Prop where
  spells : catalog.spells.HoldsAll snapshot.spells
  creatureTemplates : catalog.creatures.templates.HoldsAll snapshot.creatureTemplates
  creatureSpawns : catalog.creatures.spawns.HoldsAll snapshot.creatureSpawns
  gameObjectTemplates : catalog.gameObjects.templates.HoldsAll snapshot.gameObjectTemplates
  gameObjectSpawns : catalog.gameObjects.spawns.HoldsAll snapshot.gameObjectSpawns
  quests : catalog.quests.HoldsAll snapshot.quests
  gameEvents : catalog.gameEvents.HoldsAll snapshot.gameEvents

/-- A text is known exactly if it is one of a set's, whose groups are numbered by one byte. -/
theorem hasCreatureText_iff {catalog : Catalog} {texts : List CreatureText}
    (h : IsSetOf catalog.creatureTexts texts) (entry group : UInt32) :
    catalog.hasCreatureText entry group = true ↔
      ∃ text ∈ texts, text.entry = entry ∧ text.group.toUInt32 = group := by
  rw [hasCreatureText, Bool.and_eq_true, decide_eq_true_eq, h]
  constructor
  · intro hknown
    obtain ⟨hgroup, hmem⟩ := hknown
    refine ⟨_, hmem, rfl, ?_⟩
    rw [← UInt32.toNat_inj]
    simpa using Nat.mod_eq_of_lt (UInt32.lt_iff_toNat_lt.mp hgroup)
  · intro hlisted
    obtain ⟨text, hmem, rfl, rfl⟩ := hlisted
    refine ⟨UInt32.lt_iff_toNat_lt.mpr text.group.toNat_lt, ?_⟩
    rwa [UInt8.toUInt8_toUInt32]

/-- Indexing a snapshot gives an index of it. -/
theorem ofSnapshot_indexes (snapshot : Snapshot) : (ofSnapshot snapshot).Indexes snapshot where
  spells := Registry.holdsLast_ofList _
  creatureTemplates := Registry.holdsLast_ofList _
  creatureSpawns := Registry.holdsLast_ofList _
  gameObjectTemplates := Registry.holdsLast_ofList _
  gameObjectSpawns := Registry.holdsLast_ofList _
  quests := Registry.holdsLast_ofList _
  gameEvents := Registry.holdsLast_ofList _
  creatureTexts := isSetOf_ofList _
  hasCreatureText_iff := hasCreatureText_iff (isSetOf_ofList _)
  factions := isSetOf_ofList _
  maps := isSetOf_ofList _
  areas := isSetOf_ofList _
  areaTriggers := isSetOf_ofList _
  sounds := isSetOf_ofList _
  emotes := isSetOf_ofList _
  textEmotes := isSetOf_ofList _
  items := isSetOf_ofList _
  equipment := isSetOf_ofList _
  taxiPaths := isSetOf_ofList _
  displayModels := isSetOf_ofList _
  spellIds_ordered := List.pairwise_map.mpr (Registry.toList_ordered _)
  mem_spellIds_iff := Registry.mem_map_toList_iff (Registry.holdsLast_ofList _)
  find?_of_mem_spells := fun spell => (Registry.mem_toList_iff _ spell).mp

/-- An index of a consistent snapshot finds every record. -/
theorem Indexes.holdsAll {catalog : Catalog} {snapshot : Snapshot} (h : catalog.Indexes snapshot)
    (hconsistent : snapshot.Consistent) : catalog.HoldsAll snapshot where
  spells := h.spells.holdsAll (hconsistent.ids_nodup .spell)
  creatureTemplates := h.creatureTemplates.holdsAll (hconsistent.ids_nodup .creatureTemplate)
  creatureSpawns := h.creatureSpawns.holdsAll (hconsistent.ids_nodup .creatureSpawn)
  gameObjectTemplates := h.gameObjectTemplates.holdsAll (hconsistent.ids_nodup .gameObjectTemplate)
  gameObjectSpawns := h.gameObjectSpawns.holdsAll (hconsistent.ids_nodup .gameObjectSpawn)
  quests := h.quests.holdsAll (hconsistent.ids_nodup .quest)
  gameEvents := h.gameEvents.holdsAll (hconsistent.ids_nodup .gameEvent)

end Catalog

end AiScript
