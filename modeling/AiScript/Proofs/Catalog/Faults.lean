import AiScript.Catalog.Faults
import Mathlib.Data.List.Count
import Mathlib.Data.List.Induction
import Mathlib.Data.List.Nodup

/-!
# What the faults of a snapshot say

The search for faults goes through seven lists of ids, and two of the sets that it fills on the way
are looked into again when references are followed. Here the faults are read off the lists alone,
without sets and without a state: which occurrences of an id come after the first, which spells are
too big, and which entries are not among those of the templates. There are none exactly if the
snapshot is consistent.
-/

namespace AiScript

/-- The sorts of record whose ids must not repeat, in the order in which they are gone through. -/
def RecordSort.all : List RecordSort :=
  [.spell, .creatureTemplate, .gameObjectTemplate, .creatureSpawn, .gameObjectSpawn, .quest,
    .gameEvent]

/-- There is no other sort. -/
theorem RecordSort.mem_all (sort : RecordSort) : sort ∈ all := by
  cases sort <;> decide

/-- The occurrences of ids that have one of the same id ahead of them, in the order of the list. -/
def laterOccurrences (ids : List UInt32) : List UInt32 :=
  (ids.zipIdx.filter fun occurrence => occurrence.1 ∈ ids.take occurrence.2).map Prod.fst

/-- What stands at the end of a list occurs again there if it is in the list before. -/
theorem laterOccurrences_concat (ids : List UInt32) (id : UInt32) :
    laterOccurrences (ids ++ [id]) = laterOccurrences ids ++ if id ∈ ids then [id] else [] := by
  have hbefore : ∀ occurrence ∈ ids.zipIdx,
      decide (occurrence.1 ∈ (ids ++ [id]).take occurrence.2) =
        decide (occurrence.1 ∈ ids.take occurrence.2) := by
    intro occurrence hoccurrence
    have hplace : occurrence.2 ≤ ids.length := Nat.le_of_lt (by
      simpa using List.snd_lt_of_mem_zipIdx hoccurrence)
    rw [List.take_append_of_le_length hplace]
  rw [laterOccurrences, List.zipIdx_append, List.filter_append, List.map_append,
    List.filter_congr hbefore, ← laterOccurrences]
  by_cases hmem : id ∈ ids <;> simp [hmem]

/-- An id occurs again once less often than it occurs. -/
theorem count_laterOccurrences (ids : List UInt32) (id : UInt32) :
    (laterOccurrences ids).count id = ids.count id - 1 := by
  induction ids using List.reverseRecOn with
  | nil => rfl
  | append_singleton ids last ih =>
    rw [laterOccurrences_concat, List.count_append, List.count_append, ih]
    by_cases hlast : last = id
    · subst hlast
      by_cases hmem : last ∈ ids
      · have hpos : 0 < ids.count last := List.count_pos_iff.mpr hmem
        simp only [hmem, if_true, List.count_singleton_self]
        omega
      · simp [hmem, List.count_eq_zero_of_not_mem hmem]
    · have hnone : [last].count id = 0 := by simp [hlast]
      split <;> simp [hnone]

example : laterOccurrences [7, 3, 7, 5, 7, 3] = [7, 7, 3] := by decide

/-- No id occurs again exactly if each occurs once. -/
theorem laterOccurrences_eq_nil_iff (ids : List UInt32) :
    laterOccurrences ids = [] ↔ ids.Nodup := by
  rw [List.nodup_iff_count_le_one, List.eq_nil_iff_forall_not_mem]
  refine forall_congr' fun id => ?_
  rw [← List.count_eq_zero, count_laterOccurrences]
  omega

namespace TrackedIds

/-- The last id is gone through last. -/
theorem ofIds_concat (ids : List UInt32) (id : UInt32) :
    ofIds (ids ++ [id]) = (ofIds ids).track id := by
  rw [ofIds, List.foldl_concat, ofIds]

/-- Whatever is gone through is in the set, and nothing else. -/
theorem contains_seen_ofIds (ids : List UInt32) (id : UInt32) :
    (ofIds ids).seen.contains id = decide (id ∈ ids) := by
  induction ids using List.reverseRecOn with
  | nil => simp [ofIds]
  | append_singleton ids last ih =>
    rw [ofIds_concat, track, Std.ExtTreeSet.contains_insert, ih, Bool.eq_iff_iff]
    simp only [Bool.or_eq_true, beq_iff_eq, Std.LawfulEqCmp.compare_eq_iff_eq, decide_eq_true_eq,
      List.mem_append, List.mem_singleton]
    rw [or_comm, eq_comm]

/-- What is in the set already when it is come to are the later occurrences. -/
theorem repeated_ofIds (ids : List UInt32) : (ofIds ids).repeated = laterOccurrences ids := by
  induction ids using List.reverseRecOn with
  | nil => rfl
  | append_singleton ids last ih =>
    rw [ofIds_concat, track, laterOccurrences_concat, contains_seen_ofIds, ih]
    by_cases hmem : last ∈ ids <;> simp [hmem]

end TrackedIds

namespace Snapshot

/-- The ids of the records of a sort, as listed. -/
def ids (snapshot : Snapshot) : RecordSort → List UInt32
  | .spell => snapshot.spells.map Spell.id
  | .creatureTemplate => snapshot.creatureTemplates.map Template.entry
  | .gameObjectTemplate => snapshot.gameObjectTemplates.map Template.entry
  | .creatureSpawn => snapshot.creatureSpawns.map Spawn.guid
  | .gameObjectSpawn => snapshot.gameObjectSpawns.map Spawn.guid
  | .quest => snapshot.quests.map Quest.id
  | .gameEvent => snapshot.gameEvents.map GameEvent.id

/-- Records have ids of their own, no spell has more than three effects, and whatever refers to a
template refers to one of the right sort that is listed. -/
structure Consistent (snapshot : Snapshot) : Prop where
  ids_nodup : ∀ sort, (snapshot.ids sort).Nodup
  effects_length_le : ∀ spell ∈ snapshot.spells, spell.effects.length ≤ 3
  creatureSpawn_listed : ∀ spawn ∈ snapshot.creatureSpawns,
    spawn.entry ∈ snapshot.ids .creatureTemplate
  gameObjectSpawn_listed : ∀ spawn ∈ snapshot.gameObjectSpawns,
    spawn.entry ∈ snapshot.ids .gameObjectTemplate
  creatureText_listed : ∀ text ∈ snapshot.creatureTexts,
    text.entry ∈ snapshot.ids .creatureTemplate

/-- One fault for each later occurrence of an id, each sort of record in its turn. -/
def repeatedIdFaults (snapshot : Snapshot) : List Fault :=
  RecordSort.all.flatMap fun sort => (laterOccurrences (snapshot.ids sort)).map (.repeatedId sort)

/-- One fault for each record whose template is not listed, in the order of the records. -/
def danglingFaults {α : Type} (use : α → TemplateUse) (entry : α → UInt32)
    (listed : List UInt32) (records : List α) : List Fault :=
  (records.filter fun record => entry record ∉ listed).map fun record =>
    .missingTemplate (use record) (entry record)

/-- References dangle exactly if their entries are not those of listed templates. -/
theorem missingTemplates_eq_danglingFaults {α : Type} (use : α → TemplateUse) (entry : α → UInt32)
    (listed : List UInt32) (records : List α) :
    missingTemplates (.ofIds listed) (records.map fun record => (use record, entry record)) =
      danglingFaults use entry listed records := by
  have hlisted : ∀ id : UInt32,
      (!(TrackedIds.ofIds listed).seen.contains id) = decide (id ∉ listed) := by
    intro id
    rw [TrackedIds.contains_seen_ofIds, decide_not]
  rw [missingTemplates, danglingFaults]
  simp only [List.filter_map, List.map_map, Function.comp_def, hlisted]

/-- There is no dangling reference exactly if every entry is listed. -/
theorem danglingFaults_eq_nil_iff {α : Type} (use : α → TemplateUse) (entry : α → UInt32)
    (listed : List UInt32) (records : List α) :
    danglingFaults use entry listed records = [] ↔ ∀ record ∈ records, entry record ∈ listed := by
  simp [danglingFaults]

/-- The faults of a snapshot, read off its lists. -/
theorem faults_eq (snapshot : Snapshot) :
    snapshot.faults = snapshot.repeatedIdFaults ++
      ((snapshot.spells.filter fun spell => 3 < spell.effects.length).map fun spell =>
        .oversizedSpell spell.id spell.effects.length) ++
      danglingFaults (fun spawn => .creatureSpawn spawn.guid) Spawn.entry
        (snapshot.ids .creatureTemplate) snapshot.creatureSpawns ++
      danglingFaults (fun spawn => .gameObjectSpawn spawn.guid) Spawn.entry
        (snapshot.ids .gameObjectTemplate) snapshot.gameObjectSpawns ++
      danglingFaults (fun text => .creatureText text.group) CreatureText.entry
        (snapshot.ids .creatureTemplate) snapshot.creatureTexts := by
  have hrepeated : snapshot.repeatedIdFaults =
      repetitions .spell (.ofIds (snapshot.ids .spell))
        ++ repetitions .creatureTemplate (.ofIds (snapshot.ids .creatureTemplate))
        ++ repetitions .gameObjectTemplate (.ofIds (snapshot.ids .gameObjectTemplate))
        ++ repetitions .creatureSpawn (.ofIds (snapshot.ids .creatureSpawn))
        ++ repetitions .gameObjectSpawn (.ofIds (snapshot.ids .gameObjectSpawn))
        ++ repetitions .quest (.ofIds (snapshot.ids .quest))
        ++ repetitions .gameEvent (.ofIds (snapshot.ids .gameEvent)) := by
    simp only [repeatedIdFaults, RecordSort.all, List.flatMap_cons, List.flatMap_nil,
      List.append_nil, List.append_assoc, repetitions, TrackedIds.repeated_ofIds]
  rw [hrepeated, ← missingTemplates_eq_danglingFaults, ← missingTemplates_eq_danglingFaults,
    ← missingTemplates_eq_danglingFaults]
  rfl

/-- A snapshot is without faults exactly if it is consistent. -/
theorem faults_eq_nil_iff (snapshot : Snapshot) : snapshot.faults = [] ↔ snapshot.Consistent := by
  have hrepeated : snapshot.repeatedIdFaults = [] ↔ ∀ sort, (snapshot.ids sort).Nodup := by
    simp only [repeatedIdFaults, List.flatMap_eq_nil_iff, List.map_eq_nil_iff,
      laterOccurrences_eq_nil_iff]
    exact ⟨fun hall sort => hall sort (RecordSort.mem_all sort), fun hall sort _ => hall sort⟩
  rw [faults_eq]
  simp only [List.append_eq_nil_iff, hrepeated, danglingFaults_eq_nil_iff, List.map_eq_nil_iff,
    List.filter_eq_nil_iff, decide_eq_true_eq, Nat.not_lt]
  constructor
  · rintro ⟨⟨⟨⟨hids, heffects⟩, hcreatures⟩, hgameObjects⟩, htexts⟩
    exact ⟨hids, heffects, hcreatures, hgameObjects, htexts⟩
  · intro hconsistent
    obtain ⟨hids, heffects, hcreatures, hgameObjects, htexts⟩ := hconsistent
    exact ⟨⟨⟨⟨hids, heffects⟩, hcreatures⟩, hgameObjects⟩, htexts⟩

/-- Of the faults of repeated ids, those of a sort and an id come from the list of that sort. -/
theorem count_repeatedIdFaults (snapshot : Snapshot) (sort : RecordSort) (id : UInt32) :
    snapshot.repeatedIdFaults.count (.repeatedId sort id) =
      (laterOccurrences (snapshot.ids sort)).count id := by
  have hown : ∀ ids : List UInt32,
      (ids.map (Fault.repeatedId sort)).count (.repeatedId sort id) = ids.count id := fun ids =>
    List.count_map_of_injective ids _ (fun _ _ heq => (Fault.repeatedId.inj heq).2) id
  have hother : ∀ other, other ≠ sort → ∀ ids : List UInt32,
      (ids.map (Fault.repeatedId other)).count (.repeatedId sort id) = 0 := by
    intro other hne ids
    simp [List.count_eq_zero, hne]
  rw [repeatedIdFaults, List.count_flatMap]
  cases sort <;> simp [RecordSort.all, hown, hother]

/-- Each id of a sort is a fault once less often than it is listed. -/
theorem count_faults (snapshot : Snapshot) (sort : RecordSort) (id : UInt32) :
    snapshot.faults.count (.repeatedId sort id) = (snapshot.ids sort).count id - 1 := by
  have hdangling : ∀ {α : Type} (use : α → TemplateUse) entry listed (records : List α),
      (danglingFaults use entry listed records).count (.repeatedId sort id) = 0 := by
    intro α use entry listed records
    simp [danglingFaults, List.count_eq_zero]
  have hoversized : ((snapshot.spells.filter fun spell => 3 < spell.effects.length).map fun spell =>
      Fault.oversizedSpell spell.id spell.effects.length).count (.repeatedId sort id) = 0 := by
    simp [List.count_eq_zero]
  rw [faults_eq, List.count_append, List.count_append, List.count_append, List.count_append,
    hoversized, hdangling, hdangling, hdangling, count_repeatedIdFaults, count_laterOccurrences]
  rfl

/-- The search for faults is sound and complete: it finds none exactly if the snapshot is
consistent. What it finds is, in this order, the later occurrences of ids, sort by sort and each as
often as the id is listed beyond the first time, the spells with too many effects, and the spawns
and texts whose template is not listed, wherever in the list of templates others stand. -/
theorem faults_exact (snapshot : Snapshot) :
    (snapshot.faults = [] ↔ snapshot.Consistent) ∧
    snapshot.faults =
      (RecordSort.all.flatMap fun sort =>
        (laterOccurrences (snapshot.ids sort)).map (.repeatedId sort)) ++
      ((snapshot.spells.filter fun spell => 3 < spell.effects.length).map fun spell =>
        .oversizedSpell spell.id spell.effects.length) ++
      ((snapshot.creatureSpawns.filter fun spawn =>
        spawn.entry ∉ snapshot.ids .creatureTemplate).map fun spawn =>
          .missingTemplate (.creatureSpawn spawn.guid) spawn.entry) ++
      ((snapshot.gameObjectSpawns.filter fun spawn =>
        spawn.entry ∉ snapshot.ids .gameObjectTemplate).map fun spawn =>
          .missingTemplate (.gameObjectSpawn spawn.guid) spawn.entry) ++
      ((snapshot.creatureTexts.filter fun text =>
        text.entry ∉ snapshot.ids .creatureTemplate).map fun text =>
          .missingTemplate (.creatureText text.group) text.entry) ∧
    ∀ sort id,
      snapshot.faults.count (.repeatedId sort id) = (snapshot.ids sort).count id - 1 :=
  ⟨snapshot.faults_eq_nil_iff, snapshot.faults_eq, snapshot.count_faults⟩

end Snapshot

end AiScript
