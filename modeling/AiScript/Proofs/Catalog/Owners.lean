import AiScript.Proofs.Catalog.Index
import AiScript.Proofs.Row.Examination

/-!
# Owners that are placed

The owner of a row with a negative key is one placed instance, and what drives it is said on the
template that it was placed from. So the owner stage looks twice: for the spawn, and for its
template. In a consistent snapshot the second look never fails, for creatures and for game objects
alike, and the driver is all that is left to object to.
-/

namespace AiScript

/-- What there is of one sort of owner that can be placed, how messages refer to it, and the driver
without which it has no rules. -/
structure Placement where
  source : Source
  templates : List Template
  spawns : List Spawn
  templateReference : Reference
  spawnReference : Reference
  driver : String

namespace Placement

/-- A spawn with a number is listed, and so is the template that it was placed from. -/
structure Lists (placement : Placement) (guid : UInt32) (spawn : Spawn) (template : Template) :
    Prop where
  spawn_mem : spawn ∈ placement.spawns
  guid_eq : spawn.guid = guid
  template_mem : template ∈ placement.templates
  entry_eq : template.entry = spawn.entry

/-- A result is what there is to say of the spawn with a number: that there is none, or that its
template has the wrong driver, or nothing. -/
structure Settles (placement : Placement) (guid : UInt32) (result : Except Rejection Source) :
    Prop where
  spawn_missing_iff : result = .error (.ownerNotFound placement.spawnReference guid) ↔
    ∀ spawn ∈ placement.spawns, spawn.guid ≠ guid
  wrong_driver_iff : ∀ entry,
    result = .error (.ownerWrongDriver placement.templateReference entry placement.driver) ↔
      ∃ spawn template, placement.Lists guid spawn template ∧
        (spawn.entry = entry ∧ template.aiName ≠ placement.driver)
  accepted_iff : result = .ok placement.source ↔
    ∃ spawn template, placement.Lists guid spawn template ∧ template.aiName = placement.driver
  accepted_otherwise : result ≠ .error (.ownerNotFound placement.spawnReference guid) →
    (∀ entry,
      result ≠ .error (.ownerWrongDriver placement.templateReference entry placement.driver)) →
    result = .ok placement.source
  template_not_missing : ∀ entry, result ≠ .error (.ownerNotFound placement.templateReference entry)

/-- Templates and spawns have ids of their own, every spawn has its template, and messages tell the
two apart. -/
structure Closed (placement : Placement) : Prop where
  entries_nodup : (placement.templates.map Template.entry).Nodup
  guids_nodup : (placement.spawns.map Spawn.guid).Nodup
  entry_listed : ∀ spawn ∈ placement.spawns, spawn.entry ∈ placement.templates.map Template.entry
  references_ne : placement.spawnReference ≠ placement.templateReference

variable {placement : Placement} {guid : UInt32}

/-- Where ids do not repeat, a spawn and its template are the only ones for their number. -/
theorem Lists.exists_iff {spawn : Spawn} {template : Template}
    (hlists : placement.Lists guid spawn template) (h : placement.Closed)
    (holds : Spawn → Template → Prop) :
    (∃ spawn template, placement.Lists guid spawn template ∧ holds spawn template) ↔
      holds spawn template := by
  constructor
  · rintro ⟨other, otherTemplate, hother, hholds⟩
    have hspawn : other = spawn := List.inj_on_of_nodup_map h.guids_nodup hother.spawn_mem
      hlists.spawn_mem (hother.guid_eq.trans hlists.guid_eq.symm)
    subst hspawn
    have htemplate : otherTemplate = template := List.inj_on_of_nodup_map h.entries_nodup
      hother.template_mem hlists.template_mem (hother.entry_eq.trans hlists.entry_eq.symm)
    rwa [← htemplate]
  · intro hholds
    exact ⟨spawn, template, hlists, hholds⟩

/-- If no spawn has the number, the thing to say is that there is none. -/
theorem Closed.settles_of_missing (h : placement.Closed)
    (hmissing : ∀ spawn ∈ placement.spawns, spawn.guid ≠ guid) :
    placement.Settles guid (.error (.ownerNotFound placement.spawnReference guid)) where
  spawn_missing_iff := by simpa using hmissing
  wrong_driver_iff := by
    intro entry
    simp only [Except.error.injEq, reduceCtorEq, false_iff]
    rintro ⟨spawn, template, hlists, -⟩
    exact hmissing spawn hlists.spawn_mem hlists.guid_eq
  accepted_iff := by
    simp only [reduceCtorEq, false_iff]
    rintro ⟨spawn, template, hlists, -⟩
    exact hmissing spawn hlists.spawn_mem hlists.guid_eq
  accepted_otherwise := fun hfound => absurd rfl hfound
  template_not_missing := by
    intro entry heq
    exact h.references_ne (Rejection.ownerNotFound.inj (Except.error.inj heq)).1

/-- If a spawn has the number, the thing to say is whether its template has the driver. -/
theorem Closed.settles_of_lists (h : placement.Closed) {spawn : Spawn} {template : Template}
    (hlists : placement.Lists guid spawn template) :
    placement.Settles guid
      (if template.aiName = placement.driver then .ok placement.source
      else
        .error (.ownerWrongDriver placement.templateReference spawn.entry placement.driver)) := by
  have hexists : ¬∀ spawn ∈ placement.spawns, spawn.guid ≠ guid := fun hmissing =>
    hmissing spawn hlists.spawn_mem hlists.guid_eq
  have hwrong := fun entry => hlists.exists_iff h fun spawn template =>
    spawn.entry = entry ∧ template.aiName ≠ placement.driver
  have haccepted := hlists.exists_iff h fun _ template => template.aiName = placement.driver
  by_cases hdriver : template.aiName = placement.driver
  · rw [if_pos hdriver]
    exact
      { spawn_missing_iff := by simp only [reduceCtorEq, hexists]
        wrong_driver_iff := by simp only [reduceCtorEq, hwrong, hdriver, ne_eq, not_true_eq_false,
          and_false, implies_true]
        accepted_iff := by simp only [haccepted, hdriver]
        accepted_otherwise := fun _ _ => rfl
        template_not_missing := by
          simp only [ne_eq, reduceCtorEq, not_false_eq_true, implies_true] }
  · rw [if_neg hdriver]
    exact
      { spawn_missing_iff := by simp only [Except.error.injEq, reduceCtorEq, hexists]
        wrong_driver_iff := by
          intro entry
          rw [hwrong]
          simp [hdriver]
        accepted_iff := by simp only [reduceCtorEq, haccepted, hdriver]
        accepted_otherwise := fun _ hright => absurd rfl (hright spawn.entry)
        template_not_missing := by simp }

/-- The result of the two looks for a spawn. -/
def result (placement : Placement) (population : Population) (guid : UInt32) :
    Except Rejection Source := do
  Condition.verdict
    (population.drives placement.spawnReference placement.templateReference placement.driver
      (.spawn guid))
  return placement.source

variable {population : Population}

/-- Without the spawn there is no second look. -/
theorem result_of_find?_eq_none (h : population.spawns.find? guid = none) :
    placement.result population guid = .error (.ownerNotFound placement.spawnReference guid) := by
  simp [result, Population.drives, Population.entryOf?, Condition.verdict, h, bind, Except.bind]

/-- If the spawn and its template are found, the driver decides. -/
theorem result_of_find?_eq_some {spawn : Spawn} {template : Template}
    (hspawn : population.spawns.find? guid = some spawn)
    (htemplate : population.templates.find? spawn.entry = some template) :
    placement.result population guid =
      if template.aiName = placement.driver then .ok placement.source
      else .error (.ownerWrongDriver placement.templateReference spawn.entry placement.driver) := by
  by_cases hdriver : template.aiName = placement.driver <;>
    simp [result, Population.drives, Population.entryOf?, Condition.verdict, hspawn, htemplate,
      hdriver, bind, Except.bind, pure, Except.pure]

/-- Where every spawn has its template, the two looks settle what there is to say. -/
theorem Closed.settles (h : placement.Closed)
    (hspawns : population.spawns.HoldsLast placement.spawns)
    (htemplates : population.templates.HoldsAll placement.templates) (guid : UInt32) :
    placement.Settles guid (placement.result population guid) := by
  cases hfound : population.spawns.find? guid with
  | none =>
    rw [result_of_find?_eq_none hfound]
    refine h.settles_of_missing fun spawn hspawn hguid => ?_
    have hsome := (isSome_lastUnder_iff Spawn.guid placement.spawns guid).mpr ⟨spawn, hspawn, hguid⟩
    rw [← hspawns guid, hfound] at hsome
    cases hsome
  | some spawn =>
    obtain ⟨hspawn, hguid⟩ := mem_of_lastUnder ((hspawns guid).symm.trans hfound)
    obtain ⟨template, htemplate, hentry⟩ := List.mem_map.mp (h.entry_listed spawn hspawn)
    have hsecond : population.templates.find? spawn.entry = some template := by
      rw [← hentry]
      exact htemplates.find?_key template htemplate
    rw [result_of_find?_eq_some hfound hsecond]
    exact h.settles_of_lists ⟨hspawn, hguid, htemplate, hentry⟩

end Placement

namespace Snapshot

/-- The creatures of a snapshot, which may be placed. -/
def creatures (snapshot : Snapshot) : Placement where
  source := .creature
  templates := snapshot.creatureTemplates
  spawns := snapshot.creatureSpawns
  templateReference := .creatureTemplate
  spawnReference := .creatureSpawn
  driver := "SmartAI"

/-- The game objects of a snapshot, which may be placed. -/
def gameObjects (snapshot : Snapshot) : Placement where
  source := .gameObject
  templates := snapshot.gameObjectTemplates
  spawns := snapshot.gameObjectSpawns
  templateReference := .gameObjectTemplate
  spawnReference := .gameObjectSpawn
  driver := "SmartGameObjectAI"

end Snapshot

/-- The creatures of a consistent snapshot all have their templates. -/
theorem Snapshot.Consistent.closed_creatures {snapshot : Snapshot} (h : snapshot.Consistent) :
    snapshot.creatures.Closed where
  entries_nodup := h.ids_nodup .creatureTemplate
  guids_nodup := h.ids_nodup .creatureSpawn
  entry_listed := h.creatureSpawn_listed
  references_ne := nofun

/-- The game objects of a consistent snapshot all have their templates. -/
theorem Snapshot.Consistent.closed_gameObjects {snapshot : Snapshot} (h : snapshot.Consistent) :
    snapshot.gameObjects.Closed where
  entries_nodup := h.ids_nodup .gameObjectTemplate
  guids_nodup := h.ids_nodup .gameObjectSpawn
  entry_listed := h.gameObjectSpawn_listed
  references_ne := nofun

/-- The number of a key is its absolute value, also for the least key. -/
theorem Owner.toNat_keyNumber (key : Int32) : (keyNumber key).toNat = key.toInt.natAbs := by
  have hge : -2 ^ 31 ≤ key.toInt := key.le_toInt
  have hlt : key.toInt < 2 ^ 31 := key.toInt_lt
  rw [keyNumber, UInt32.toNat_ofNat']
  omega

/-- A negative key stands for the spawn with its number. -/
theorem Owner.ofKey_of_neg {key : Int32} (h : key < 0) : ofKey key = .spawn (keyNumber key) :=
  if_pos h

namespace Row

variable {row : Row} (snapshot : Snapshot) (catalog : Catalog)

/-- For a creature's row with a negative key the owner stage looks for a spawn among creatures. -/
theorem ownedSource_of_creature (hsource : row.sourceCode = Source.creature.code)
    (howner : row.owner < 0) :
    row.ownedSource catalog =
      snapshot.creatures.result catalog.creatures (Owner.keyNumber row.owner) := by
  rw [ownedSource, hsource, Placement.result, ← Owner.ofKey_of_neg howner]
  rfl

/-- For a game object's row with a negative key the owner stage looks for a spawn among them. -/
theorem ownedSource_of_gameObject (hsource : row.sourceCode = Source.gameObject.code)
    (howner : row.owner < 0) :
    row.ownedSource catalog =
      snapshot.gameObjects.result catalog.gameObjects (Owner.keyNumber row.owner) := by
  rw [ownedSource, hsource, Placement.result, ← Owner.ofKey_of_neg howner]
  rfl

end Row

namespace Catalog

/-- Indexing is faithful: under an id it finds the last record listed with it, it knows just the ids
that are listed, and spells come by ascending id, each once. If the snapshot has no faults, then
every record is found and counted, and for rows of creatures and game objects with a negative key
the owner stage either finds no spawn with that number, or objects to the driver on the spawn's
template, or accepts; that a template is missing it never says. -/
theorem ofSnapshot_faithful (snapshot : Snapshot) :
    let catalog := ofSnapshot snapshot
    catalog.Indexes snapshot ∧
    (snapshot.faults = [] → catalog.HoldsAll snapshot ∧
      ∀ row : Row, row.owner < 0 →
        let guid := Owner.keyNumber row.owner
        guid.toNat = row.owner.toInt.natAbs ∧
        (row.sourceCode = Source.creature.code →
          snapshot.creatures.Settles guid (row.ownedSource catalog)) ∧
        (row.sourceCode = Source.gameObject.code →
          snapshot.gameObjects.Settles guid (row.ownedSource catalog))) := by
  intro catalog
  have hindexes : catalog.Indexes snapshot := ofSnapshot_indexes snapshot
  refine ⟨hindexes, fun hfaults => ?_⟩
  have hconsistent := snapshot.faults_eq_nil_iff.mp hfaults
  have hholds : catalog.HoldsAll snapshot := hindexes.holdsAll hconsistent
  refine ⟨hholds, fun row howner => ⟨Owner.toNat_keyNumber row.owner, ?_, ?_⟩⟩
  · intro hsource
    rw [Row.ownedSource_of_creature snapshot catalog hsource howner]
    exact hconsistent.closed_creatures.settles hindexes.creatureSpawns hholds.creatureTemplates _
  · intro hsource
    rw [Row.ownedSource_of_gameObject snapshot catalog hsource howner]
    exact hconsistent.closed_gameObjects.settles hindexes.gameObjectSpawns
      hholds.gameObjectTemplates _

/-- A creature with the greatest number that a key can stand for, one that follows no rules, and a
game object. -/
def threeSpawns : Snapshot where
  creatureTemplates := [⟨10, "SmartAI"⟩, ⟨11, "EventAI"⟩]
  creatureSpawns := [⟨0x80000000, 10⟩, ⟨5, 11⟩]
  gameObjectTemplates := [⟨10, "SmartGameObjectAI"⟩]
  gameObjectSpawns := [⟨6, 10⟩]

/-- The least key finds its spawn, the second creature has the wrong driver, and 6 is the number of
the game object only. -/
theorem ofSnapshot_faithful_threeSpawns :
    let catalog := ofSnapshot threeSpawns
    let owned := fun (source : Source) (owner : Int32) =>
      ({ owner, sourceCode := source.code } : Row).ownedSource catalog
    threeSpawns.faults = [] ∧ Int32.minValue < 0 ∧
    catalog.creatures.templates.size = 2 ∧
    owned .creature Int32.minValue = .ok .creature ∧
    owned .creature (-5) = .error (.ownerWrongDriver .creatureTemplate 11 "SmartAI") ∧
    owned .creature (-6) = .error (.ownerNotFound .creatureSpawn 6) ∧
    owned .gameObject (-6) = .ok .gameObject := by
  intro catalog owned
  have hfaults : threeSpawns.faults = [] := by decide
  obtain ⟨-, hclosed⟩ := ofSnapshot_faithful threeSpawns
  obtain ⟨hholds, howners⟩ := hclosed hfaults
  have hcreatures : ∀ owner : Int32, owner < 0 →
      threeSpawns.creatures.Settles (Owner.keyNumber owner) (owned .creature owner) :=
    fun owner howner => (howners { owner, sourceCode := Source.creature.code } howner).2.1 rfl
  have hgameObjects : ∀ owner : Int32, owner < 0 →
      threeSpawns.gameObjects.Settles (Owner.keyNumber owner) (owned .gameObject owner) :=
    fun owner howner => (howners { owner, sourceCode := Source.gameObject.code } howner).2.2 rfl
  refine ⟨hfaults, by decide, hholds.creatureTemplates.size_eq, ?_, ?_, ?_, ?_⟩
  · exact (hcreatures Int32.minValue (by decide)).accepted_iff.mpr
      ⟨⟨0x80000000, 10⟩, ⟨10, "SmartAI"⟩, ⟨by decide, by decide, by decide, rfl⟩, rfl⟩
  · exact ((hcreatures (-5) (by decide)).wrong_driver_iff 11).mpr
      ⟨⟨5, 11⟩, ⟨11, "EventAI"⟩, ⟨by decide, by decide, by decide, rfl⟩, rfl, by decide⟩
  · exact (hcreatures (-6) (by decide)).spawn_missing_iff.mpr (by decide)
  · exact (hgameObjects (-6) (by decide)).accepted_iff.mpr
      ⟨⟨6, 10⟩, ⟨10, "SmartGameObjectAI"⟩, ⟨by decide, by decide, by decide, rfl⟩, rfl⟩

end Catalog

end AiScript
