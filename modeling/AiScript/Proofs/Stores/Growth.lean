import AiScript.Proofs.Catalog.Growth
import AiScript.Proofs.Catalog.SpellIndex
import AiScript.Proofs.Stores.Load

/-!
# Growing reference data

A rule that is sound stays sound when the catalog and the waypoint paths grow, and it stays the same
rule; every warning that its row raises is still raised. In a table a rule may have to give way to
that of a row in front of it which had been unsound before, but the id that it goes under is taken
all the same. So growing reference data never loses an id of a chain.
-/

namespace AiScript

/-- There is more to examine rows against, and warnings are asked for alike. -/
structure Surroundings.Within (world larger : Surroundings) : Prop where
  catalog : world.catalog.Within larger.catalog
  waypoints : world.waypoints.Within larger.waypoints
  index : ∀ helper entity,
    (world.index.lookup helper entity).Sublist (larger.index.lookup helper entity)
  warnRedundant : world.warnRedundant = larger.warnRedundant

/-- Conditions that follow from others give the same verdict, if that is to accept. -/
theorem Condition.verdict_mono {conditions conditions' : List Condition}
    (himp : Met conditions → Met conditions') (h : verdict conditions = .ok ()) :
    verdict conditions' = .ok () := by
  rw [verdict_eq_ok_iff] at h ⊢
  exact himp h

namespace Row

variable {world larger : Surroundings} {row : Row} {kinds : RowKinds} {rule : Rule}

/-- A row that is identified is identified as the same. -/
theorem identify_mono {catalog larger : Catalog} (h : catalog.Within larger)
    (hidentified : row.identify catalog = .ok kinds) : row.identify larger = .ok kinds := by
  rw [identify_eq_ok_iff] at hidentified ⊢
  obtain ⟨source, hsource, hkinds⟩ := hidentified
  rw [ownedSource_eq_ok_iff] at hsource
  obtain ⟨hdecoded, howner⟩ := hsource
  exact ⟨source, (ownedSource_eq_ok_iff _ _ _).mpr
    ⟨hdecoded, Condition.verdict_mono h.ownerConditions howner⟩, hkinds⟩

/-- A target that is accepted is accepted. -/
theorem targetVerdict_mono {catalog larger : Catalog} (h : catalog.Within larger)
    (hverdict : row.targetVerdict catalog kinds = .ok ()) :
    row.targetVerdict larger kinds = .ok () :=
  Condition.verdict_mono (Target.Selection.conditions_mono h) hverdict

/-- An event that is accepted is accepted. -/
theorem eventVerdict_mono {catalog larger : Catalog} (h : catalog.Within larger)
    (hverdict : row.eventVerdict catalog kinds = .ok ()) :
    row.eventVerdict larger kinds = .ok () :=
  Condition.verdict_mono (Condition.Met.append_imp (fun hheader => hheader)
    (Event.conditions_mono h)) hverdict

/-- An action that is accepted is accepted where more is known. -/
theorem actionVerdict_mono (h : world.Within larger)
    (hverdict : row.actionVerdict world.catalog world.waypoints kinds = .ok ()) :
    row.actionVerdict larger.catalog larger.waypoints kinds = .ok () := by
  rw [actionVerdict_eq] at hverdict ⊢
  exact Condition.verdict_mono (Action.conditions_mono h.catalog h.waypoints) hverdict

/-- What a row passes, it passes. -/
theorem Passes.mono (h : world.Within larger) (hpasses : row.Passes world kinds) :
    row.Passes larger kinds where
  identified := identify_mono h.catalog hpasses.identified
  target := targetVerdict_mono h.catalog hpasses.target
  event := eventVerdict_mono h.catalog hpasses.event
  action := actionVerdict_mono h hpasses.action

/-- A sound row gives the same rule where there is more to examine it against. -/
theorem examine_result_mono (h : world.Within larger)
    (hrule : (row.examine world).result = .ok rule) : (row.examine larger).result = .ok rule := by
  rw [examine_result_eq_ok_iff] at hrule ⊢
  obtain ⟨kinds, hpasses, hspelt⟩ := hrule
  exact ⟨kinds, hpasses.mono h, hspelt⟩

end Row

/-- The warnings of an action are among those that it raises where more is known. -/
theorem Action.warnings_sublist {world larger : Surroundings} (h : world.Within larger)
    (action : Action) :
    (action.warnings world.catalog world.index world.warnRedundant).Sublist
      (action.warnings larger.catalog larger.index larger.warnRedundant) := by
  have hredundant (helper : Helper) (entity : UInt32) {known known' : Bool}
      (hknown : known = true → known' = true) :
      (if (world.warnRedundant && known) = true then world.index.redundancies helper entity
        else []).Sublist
      (if (larger.warnRedundant && known') = true then larger.index.redundancies helper entity
        else []) := by
    rw [h.warnRedundant]
    split
    next hboth =>
      rw [Bool.and_eq_true] at hboth
      rw [hboth.1, hknown hboth.2, Bool.and_self, if_pos rfl]
      exact (h.index helper entity).map _
    next => exact List.nil_sublist _
  cases action
  case cast spell castFlags triggerFlags =>
    simp only [warnings]
    cases hfound : world.catalog.spells.find? spell with
    | none => exact List.nil_sublist _
    | some record => rw [h.catalog.spells _ _ hfound]
  case summonCreature | callKilledMonster =>
    exact hredundant _ _ h.catalog.creatures.templates.contains
  case summonGameObject => exact hredundant _ _ h.catalog.gameObjects.templates.contains
  case addItem => exact hredundant _ _ h.catalog.items
  all_goals exact List.nil_sublist _

/-- The warnings of a row, sound or not, are among those that it raises where more is known. -/
theorem Row.examine_warnings_sublist {world larger : Surroundings} (h : world.Within larger)
    (row : Row) : (row.examine world).warnings.Sublist (row.examine larger).warnings := by
  cases hidentify : row.identify world.catalog with
  | error reason =>
    simp only [examine_eq, hidentify]
    exact List.nil_sublist _
  | ok kinds =>
    have hidentify' := identify_mono h.catalog hidentify
    have hposition : row.position.warnings.Sublist (row.examine larger).warnings := by
      simp only [examine_eq, hidentify']
      split
      · exact List.Sublist.refl _
      split
      · exact List.Sublist.refl _
      · exact List.sublist_append_left _ _
    cases htarget : row.targetVerdict world.catalog kinds with
    | error reason => simpa only [examine_eq, hidentify, htarget] using hposition
    | ok _ =>
      cases hevent : row.eventVerdict world.catalog kinds with
      | error reason => simpa only [examine_eq, hidentify, htarget, hevent] using hposition
      | ok _ =>
        simp only [examine_eq, hidentify, htarget, hevent, hidentify',
          targetVerdict_mono h.catalog htarget, eventVerdict_mono h.catalog hevent]
        exact (List.Sublist.refl _).append (Action.warnings_sublist h _)

namespace Table

/-- Some rule of a chain goes under an id. -/
def Retains (table : Table) (key : ChainKey) (id : UInt16) : Prop :=
  ∃ chain, table.chain? key = some chain ∧ ∃ rule ∈ chain, rule.id = id

/-- A table that is filled with rules retains their ids. -/
theorem retains_ofRules_iff (rules : List Rule) (key : ChainKey) (id : UInt16) :
    (ofRules rules).Retains key id ↔ ∃ rule ∈ rules, rule.chainKey = key ∧ rule.id = id := by
  simp only [Retains, chain?_ofRules_eq_some_iff]
  constructor
  · intro hretains
    obtain ⟨chain, ⟨-, rfl⟩, rule, hrule, hid⟩ := hretains
    rw [Chain.ofRules, List.mem_filter, decide_eq_true_eq] at hrule
    exact ⟨rule, hrule.1, hrule.2, hid⟩
  · intro hexists
    obtain ⟨rule, hrule, hkey, hid⟩ := hexists
    have hmem : rule ∈ Chain.ofRules rules key := by
      rw [Chain.ofRules, List.mem_filter, decide_eq_true_eq]
      exact ⟨hrule, hkey⟩
    exact ⟨_, ⟨List.ne_nil_of_mem hmem, rfl⟩, rule, hmem, hid⟩

end Table

namespace Stores

variable {stores larger : Stores}

/-- Larger stores are more to examine rows against. -/
theorem surroundings_within (hcatalog : stores.catalog.Within larger.catalog)
    (hpaths : stores.waypoints.Within larger.waypoints) (options : LoadOptions) :
    (stores.surroundings options).Within (larger.surroundings options) where
  catalog := hcatalog
  waypoints := hpaths
  index := SpellIndex.lookup_build_sublist hcatalog.spells
  warnRedundant := rfl

/-- A load retains the ids that sound rows claim. -/
theorem retains_loadRules_iff (stores : Stores) (rows : List Row) (options : LoadOptions)
    (key : ChainKey) (id : UInt16) :
    (stores.loadRules rows options).1.table.Retains key id ↔
      ∃ row ∈ rows, row.belongsTo key = true ∧ row.id = id ∧
        (row.rule? (stores.surroundings options)).isSome = true := by
  rw [loadRules_table, Table.retains_ofRules_iff, Row.exists_mem_keptRules_iff]
  simp only [(Row.sorted_perm rows).mem_iff]

/-- Growing the reference data never loses a rule. A row that is sound gives the same rule against a
larger catalog and more waypoint paths, and the warnings that a row raises are raised again, in the
same order. Every id of a chain that a load retains is retained by a load of the same rows. -/
theorem loadRules_mono (hcatalog : stores.catalog.Within larger.catalog)
    (hpaths : stores.waypoints.Within larger.waypoints) (options : LoadOptions) :
    (∀ (row : Row) (rule : Rule), (row.examine (stores.surroundings options)).result = .ok rule →
      (row.examine (larger.surroundings options)).result = .ok rule) ∧
    (∀ row : Row, (row.examine (stores.surroundings options)).warnings.Sublist
      (row.examine (larger.surroundings options)).warnings) ∧
    ∀ rows key id, (stores.loadRules rows options).1.table.Retains key id →
      (larger.loadRules rows options).1.table.Retains key id := by
  have hwithin := surroundings_within hcatalog hpaths options
  have hresult : ∀ (row : Row) (rule : Rule),
      (row.examine (stores.surroundings options)).result = .ok rule →
      (row.examine (larger.surroundings options)).result = .ok rule :=
    fun row rule hrule => Row.examine_result_mono hwithin hrule
  refine ⟨hresult, Row.examine_warnings_sublist hwithin, fun rows key id hretains => ?_⟩
  rw [retains_loadRules_iff] at hretains ⊢
  obtain ⟨row, hrow, hbelongs, hid, hsound⟩ := hretains
  obtain ⟨rule, hrule⟩ := Option.isSome_iff_exists.mp hsound
  rw [Row.rule?_eq_some_iff] at hrule
  refine ⟨row, hrow, hbelongs, hid, ?_⟩
  rw [(Row.rule?_eq_some_iff _ _ _).mpr (hresult row rule hrule), Option.isSome_some]

/-- A row of a timed action list that hands out an item. -/
def givingRow : Row :=
  { owner := 7, sourceCode := 9, id := 1, actionCode := 56, actionSlots := #v[8, 1, 0, 0, 0, 0] }

/-- A row that claims the same id and asks for nothing to be known. It comes second, as its link is
greater. -/
def plainRow : Row := { owner := 7, sourceCode := 9, id := 1, link := 2, actionCode := 24 }

/-- Stores with the item, and with a spell that creates it. -/
def stockedStores : Stores where
  catalog :=
    { spells := .ofList [{ id := 5, effects := [{ effect := 24, itemType := 8 }] }]
      items := .ofList [(8 : UInt32)] }

/-- Against the empty catalog the plain row is kept, and against the other one it has to give way;
the id that they claim is retained. -/
theorem loadRules_mono_stockedStores :
    let rows := [givingRow, plainRow]
    let key : ChainKey := ⟨.timedActionList, 7⟩
    ({} : Stores).catalog.Within stockedStores.catalog ∧
    ({} : Stores).waypoints.Within stockedStores.waypoints ∧
    (({} : Stores).loadRules rows).1.table.Retains key 1 ∧
    (stockedStores.loadRules rows).1.table.Retains key 1 ∧
    (stockedStores.loadRules rows).1.table.chain? key ≠
      (({} : Stores).loadRules rows).1.table.chain? key := by
  intro rows key
  have hcatalog : ({} : Stores).catalog.Within stockedStores.catalog :=
    { Catalog.Within.refl {} with
      spells := .of_empty _
      items := fun hitem => absurd hitem (by simp) }
  have hpaths : ({} : Stores).waypoints.Within stockedStores.waypoints := fun _ hpath => hpath
  obtain ⟨-, -, hretains⟩ := loadRules_mono hcatalog hpaths {}
  have hempty : (({} : Stores).loadRules rows).1.table.Retains key 1 :=
    (retains_loadRules_iff _ _ _ _ _).mpr ⟨plainRow, by simp [rows], rfl, rfl, rfl⟩
  refine ⟨hcatalog, hpaths, hempty, hretains rows key 1 hempty, fun hsame => ?_⟩
  have hsorted : Row.sorted rows = rows := Row.sortedBy_eq_self (fun row => row) (by decide)
  have hlinks : ((({} : Stores).loadRules rows).1.table.chain? key).map
      (fun chain => chain.map Rule.link) = some [2] := by
    rw [(loadRules_eq_settleAll {} rows {}).1, hsorted]
    rfl
  have hlinks' : ((stockedStores.loadRules rows).1.table.chain? key).map
      (fun chain => chain.map Rule.link) = some [0] := by
    rw [(loadRules_eq_settleAll stockedStores rows {}).1, hsorted]
    rfl
  rw [hsame, hlinks] at hlinks'
  exact absurd hlinks' (by decide)

end Stores

end AiScript
