import AiScript.Proofs.Row.Redundancy
import AiScript.Proofs.Row.Warnings
import AiScript.Proofs.Stores.Links
import AiScript.Proofs.Stores.Run

/-!
# What is told of rows

A report opens with the warnings on rows: those that each kept row calls for, in storage order, and
none on a row that was rejected, however late. Whether redundant actions are warned of is looked up
in the middle of the checks, and two runs over a row that differ in this come to the same result.
So without these warnings a load keeps the same rows, rejects the others for the same reasons, and
tells all the rest in the same order.
-/

namespace AiScript

namespace Row

variable {world : Surroundings}

/-- Rows have the same fates whether redundant actions are asked for or not. -/
theorem settlements_withRedundant (world : Surroundings) (rows : List Row) :
    settlements (world.withRedundant false) rows =
      settlements (world.withRedundant true) rows := by
  refine settlements_congr (fun row => ?_) rows
  rw [examine_withoutRedundant]

/-- If redundant actions are not asked for, the other warnings on the kept rows remain. -/
theorem keptWarnings_withRedundant (world : Surroundings) (rows : List Row) :
    keptWarnings (world.withRedundant false) rows =
      (keptWarnings (world.withRedundant true) rows).filter fun told =>
        !told.reason.isRedundancy := by
  rw [keptWarnings, keptWarnings, settlements_withRedundant, List.filter_flatMap]
  refine List.flatMap_congr fun settled _ => ?_
  rw [Settled.warnings, Settled.warnings]
  cases settled.fate with
  | error reason => rfl
  | ok rule =>
    rw [examine_withoutRedundant, List.filter_map]
    rfl

/-- The warnings that a row calls for, under its context, if it is kept. -/
def Settled.dueWarnings (catalog : Catalog) (warnRedundant : Bool) (settled : Settled) :
    List (Diagnostic Warning) :=
  match settled.fate with
  | .error _ => []
  | .ok _ =>
    (settled.row.dueWarnings catalog warnRedundant).map fun warning =>
      ⟨settled.row.context, warning⟩

/-- The warnings on the kept rows are those that these rows call for. -/
theorem keptWarnings_eq_dueWarnings (hindex : world.index = .build world.catalog)
    (rows : List Row) :
    keptWarnings world rows =
      (settlements world rows).flatMap
        (Settled.dueWarnings world.catalog world.warnRedundant) := by
  refine List.flatMap_congr fun settled hsettled => ?_
  rw [Settled.warnings, Settled.dueWarnings]
  cases hfate : settled.fate with
  | error reason => rfl
  | ok rule =>
    dsimp only
    rw [warnings_of_rule? (rule?_of_mem_settlements hsettled hfate) hindex]

end Row

/-- All that is told of rows is told of no link. -/
theorem Row.filter_not_isOfLinks_keptWarnings (world : Surroundings) (rows : List Row) :
    ((keptWarnings world rows).filter fun told => !told.reason.isOfLinks) =
      keptWarnings world rows := by
  rw [List.filter_eq_self]
  intro told htold
  rw [isOfLinks_of_mem_keptWarnings htold, Bool.not_false]

/-- All that is told of links is told of links only. -/
theorem Table.filter_not_isOfLinks_linkWarnings (table : Table) :
    (table.linkWarnings.filter fun told => !told.reason.isOfLinks) = [] := by
  rw [List.filter_eq_nil_iff]
  intro told htold
  rw [isOfLinks_of_mem_linkWarnings htold, Bool.not_true]
  exact Bool.false_ne_true

/-- What is told of links is not told of redundant actions. -/
theorem Table.filter_not_isRedundancy_linkWarnings (table : Table) :
    (table.linkWarnings.filter fun told => !told.reason.isRedundancy) = table.linkWarnings := by
  rw [List.filter_eq_self]
  intro told htold
  have hlinks := isOfLinks_of_mem_linkWarnings htold
  cases hreason : told.reason with
  | redundantEffect helper entity slot => rw [hreason] at hlinks; cases hlinks
  | orientationOutOfRange orientation | killCreditTargetsCaster slot | danglingLink link => rfl
  | unreachableLinkEvent => rfl

namespace Stores

/-- Row warnings are exact. A report opens with the warnings that the kept rows call for, in storage
order and each under the context of its row, and these are all but the warnings of links. A row
calls for warnings by its own numbers and the spells, which are listed by ascending id. -/
theorem loadRules_rowWarnings (stores : Stores) (rows : List Row) (options : LoadOptions) :
    let spells := stores.catalog.spells
    let loaded := stores.loadRules rows options
    let due := (Row.settlements (stores.surroundings options) (Row.sorted rows)).flatMap
      (Row.Settled.dueWarnings stores.catalog options.warnRedundant)
    loaded.2.1.warnings = due ++ loaded.1.table.linkWarnings ∧
    (loaded.2.1.warnings.filter fun told => !told.reason.isOfLinks) = due ∧
    (spells.toList.Pairwise fun a b => a.id < b.id) ∧
    ∀ spell, spell ∈ spells.toList ↔ spells.find? spell.id = some spell := by
  intro spells loaded due
  have hdue : Row.keptWarnings (stores.surroundings options) (Row.sorted rows) = due :=
    Row.keptWarnings_eq_dueWarnings rfl (Row.sorted rows)
  have hwarnings : loaded.2.1.warnings = due ++ loaded.1.table.linkWarnings := by
    rw [← hdue]
    exact loadRules_warnings stores rows options
  refine ⟨hwarnings, ?_, spells.toList_ordered, spells.mem_toList_iff⟩
  rw [hwarnings, List.filter_append, Table.filter_not_isOfLinks_linkWarnings, List.append_nil,
    ← hdue, Row.filter_not_isOfLinks_keptWarnings]

/-- To ask for redundant actions or not filters warnings and does nothing else. Loads with and
without these warnings leave the same stores and the same report, but that the one lacks them. -/
theorem loadRules_withoutRedundant (stores : Stores) (rows : List Row) :
    let asked := stores.loadRules rows { warnRedundant := true }
    let unasked := stores.loadRules rows { warnRedundant := false }
    unasked.1 = asked.1 ∧
    unasked.2.1 = { asked.2.1 with
      warnings := asked.2.1.warnings.filter fun told => !told.reason.isRedundancy } := by
  intro asked unasked
  have hfates : Row.settlements (stores.surroundings { warnRedundant := false })
      (Row.sorted rows) =
      Row.settlements (stores.surroundings { warnRedundant := true }) (Row.sorted rows) :=
    Row.settlements_withRedundant (stores.surroundings {}) _
  have htable : unasked.1.table = asked.1.table := by
    rw [loadRules_table, loadRules_table, Row.keptRules, Row.keptRules, hfates]
  have hwarnings : unasked.2.1.warnings =
      asked.2.1.warnings.filter fun told => !told.reason.isRedundancy := by
    rw [loadRules_warnings, loadRules_warnings, List.filter_append,
      Table.filter_not_isRedundancy_linkWarnings, ← htable]
    exact congrArg (· ++ unasked.1.table.linkWarnings)
      (Row.keptWarnings_withRedundant (stores.surroundings {}) _)
  refine ⟨congrArg (fun table => { stores with table }) htable, ?_⟩
  rw [LoadReport.mk.injEq]
  refine ⟨?_, ?_, ?_, hwarnings⟩
  · rw [(tallies_loadRules stores rows _).entities, (tallies_loadRules stores rows _).entities]
    exact congrArg Table.entityCount htable
  · rw [(tallies_loadRules stores rows _).rules, (tallies_loadRules stores rows _).rules]
    exact congrArg Table.ruleCount htable
  · rw [loadRules_rejected, loadRules_rejected, Row.rejections, Row.rejections, hfates]

end Stores

end AiScript
