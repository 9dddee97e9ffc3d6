import AiScript.Proofs.Table.Settlement
import AiScript.Stores

/-!
# What a load leaves

A load is given here without the table that it builds: rows in storage order, each with its fate,
and under every key the rules of the kept rows that belong there. The rules that the stores held are
dropped first, and nothing of the load depends on them (`loadRules_eq_of_table`). The catalog and
the waypoints that rows are examined against are those of the stores at the moment of the load.
-/

namespace AiScript

/-- A chain is fit to stand under a key: it has a rule, its rules belong there, and their ids
ascend. -/
structure Chain.WellFormed (key : ChainKey) (chain : Chain) : Prop where
  nonempty : chain ≠ []
  placed : ∀ rule ∈ chain, rule.chainKey = key
  ascending : chain.Pairwise fun a b => a.id < b.id

/-- A rule of a chain is known by its id. -/
theorem Chain.WellFormed.eq_of_id_eq {key : ChainKey} {chain : Chain} (h : chain.WellFormed key)
    {a b : Rule} (ha : a ∈ chain) (hb : b ∈ chain) (hid : a.id = b.id) : a = b := by
  have hnodup : (chain.map Rule.id).Nodup :=
    List.pairwise_map.mpr (h.ascending.imp fun hlt => UInt16.ne_of_lt hlt)
  exact List.inj_on_of_nodup_map hnodup ha hb hid

namespace Stores

/-- What the rows of a load are examined against. -/
def surroundings (stores : Stores) (options : LoadOptions) : Surroundings :=
  ⟨stores.catalog, SpellIndex.build stores.catalog, stores.waypoints, options.warnRedundant⟩

/-- A load makes nothing of the rules that the stores held. -/
theorem loadRules_eq_of_table (stores : Stores) (rows : List Row) (options : LoadOptions)
    (table : Table) :
    stores.loadRules rows options = { stores with table }.loadRules rows options := by
  rw [loadRules, loadRules, Table.load, Table.load, Table.clear_eq_empty, Table.clear_eq_empty]

/-- A load settles the rows in storage order into an empty table, and reports on that. -/
theorem loadRules_eq_settleAll (stores : Stores) (rows : List Row) (options : LoadOptions) :
    let settled := Table.settleAll (stores.surroundings options) .empty (Row.sorted rows)
    (stores.loadRules rows options).1 = { stores with table := settled.2 } ∧
      (stores.loadRules rows options).2.1 = Table.report settled.1 settled.2 := by
  have hreport : Table.report [] .empty = {} := by
    simp only [Table.report, Table.linkWarnings, Table.chains_empty, List.countP_nil,
      List.filterMap_nil, List.flatMap_nil, List.append_nil]
  rw [loadRules, Table.load, Table.clear_eq_empty]
  cases rows with
  | nil =>
    rw [Row.sorted_nil]
    exact ⟨rfl, hreport.symm⟩
  | cons row rest => exact ⟨rfl, rfl⟩

/-- The table after a load holds the kept rules and no other. -/
theorem loadRules_table (stores : Stores) (rows : List Row) (options : LoadOptions) :
    (stores.loadRules rows options).1.table =
      .ofRules (Row.keptRules (stores.surroundings options) (Row.sorted rows)) := by
  rw [(loadRules_eq_settleAll stores rows options).1, Table.settleAll_empty]

/-- The report after a load is on the outcomes of the sorted rows. -/
theorem loadRules_report (stores : Stores) (rows : List Row) (options : LoadOptions) :
    (stores.loadRules rows options).2.1 =
      Table.report (Row.inTurn (Row.outcomeAfter (stores.surroundings options)) (Row.sorted rows))
        (stores.loadRules rows options).1.table := by
  rw [(loadRules_eq_settleAll stores rows options).2, loadRules_table, Table.settleAll_empty]

/-- A load reports the rejections of the sorted rows, in their order. -/
theorem loadRules_rejected (stores : Stores) (rows : List Row) (options : LoadOptions) :
    (stores.loadRules rows options).2.1.rejected =
      Row.rejections (stores.surroundings options) (Row.sorted rows) := by
  rw [loadRules_report]
  exact Row.filterMap_rejection?_inTurn _ _

/-- A load reports the warnings on the kept rows first, and then what is amiss with links. -/
theorem loadRules_warnings (stores : Stores) (rows : List Row) (options : LoadOptions) :
    (stores.loadRules rows options).2.1.warnings =
      Row.keptWarnings (stores.surroundings options) (Row.sorted rows) ++
        (stores.loadRules rows options).1.table.linkWarnings := by
  rw [loadRules_report]
  dsimp only [Table.report]
  rw [Row.flatMap_kept_inTurn]

/-- A load of one sound row leaves its rule and no other. -/
theorem chain?_loadRules_singleton {stores : Stores} {options : LoadOptions} {row : Row}
    {rule : Rule} (h : row.rule? (stores.surroundings options) = some rule) :
    (stores.loadRules [row] options).1.table.chain? rule.chainKey = some [rule] := by
  have hfate : row.fate (stores.surroundings options) [] = .ok rule :=
    Row.fate_eq_ok_iff.mpr ⟨h, fun other hother => absurd hother List.not_mem_nil⟩
  have hkept : Row.keptRules (stores.surroundings options) [row] = [rule] := by
    rw [← List.nil_append [row], Row.keptRules_concat, hfate]
    rfl
  rw [loadRules_table, Row.sorted_singleton, hkept, Table.chain?_ofRules_eq_some_iff]
  simp [Chain.ofRules]

/-- Every chain that a load leaves is fit to stand under its key. -/
theorem wellFormed_of_loadRules {stores : Stores} {rows : List Row} {options : LoadOptions}
    {key : ChainKey} {chain : Chain}
    (h : (stores.loadRules rows options).1.table.chain? key = some chain) :
    chain.WellFormed key := by
  rw [loadRules_table, Table.chain?_ofRules_eq_some_iff] at h
  obtain ⟨hnonempty, rfl⟩ := h
  refine ⟨hnonempty, fun rule hrule => ?_, Row.keptRules_ascending (Row.sorted_ordered rows) key⟩
  rw [Chain.ofRules, List.mem_filter, decide_eq_true_eq] at hrule
  exact hrule.2

/-- The chain of a key after a load is made of the kept rules that belong there. -/
theorem eq_ofRules_of_mem_chains {stores : Stores} {rows : List Row} {options : LoadOptions}
    {entry : ChainKey × Chain} (h : entry ∈ (stores.loadRules rows options).1.table.chains) :
    entry.2 = Chain.ofRules
      (Row.keptRules (stores.surroundings options) (Row.sorted rows)) entry.1 := by
  rw [Table.mem_chains_iff, loadRules_table, Table.chain?_ofRules_eq_some_iff] at h
  exact h.2

/-- Whatever the stores held, a load leaves what its rows make of themselves when they are taken in
storage order. Each has its fate; the chain of a key is made of the kept rows that belong there, and
is absent if there are none; the others are reported as rejected. Under each id stands the rule of
the first sound row that claims it. -/
theorem loadRules_eq_reference (stores : Stores) (rows : List Row) (options : LoadOptions) :
    let world := stores.surroundings options
    let sorted := Row.sorted rows
    let table := (stores.loadRules rows options).1.table
    Row.StablySorts rows sorted ∧
    (Row.settlements world sorted).map Row.Settled.row = sorted ∧
    (∀ key chain, table.chain? key = some chain ↔
      chain ≠ [] ∧ chain = Chain.ofRows world sorted key) ∧
    (stores.loadRules rows options).2.1.rejected = Row.rejections world sorted ∧
    ∀ key id, ((table.chain? key).getD []).rule? id =
      sorted.findSome? (Row.claim? world key id) := by
  intro world sorted table
  have htable : table = .ofRules (Row.keptRules world sorted) := loadRules_table stores rows options
  refine ⟨Row.sorted_stablySorts rows, Row.settlements_map_row world sorted,
    fun key chain => ?_, ?_, fun key id => ?_⟩
  · rw [htable, Table.chain?_ofRules_eq_some_iff, Row.ofRules_keptRules]
  · rw [loadRules_report]
    exact Row.filterMap_rejection?_inTurn world sorted
  · rw [htable, Table.getD_chain?_ofRules, Chain.rule?, Chain.ofRules, List.find?_filter,
      ← Row.keptRules_find?]
    simp only [decide_eq_true_eq, Bool.decide_and, Bool.decide_eq_true]

end Stores

end AiScript
