import AiScript.Proofs.Row.Bounds
import AiScript.Proofs.Stores.Load

/-!
# What holds after any loads

Rules may be loaded any number of times, each time with another catalog and other waypoints. A load
first drops the chains that there are, so what holds of the table that it leaves holds after any run
of loads, and the last report is that of the last load alone. The numbers of a report are counted
row by row, while a table counts what it holds; `LoadReport.Tallies` says that both come to the
same, since no chain is ever left without rules.
-/

namespace AiScript

/-- A table is in order: it lists fit chains by ascending key and finds what it lists, and it is
empty just when it holds no rule. -/
structure Table.WellFormed (table : Table) : Prop where
  chains : ∀ entry ∈ table.chains, entry.2.WellFormed entry.1
  keys : table.chains.Pairwise fun a b => a.1.ComesBefore b.1
  listed : ∀ key chain, (key, chain) ∈ table.chains ↔ table.chain? key = some chain
  empty : table.isEmpty = true ↔ ¬ ∃ entry ∈ table.chains, ∃ rule, rule ∈ entry.2

/-- The numbers of a report are those of the table, and account for every row. -/
structure LoadReport.Tallies (report : LoadReport) (table : Table) (rows : List Row) : Prop where
  entities : report.entities = table.entityCount
  rules : report.rules = table.ruleCount
  rows : report.rules + report.rejected.length = rows.length

/-- One load of rules, and what it is given. -/
structure RuleLoad where
  rows : List Row
  catalog : Catalog
  waypoints : Waypoints
  options : LoadOptions

namespace Table

variable {world : Surroundings}

/-- A table whose chains are fit is in order. -/
theorem wellFormed_of_chains {table : Table}
    (h : ∀ key chain, table.chain? key = some chain → chain.WellFormed key) :
    table.WellFormed where
  chains := fun entry hentry => h entry.1 entry.2 ((mem_chains_iff table entry.1 entry.2).mp hentry)
  keys := chains_ordered table
  listed := mem_chains_iff table
  empty := by
    rw [isEmpty_iff_chains_eq_nil]
    constructor
    · intro hnil hsome
      obtain ⟨entry, hentry, -⟩ := hsome
      rw [hnil] at hentry
      cases hentry
    · intro hnone
      rw [List.eq_nil_iff_forall_not_mem]
      intro entry hentry
      have hfit := h entry.1 entry.2 ((mem_chains_iff table entry.1 entry.2).mp hentry)
      exact hnone ⟨entry, hentry, List.exists_mem_of_ne_nil _ hfit.nonempty⟩

variable {table : Table}

/-- Where no chain is without rules, admitting a rule adds a chain exactly if the verdict is that it
opens one. -/
theorem entityCount_admit (h : table.Filled) (rule : Rule) :
    let admitted := table.admit rule
    admitted.2.entityCount = table.entityCount + if admitted.1.opens then 1 else 0 := by
  rw [admit_eq]
  cases hchain : table.chain? rule.chainKey with
  | none => simp [entityCount_push, hchain, Verdict.opens]
  | some chain =>
    have hne : chain ≠ [] := by
      rintro rfl
      exact h _ hchain
    simp only [Option.getD_some, if_neg hne]
    split
    · rfl
    · simp [entityCount_push, hchain, Verdict.opens]

/-- Where no chain is without rules, none is after a row. -/
theorem Filled.settle (h : table.Filled) (world : Surroundings) (row : Row) :
    (settle world table row).2.Filled := by
  cases hresult : (row.examine world).result with
  | error reason =>
    rw [settle_of_unsound hresult]
    exact h
  | ok rule =>
    rw [settle_of_sound hresult]
    exact h.admitted rule

/-- Settling a row adds a chain exactly if the verdict is that its rule opens one. -/
theorem entityCount_settle (h : table.Filled) (row : Row) :
    (settle world table row).2.entityCount =
      table.entityCount + if (settle world table row).1.verdict.opens then 1 else 0 := by
  cases hresult : (row.examine world).result with
  | error reason =>
    rw [settle_of_unsound hresult]
    rfl
  | ok rule =>
    rw [settle_of_sound hresult]
    exact entityCount_admit h rule

/-- Settling rows adds as many chains as there are verdicts that open one. -/
theorem entityCount_settleAll (h : table.Filled) (rows : List Row) :
    (settleAll world table rows).2.entityCount = table.entityCount +
      (settleAll world table rows).1.countP fun outcome => outcome.verdict.opens := by
  induction rows generalizing table with
  | nil => rfl
  | cons row rest ih =>
    simp only [settleAll, ih (h.settle world row), entityCount_settle h, List.countP_cons]
    omega

end Table

namespace Outcome

/-- Every outcome keeps a rule or rejects a row, and not both. -/
theorem isSome_rule?_eq_not (outcome : Outcome) :
    outcome.verdict.rule?.isSome = !outcome.rejection?.isSome := by
  rw [rejection?]
  cases outcome.verdict <;> rfl

/-- Outcomes are accounted for by the rules that they keep and the rows that they reject. -/
theorem countP_add_length_rejections (outcomes : List Outcome) :
    (outcomes.countP fun outcome => outcome.verdict.rule?.isSome) +
      (outcomes.filterMap rejection?).length = outcomes.length := by
  rw [List.length_filterMap_eq_countP, List.length_eq_countP_add_countP (fun outcome : Outcome =>
    outcome.verdict.rule?.isSome)]
  congr 1
  refine List.countP_congr fun outcome _ => ?_
  rw [decide_eq_true_eq, isSome_rule?_eq_not, Bool.not_eq_true, Bool.not_eq_false']

end Outcome

namespace Stores

/-- Load rules with a catalog and waypoints of their own. -/
def reload (stores : Stores) (load : RuleLoad) : Stores × LoadReport :=
  let given := { stores with catalog := load.catalog, waypoints := load.waypoints }
  let loaded := given.loadRules load.rows load.options
  (loaded.1, loaded.2.1)

/-- Load rules again and again, from empty stores on. The report is that of the last load. -/
def afterLoads (loads : List RuleLoad) : Stores × LoadReport :=
  loads.foldl (fun before load => before.1.reload load) ({}, {})

/-- A load leaves a table in order. -/
theorem wellFormed_loadRules (stores : Stores) (rows : List Row) (options : LoadOptions) :
    (stores.loadRules rows options).1.table.WellFormed :=
  Table.wellFormed_of_chains fun _ _ hchain => wellFormed_of_loadRules hchain

/-- The report of a load tallies with the table that the load leaves. -/
theorem tallies_loadRules (stores : Stores) (rows : List Row) (options : LoadOptions) :
    (stores.loadRules rows options).2.1.Tallies (stores.loadRules rows options).1.table rows where
  entities := by
    rw [(loadRules_eq_settleAll stores rows options).1,
      (loadRules_eq_settleAll stores rows options).2]
    dsimp only [Table.report]
    rw [Table.entityCount_settleAll Table.filled_empty, Table.entityCount_empty, Nat.zero_add]
  rules := by
    rw [loadRules_report, loadRules_table, Table.ruleCount_ofRules]
    dsimp only [Table.report]
    rw [← List.length_filterMap_eq_countP, Row.filterMap_rule?_inTurn]
  rows := by
    rw [loadRules_report]
    dsimp only [Table.report]
    rw [Outcome.countP_add_length_rejections, Row.inTurn_length, (Row.sorted_perm rows).length_eq]

/-- A load leaves rules whose numbers stay within their bounds. -/
theorem withinBounds_loadRules (stores : Stores) (rows : List Row) (options : LoadOptions) :
    ∀ entry ∈ (stores.loadRules rows options).1.table.chains, ∀ rule ∈ entry.2,
      rule.WithinBounds := by
  intro entry hentry rule hrule
  rw [eq_ofRules_of_mem_chains hentry, Chain.ofRules, List.mem_filter] at hrule
  obtain ⟨row, -, hsound⟩ := Row.exists_row_of_mem_keptRules hrule.1
  exact Row.withinBounds_of_rule? hsound

/-- The last load is made in the stores that the others leave. -/
theorem afterLoads_concat (loads : List RuleLoad) (load : RuleLoad) :
    afterLoads (loads ++ [load]) = (afterLoads loads).1.reload load := by
  rw [afterLoads, List.foldl_concat, afterLoads]

/-- A load makes nothing of the stores that it is made in. -/
theorem reload_eq_fresh (stores : Stores) (load : RuleLoad) :
    stores.reload load = ({} : Stores).reload load := by
  have hloaded := loadRules_eq_of_table
    { stores with catalog := load.catalog, waypoints := load.waypoints } load.rows load.options
    .empty
  rw [reload, reload, hloaded]

/-- What holds of the empty table and of every table that a load leaves holds after any loads. -/
theorem table_afterLoads {motive : Table → Prop} (hempty : motive .empty)
    (hload : ∀ (stores : Stores) (rows : List Row) (options : LoadOptions),
      motive (stores.loadRules rows options).1.table) (loads : List RuleLoad) :
    motive (afterLoads loads).1.table := by
  induction loads using List.reverseRecOn with
  | nil => exact hempty
  | append_singleton loads load ih =>
    rw [afterLoads_concat]
    exact hload _ load.rows load.options

/-- After any loads, the numbers of every rule stay within their bounds. -/
theorem withinBounds_afterLoads (loads : List RuleLoad) :
    ∀ entry ∈ (afterLoads loads).1.table.chains, ∀ rule ∈ entry.2, rule.WithinBounds := by
  refine table_afterLoads (motive := fun table => ∀ entry ∈ table.chains, ∀ rule ∈ entry.2,
    rule.WithinBounds) ?_ withinBounds_loadRules loads
  intro entry hentry
  rw [Table.chains_empty] at hentry
  cases hentry

/-- A row of a timed action list that creates a timed event. -/
def timedRow : Row :=
  { owner := 7, sourceCode := 9, id := 1, eventSlots := #v[10, 20, 30, 40, 0], actionCode := 67,
    actionSlots := #v[1, 100, 200, 300, 300, 50] }

/-- The rule of that row. -/
def timedRule : Rule := timedRow.rule ⟨.timedActionList, .updateIc, .createTimedEvent, .nobody⟩

/-- The row is kept, so there is a rule to speak of. -/
theorem withinBounds_afterLoads_timedRule :
    ((⟨.timedActionList, 7⟩, [timedRule]) : ChainKey × Chain) ∈
        (afterLoads [⟨[timedRow], {}, {}, {}⟩]).1.table.chains ∧
      timedRule ∈ [timedRule] ∧ timedRule.WithinBounds := by
  have hentry : ((⟨.timedActionList, 7⟩, [timedRule]) : ChainKey × Chain) ∈
      (afterLoads [⟨[timedRow], {}, {}, {}⟩]).1.table.chains := by
    have hsound : timedRow.rule? (({} : Stores).surroundings {}) = some timedRule := rfl
    exact (Table.mem_chains_iff _ _ _).mpr (chain?_loadRules_singleton hsound)
  have hmem : timedRule ∈ [timedRule] := List.mem_singleton_self _
  exact ⟨hentry, hmem, withinBounds_afterLoads _ _ hentry timedRule hmem⟩

/-- After any loads the table is in order, and after one more the report of that load tallies with
the table; table and report are then what the load alone gives. -/
theorem wellFormed_afterLoads (loads : List RuleLoad) (load : RuleLoad) :
    (afterLoads loads).1.table.WellFormed ∧
    (afterLoads (loads ++ [load])).2.Tallies (afterLoads (loads ++ [load])).1.table load.rows ∧
    afterLoads (loads ++ [load]) = ({} : Stores).reload load := by
  refine ⟨?_, ?_, ?_⟩
  · refine table_afterLoads ?_ wellFormed_loadRules loads
    exact Table.wellFormed_of_chains fun key chain hchain => by
      rw [Table.chain?_empty] at hchain
      cases hchain
  · rw [afterLoads_concat]
    exact tallies_loadRules _ load.rows load.options
  · rw [afterLoads_concat, reload_eq_fresh]

end Stores

end AiScript
