import AiScript.Proofs.Stores.Load

/-!
# Chains apart

All chains are built in one pass over the rows, in one table and with one report. Still the rows of
other chains do not matter for a chain: what a table does with a rule hangs on the rule's own chain
alone, and so do the links that are looked at in the end. Loading the rows of a chain by themselves
gives the same chain, and a report that is the part of the whole which is about that chain.
-/

namespace AiScript

/-- Is a context that of a row which belongs to the chain of a key? -/
def RowContext.belongsTo (context : RowContext) (key : ChainKey) : Bool :=
  context.sourceCode == key.source.code && context.owner == key.owner

/-- The context of a rule belongs where the rule does. -/
theorem Rule.context_belongsTo_iff (rule : Rule) (key : ChainKey) :
    rule.context.belongsTo key = true ↔ rule.chainKey = key := by
  cases key with
  | mk source owner =>
    rw [RowContext.belongsTo, Bool.and_eq_true, beq_iff_eq, beq_iff_eq, Rule.chainKey,
      ChainKey.mk.injEq]
    exact and_congr_left fun _ => ⟨Source.code_injective, congrArg Source.code⟩

/-- Lists that pass a test as a whole, or fail it as a whole, may be tested before they are joined
or after. -/
private theorem filter_flatMap_of_forall {α β : Type} {parts : α → List β} {test : β → Bool}
    {whole : α → Bool} {items : List α} (h : ∀ item ∈ items, ∀ part ∈ parts item,
      test part = whole item) :
    (items.flatMap parts).filter test = (items.filter whole).flatMap parts := by
  induction items with
  | nil => rfl
  | cons item rest ih =>
    obtain ⟨hitem, hrest⟩ := List.forall_mem_cons.mp h
    rw [List.flatMap_cons, List.filter_append, ih hrest, List.filter_cons]
    split
    next hwhole =>
      have hall : (parts item).filter test = parts item :=
        List.filter_eq_self.mpr fun part hpart => (hitem part hpart).trans hwhole
      rw [hall, List.flatMap_cons]
    next hwhole =>
      have hnone : (parts item).filter test = [] :=
        List.filter_eq_nil_iff.mpr fun part hpart => (hitem part hpart) ▸ hwhole
      rw [hnone, List.nil_append]

namespace Outcome

/-- The rejections of the rows that belong to a chain. -/
theorem filter_rejections (outcomes : List Outcome) (key : ChainKey) :
    (outcomes.filterMap rejection?).filter (fun told => told.row.belongsTo key) =
      (outcomes.filter fun outcome => outcome.context.belongsTo key).filterMap rejection? := by
  rw [List.filter_filterMap, List.filterMap_filter]
  refine List.filterMap_congr fun outcome _ => ?_
  rw [rejection?]
  cases outcome.verdict.reason? with
  | none => simp only [Option.map_none, Option.filter_none, ite_self]
  | some reason => rw [Option.map_some, Option.filter_some]

/-- What is kept of the warnings on the rows that belong to a chain. -/
theorem filter_kept (outcomes : List Outcome) (key : ChainKey) :
    (outcomes.flatMap kept).filter (fun told => told.row.belongsTo key) =
      (outcomes.filter fun outcome => outcome.context.belongsTo key).flatMap kept := by
  refine filter_flatMap_of_forall fun outcome _ told htold => ?_
  obtain ⟨warning, -, rfl⟩ := List.mem_map.mp (mem_raised_of_mem_kept htold)
  rfl

end Outcome

namespace Table

variable {world : Surroundings} {table other : Table} {key : ChainKey} {row : Row} {rule : Rule}

/-- Tables with the same chain for a rule admit it alike. -/
theorem admit_congr (h : table.chain? rule.chainKey = other.chain? rule.chainKey) :
    let admitted := table.admit rule
    let admitted' := other.admit rule
    admitted.1 = admitted'.1 ∧
      admitted.2.chain? rule.chainKey = admitted'.2.chain? rule.chainKey := by
  rw [admit_eq, admit_eq, h]
  dsimp only
  split
  next htaken => exact ⟨rfl, h⟩
  next hfree =>
    rw [chain?_push, chain?_push, if_pos rfl, if_pos rfl, h]
    exact ⟨rfl, rfl⟩

/-- Admitting a rule leaves the chains of other keys alone. -/
theorem chain?_admit_of_ne (h : rule.chainKey ≠ key) :
    let admitted := table.admit rule
    admitted.2.chain? key = table.chain? key := by
  rw [admit_eq]
  dsimp only
  split
  next htaken => rfl
  next hfree => rw [chain?_push, if_neg h]

/-- Tables with the same chain for a row settle it alike. -/
theorem settle_congr (world : Surroundings) (hrow : row.belongsTo key = true)
    (h : table.chain? key = other.chain? key) :
    (settle world table row).1 = (settle world other row).1 ∧
      (settle world table row).2.chain? key = (settle world other row).2.chain? key := by
  cases hresult : (row.examine world).result with
  | error reason =>
    rw [settle_of_unsound hresult, settle_of_unsound hresult]
    exact ⟨rfl, h⟩
  | ok rule =>
    obtain rfl := (Row.chainKey_eq_iff ((Row.rule?_eq_some_iff row world rule).mpr hresult) key).mpr
      hrow
    obtain ⟨hverdict, hchain⟩ := admit_congr h
    rw [settle_of_sound hresult, settle_of_sound hresult]
    dsimp only
    rw [hverdict]
    exact ⟨rfl, hchain⟩

/-- Settling a row leaves the chains to which it does not belong alone. -/
theorem chain?_settle_of_not_belongsTo (world : Surroundings) (table : Table)
    (hrow : row.belongsTo key = false) :
    (settle world table row).2.chain? key = table.chain? key := by
  cases hresult : (row.examine world).result with
  | error reason => rw [settle_of_unsound hresult]
  | ok rule =>
    have hkey : rule.chainKey ≠ key := by
      intro hkey
      rw [(Row.chainKey_eq_iff ((Row.rule?_eq_some_iff row world rule).mpr hresult) key).mp hkey]
        at hrow
      cases hrow
    rw [settle_of_sound hresult]
    exact chain?_admit_of_ne hkey

/-- The rows that belong to a chain are settled as if there were no others. -/
theorem settleAll_filter_belongsTo (world : Surroundings)
    (h : table.chain? key = other.chain? key) (rows : List Row) :
    (settleAll world table rows).1.filter (fun outcome => outcome.context.belongsTo key) =
        (settleAll world other (rows.filter fun row => row.belongsTo key)).1 ∧
      (settleAll world table rows).2.chain? key =
        (settleAll world other (rows.filter fun row => row.belongsTo key)).2.chain? key := by
  induction rows generalizing table other with
  | nil => exact ⟨rfl, h⟩
  | cons row rest ih =>
    have hcontext : ∀ table,
        (settle world table row).1.context.belongsTo key = row.belongsTo key := by
      intro table
      rw [settle_context]
      rfl
    by_cases hrow : row.belongsTo key = true
    · obtain ⟨houtcome, hchain⟩ := settle_congr world hrow h
      obtain ⟨houtcomes, hchains⟩ := ih hchain
      simp only [settleAll, List.filter_cons, hcontext, hrow, if_true, houtcome, houtcomes, hchains,
        and_self]
    · have hother : row.belongsTo key = false := Bool.not_eq_true _ ▸ hrow
      obtain ⟨houtcomes, hchains⟩ :=
        ih ((chain?_settle_of_not_belongsTo world table hother).trans h)
      simp only [settleAll, List.filter_cons, hcontext, hother, Bool.false_eq_true, if_false,
        houtcomes, hchains, and_self]

/-- A table that is built of rows of one chain has no other. -/
theorem chain?_settleAll_of_ne {found : ChainKey} (hne : found ≠ key) (rows : List Row) :
    (settleAll world .empty (rows.filter fun row => row.belongsTo key)).2.chain? found = none := by
  have hnone : (rows.filter fun row => row.belongsTo key).filter (fun row => row.belongsTo found) =
      [] := by
    rw [List.filter_eq_nil_iff]
    intro row hrow hfound
    rw [List.mem_filter, Row.belongsTo_iff] at hrow
    rw [Row.belongsTo_iff] at hfound
    apply hne
    cases key
    cases found
    rw [ChainKey.mk.injEq]
    exact ⟨Source.code_injective (hfound.1.symm.trans hrow.2.1), hfound.2.symm.trans hrow.2.2⟩
  rw [(settleAll_filter_belongsTo world rfl _).2, hnone]
  exact chain?_empty found

/-- All that is listed of such a table is that chain. -/
theorem chains_settleAll_filter (world : Surroundings) (rows : List Row) (key : ChainKey) :
    let apart := (settleAll world .empty (rows.filter fun row => row.belongsTo key)).2
    apart.chains = ((apart.chain? key).map fun chain => (key, chain)).toList := by
  intro apart
  rw [← chains_filter_key, eq_comm, List.filter_eq_self]
  intro entry hentry
  rw [decide_eq_true_eq]
  by_contra hne
  have hchain := (mem_chains_iff apart entry.1 entry.2).mp hentry
  rw [chain?_settleAll_of_ne hne rows] at hchain
  cases hchain

/-- The link warnings on a chain are what is amiss with the links of that chain. -/
theorem filter_linkWarnings (h : ∀ entry ∈ table.chains, entry.2.WellFormed entry.1)
    (key : ChainKey) :
    table.linkWarnings.filter (fun told => told.row.belongsTo key) =
      (((table.chain? key).map fun chain => (key, chain)).toList).flatMap fun entry =>
        entry.2.linkWarnings := by
  rw [linkWarnings, ← chains_filter_key]
  refine filter_flatMap_of_forall fun entry hentry told htold => ?_
  obtain ⟨rule, hrule, hwarning⟩ := List.mem_flatMap.mp htold
  obtain ⟨warning, -, rfl⟩ := List.mem_map.mp hwarning
  have hplaced := (h entry hentry).placed rule hrule
  rw [Bool.eq_iff_iff, Rule.context_belongsTo_iff, hplaced, decide_eq_true_eq]

end Table

namespace Stores

/-- Chains are independent. The rows that belong to a chain, loaded by themselves, give the same
chain, or none as well; and they are reported on as they are among all rows. -/
theorem loadRules_filter_belongsTo (stores : Stores) (rows : List Row) (options : LoadOptions)
    (key : ChainKey) :
    let loaded := stores.loadRules rows options
    let apart := stores.loadRules (rows.filter fun row => row.belongsTo key) options
    apart.1.table.chain? key = loaded.1.table.chain? key ∧
    loaded.2.1.rejected.filter (fun told => told.row.belongsTo key) = apart.2.1.rejected ∧
    loaded.2.1.warnings.filter (fun told => told.row.belongsTo key) = apart.2.1.warnings := by
  intro loaded apart
  have hfit : ∀ entry ∈ loaded.1.table.chains, entry.2.WellFormed entry.1 := fun entry hentry =>
    wellFormed_of_loadRules ((Table.mem_chains_iff _ entry.1 entry.2).mp hentry)
  obtain ⟨hloaded, hreport⟩ := loadRules_eq_settleAll stores rows options
  obtain ⟨hapart, hreport'⟩ :=
    loadRules_eq_settleAll stores (rows.filter fun row => row.belongsTo key) options
  have hempty : Table.empty.chain? key = Table.empty.chain? key := rfl
  obtain ⟨houtcomes, hchain⟩ :=
    Table.settleAll_filter_belongsTo (stores.surroundings options) hempty (Row.sorted rows)
  rw [Row.sorted_filter] at hapart hreport'
  have hsame : apart.1.table.chain? key = loaded.1.table.chain? key := by
    rw [hloaded, hapart, hchain]
  refine ⟨hsame, ?_, ?_⟩
  · rw [hreport, hreport', Table.report, Table.report, Outcome.filter_rejections, houtcomes]
  · rw [hloaded] at hfit hsame
    rw [hapart] at hsame
    rw [hreport, hreport', Table.report, Table.report, List.filter_append, Outcome.filter_kept,
      houtcomes, Table.filter_linkWarnings hfit, ← hsame, Table.linkWarnings,
      Table.chains_settleAll_filter]

end Stores

end AiScript
