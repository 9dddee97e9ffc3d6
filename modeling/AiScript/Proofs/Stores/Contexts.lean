import AiScript.Proofs.Row.Decoding
import AiScript.Proofs.Stores.Dangling

/-!
# Which rows a report points at

Every entry of a report is about one of the rows that were loaded, and shows a context by which the
row is to be found again. Rejections, and warnings on rows, show the context of the row itself. What
is told of links is told of rules, and shows the context of the rule. That is the context of the
rule's row for all but one sort of row: a rule of a timed action list shows the code of the event
that such lists run on, and not the code that is stored.
-/

namespace AiScript

/-- Something that is amiss, and the row that it is about. -/
structure Finding (α : Type) where
  row : Row
  reason : α

namespace Finding

variable {α : Type}

/-- A finding, told under the context of its row. -/
def told (finding : Finding α) : Diagnostic α := ⟨finding.row.context, finding.reason⟩

/-- A finding, told under the context that a rule shows for its row. -/
def toldOfRule (finding : Finding α) : Diagnostic α := ⟨finding.row.ruleContext, finding.reason⟩

/-- A finding is told alike of rule and row exactly if the row is of no timed action list or names
the event that such rows stand for. -/
theorem toldOfRule_eq_told_iff (finding : Finding α) :
    finding.toldOfRule = finding.told ↔
      (finding.row.sourceCode = Source.timedActionList.code →
        finding.row.eventCode = Event.Kind.updateOoc.code) := by
  rw [toldOfRule, told, Diagnostic.mk.injEq, eq_self, and_true, Row.ruleContext_eq_context_iff]

end Finding

namespace Row

/-- Why the row is rejected, if it is. -/
def Settled.rejectionFinding? (settled : Settled) : Option (Finding Rejection) :=
  match settled.fate with
  | .error reason => some ⟨settled.row, reason⟩
  | .ok _ => none

/-- What examining the row found, if it is kept. -/
def Settled.findings (world : Surroundings) (settled : Settled) : List (Finding Warning) :=
  match settled.fate with
  | .error _ => []
  | .ok _ => (settled.row.examine world).warnings.map fun warning => ⟨settled.row, warning⟩

/-- What is amiss in a chain with the links of the row's rule, if the row is kept. -/
def Settled.linkFindings (chain : Chain) (settled : Settled) : List (Finding Warning) :=
  match settled.fate with
  | .error _ => []
  | .ok rule =>
    (chain.danglingLink rule ++ chain.unreachableLink rule).map fun warning =>
      ⟨settled.row, warning⟩

/-- What is amiss with the links of a table that rows were settled into, by chain and then by
row. -/
def linkFindings (world : Surroundings) (rows : List Row) (table : Table) :
    List (Finding Warning) :=
  table.chains.flatMap fun entry =>
    ((settlements world rows).filter fun settled => settled.row.belongsTo entry.1).flatMap
      (Settled.linkFindings entry.2)

variable {world : Surroundings} {rows : List Row} {settled : Settled}

/-- A settled row is one of the rows. -/
theorem row_mem_of_mem_settlements (h : settled ∈ settlements world rows) :
    settled.row ∈ rows := by
  rw [← settlements_map_row world rows]
  exact List.mem_map_of_mem h

/-- A rejection is told of its row. -/
theorem Settled.rejection?_eq (settled : Settled) :
    settled.rejection? = settled.rejectionFinding?.map Finding.told := by
  rw [rejection?, rejectionFinding?]
  cases settled.fate <;> rfl

/-- The warnings on a kept row are told of it. -/
theorem Settled.warnings_eq (world : Surroundings) (settled : Settled) :
    settled.warnings world = (settled.findings world).map Finding.told := by
  rw [warnings, findings]
  cases settled.fate with
  | error reason => rfl
  | ok rule => rw [List.map_map]; rfl

/-- The warnings on the kept rows are told of these rows. -/
theorem keptWarnings_eq_findings (world : Surroundings) (rows : List Row) :
    keptWarnings world rows =
      ((settlements world rows).flatMap (Settled.findings world)).map Finding.told := by
  rw [keptWarnings, List.map_flatMap]
  apply List.flatMap_congr
  intro settled _
  exact settled.warnings_eq world

/-- The rejections are told of the rejected rows. -/
theorem rejections_eq_findings (world : Surroundings) (rows : List Row) :
    rejections world rows =
      ((settlements world rows).filterMap Settled.rejectionFinding?).map Finding.told := by
  rw [rejections, List.map_filterMap]
  apply List.filterMap_congr
  intro settled _
  exact settled.rejection?_eq

/-- What is amiss with the links of a chain is told of the rules that rows were kept for. -/
theorem linkWarnings_eq {key : ChainKey} {chain : Chain}
    (hchain : chain = Chain.ofRows world rows key) :
    chain.linkWarnings =
      (((settlements world rows).filter fun settled => settled.row.belongsTo key).flatMap
        (Settled.linkFindings chain)).map Finding.toldOfRule := by
  -- only the rules that are gone through come from rows; links are looked up in the chain as it is
  have hrules : chain.linkWarnings = (Chain.ofRows world rows key).flatMap fun rule =>
      (chain.danglingLink rule ++ chain.unreachableLink rule).map fun warning =>
        ⟨rule.context, warning⟩ := by
    rw [← hchain]
    rfl
  rw [hrules, Chain.ofRows, List.filterMap_eq_flatMap_toList, List.flatMap_assoc,
    List.map_flatMap]
  refine List.flatMap_congr fun settled hsettled => ?_
  rw [Settled.linkFindings]
  cases hfate : settled.fate with
  | error reason => rfl
  | ok rule =>
    have hrule := rule?_of_mem_settlements (List.mem_filter.mp hsettled).1 hfate
    simp only [Except.toOption, Option.toList_some, List.flatMap_singleton, List.map_map,
      context_of_rule? hrule]
    rfl

end Row

namespace Stores

/-- The chain of a key after a load is made of the kept rows that belong there. -/
theorem eq_ofRows_of_mem_chains {stores : Stores} {rows : List Row} {options : LoadOptions}
    {entry : ChainKey × Chain} (h : entry ∈ (stores.loadRules rows options).1.table.chains) :
    entry.2 = Chain.ofRows (stores.surroundings options) (Row.sorted rows) entry.1 := by
  rw [eq_ofRules_of_mem_chains h, Row.ofRules_keptRules]

/-- What a load tells of links is told of the rules of kept rows. -/
theorem linkWarnings_eq_linkFindings (stores : Stores) (rows : List Row) (options : LoadOptions) :
    let table := (stores.loadRules rows options).1.table
    table.linkWarnings = (Row.linkFindings (stores.surroundings options) (Row.sorted rows)
      table).map Finding.toldOfRule := by
  intro table
  rw [Table.linkWarnings, Row.linkFindings, List.map_flatMap]
  apply List.flatMap_congr
  intro entry hentry
  exact Row.linkWarnings_eq (eq_ofRows_of_mem_chains hentry)

/-- Every entry of a report is about a row that was loaded, and all but those on links show the
context of that row. Those on links show the context of the row's rule, so all entries show that of
their rows exactly if no timed action list is told of for a row that stores another event than such
lists run on. -/
theorem loadRules_contexts (stores : Stores) (rows : List Row) (options : LoadOptions) :
    let world := stores.surroundings options
    let loaded := stores.loadRules rows options
    let settlements := Row.settlements world (Row.sorted rows)
    let rejected := settlements.filterMap Row.Settled.rejectionFinding?
    let ofRows := settlements.flatMap (Row.Settled.findings world)
    let ofLinks := Row.linkFindings world (Row.sorted rows) loaded.1.table
    (∀ settled ∈ settlements, settled.row ∈ rows) ∧
    loaded.2.1.rejected = rejected.map Finding.told ∧
    loaded.2.1.warnings = ofRows.map Finding.told ++ ofLinks.map Finding.toldOfRule ∧
    (loaded.2.1.warnings = (ofRows ++ ofLinks).map Finding.told ↔
      ∀ finding ∈ ofLinks, finding.row.sourceCode = Source.timedActionList.code →
        finding.row.eventCode = Event.Kind.updateOoc.code) := by
  intro world loaded settlements rejected ofRows ofLinks
  have hwarnings : loaded.2.1.warnings =
      ofRows.map Finding.told ++ ofLinks.map Finding.toldOfRule := by
    rw [loadRules_warnings, linkWarnings_eq_linkFindings, Row.keptWarnings_eq_findings]
  refine ⟨fun settled hsettled => ?_, ?_, hwarnings, ?_⟩
  · exact (Row.sorted_perm rows).mem_iff.mp (Row.row_mem_of_mem_settlements hsettled)
  · rw [loadRules_rejected, Row.rejections_eq_findings]
  · rw [hwarnings, List.map_append, List.append_cancel_left_eq, List.map_inj_left]
    exact forall₂_congr fun finding _ => finding.toldOfRule_eq_told_iff

/-- The rule of the stranded row is all that a load of that row leaves. -/
theorem chain?_loadRules_strandedRow :
    (({} : Stores).loadRules [strandedRow]).1.table.chain? ⟨.timedActionList, 7⟩ =
      some [strandedRule] := by
  have hsound : strandedRow.rule? (({} : Stores).surroundings {}) = some strandedRule := rfl
  exact chain?_loadRules_singleton hsound

/-- The exception arises: the stranded row stores another event than the one that it is told of
with. -/
theorem loadRules_contexts_strandedRow :
    let world := ({} : Stores).surroundings {}
    let loaded := ({} : Stores).loadRules [strandedRow]
    let settlements := Row.settlements world (Row.sorted [strandedRow])
    let ofRows := settlements.flatMap (Row.Settled.findings world)
    let ofLinks := Row.linkFindings world (Row.sorted [strandedRow]) loaded.1.table
    ⟨strandedRow, .danglingLink 2⟩ ∈ ofLinks ∧
    loaded.2.1.warnings = ofRows.map Finding.told ++ ofLinks.map Finding.toldOfRule ∧
    loaded.2.1.warnings ≠ (ofRows ++ ofLinks).map Finding.told := by
  intro world loaded settlements ofRows ofLinks
  have hfound : ⟨strandedRow, .danglingLink 2⟩ ∈ ofLinks := by
    have hentry := (Table.mem_chains_iff _ _ _).mpr chain?_loadRules_strandedRow
    refine List.mem_flatMap.mpr ⟨_, hentry, List.mem_flatMap.mpr ⟨⟨strandedRow, .ok strandedRule⟩,
      ?_, List.mem_singleton_self _⟩⟩
    rw [Row.sorted_singleton]
    exact List.mem_singleton_self _
  obtain ⟨-, -, hwarnings, hcontexts⟩ := loadRules_contexts {} [strandedRow] {}
  refine ⟨hfound, hwarnings, fun heq => ?_⟩
  exact absurd (hcontexts.mp heq _ hfound rfl) (by decide)

/-- It is not so that every entry of a report shows the context of a row that was loaded: what is
told of the stranded row's link does not. -/
theorem not_forall_contexts :
    ¬ ∀ (stores : Stores) (rows : List Row) (options : LoadOptions),
      (∀ told ∈ (stores.loadRules rows options).2.1.rejected,
        ∃ row ∈ rows, told.row = row.context) ∧
      ∀ told ∈ (stores.loadRules rows options).2.1.warnings,
        ∃ row ∈ rows, told.row = row.context := by
  intro hclaim
  have htold : ⟨strandedRule.context, .danglingLink 2⟩ ∈
      (({} : Stores).loadRules [strandedRow]).2.1.warnings := by
    rw [mem_warnings_iff_of_mem_chain rfl chain?_loadRules_strandedRow (List.mem_singleton_self _)]
    decide
  obtain ⟨row, hrow, hcontext⟩ := (hclaim {} [strandedRow] {}).2 _ htold
  rw [List.mem_singleton.mp hrow] at hcontext
  exact absurd (congrArg RowContext.eventCode hcontext) (by decide)

end Stores

end AiScript
