import AiScript.Check.Row
import AiScript.Notice
import AiScript.Table

/-!
# Loading rules

Rows are settled in storage order: each is examined, and a rule that comes of it is admitted to its
chain. A row that is rejected, for whatever reason, leaves nothing behind in the table and no
warning in the report; only the notices tell of the warnings that it had raised. Once every row is
settled, the links of each chain are looked at.
-/

namespace AiScript

/-- What became of one row. -/
structure Outcome where
  context : RowContext
  warnings : List Warning
  verdict : Verdict

namespace Outcome

/-- The row's rejection, if it was rejected. -/
def rejection? (outcome : Outcome) : Option (Diagnostic Rejection) :=
  outcome.verdict.reason?.map fun reason => ⟨outcome.context, reason⟩

/-- The warnings that the row raised. -/
def raised (outcome : Outcome) : List (Diagnostic Warning) :=
  outcome.warnings.map fun warning => ⟨outcome.context, warning⟩

/-- The warnings that the row raised, if it was kept. -/
def kept (outcome : Outcome) : List (Diagnostic Warning) :=
  match outcome.verdict with
  | .rejected _ => []
  | _ => outcome.raised

/-- What is told of the row: its warnings, and then its rejection. -/
def notices (outcome : Outcome) : List Notice :=
  outcome.raised.map .rowWarning ++ outcome.rejection?.toList.map .rowRejected

end Outcome

namespace Table

/-- Settle one row. -/
def settle (world : Surroundings) (table : Table) (row : Row) : Outcome × Table :=
  let examination := row.examine world
  match examination.result with
  | .error reason => (⟨row.context, examination.warnings, .rejected reason⟩, table)
  | .ok rule =>
    let admitted := table.admit rule
    (⟨row.context, examination.warnings, admitted.1⟩, admitted.2)

/-- Settle rows one after the other. -/
def settleAll (world : Surroundings) (table : Table) : List Row → List Outcome × Table
  | [] => ([], table)
  | row :: rest =>
    let first := settle world table row
    let others := settleAll world first.2 rest
    (first.1 :: others.1, others.2)

/-- What is amiss with the links of a table, chain by chain. -/
def linkWarnings (table : Table) : List (Diagnostic Warning) :=
  table.chains.flatMap fun entry => Chain.linkWarnings entry.2

/-- What is told of a chain: its size, and what is amiss with its links. -/
def chainNotices (entry : ChainKey × Chain) : List Notice :=
  .chainHeld entry.1 entry.2.length :: (Chain.linkWarnings entry.2).map .rowWarning

/-- The report on settled rows and the table that holds those that were kept. -/
def report (outcomes : List Outcome) (table : Table) : LoadReport where
  entities := outcomes.countP fun outcome => outcome.verdict.opens
  rules := outcomes.countP fun outcome => outcome.verdict.rule?.isSome
  rejected := outcomes.filterMap Outcome.rejection?
  warnings := outcomes.flatMap Outcome.kept ++ table.linkWarnings

end Table

/-- What rules are loaded with. -/
structure LoadOptions where
  /-- Warn of actions that a spell makes redundant? -/
  warnRedundant : Bool := true

/-- What a load of rules gives. -/
structure LoadedRules where
  table : Table
  report : LoadReport
  notices : List Notice

/-- Load rules from rows that may come in any order, once the chains that there were are dropped. -/
def Table.load (table : Table) (rows : List Row) (catalog : Catalog) (waypoints : Waypoints)
    (options : LoadOptions := {}) : LoadedRules :=
  let index := SpellIndex.build catalog
  let indexed := Notice.indexBuilt index.size
  let cleared := table.clear
  if rows.isEmpty then ⟨cleared, {}, [indexed, .noRules]⟩
  else
    let world : Surroundings := ⟨catalog, index, waypoints, options.warnRedundant⟩
    let settled := settleAll world cleared (Row.sorted rows)
    let report := Table.report settled.1 settled.2
    { table := settled.2
      report
      notices :=
        indexed :: settled.1.flatMap Outcome.notices ++ settled.2.chains.flatMap chainNotices
          ++ [.rulesLoaded report.entities report.rules] }

end AiScript
