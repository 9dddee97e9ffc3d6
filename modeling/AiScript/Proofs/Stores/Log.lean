import AiScript.Proofs.Stores.Load

/-!
# The log and the report

A load tells of each row and of each chain in the log, and of what it dropped or found amiss in the
report as well. Neither is made from the other. What is logged of a row or of a chain is given here
without the notices that are passed on for it, and both then come to the same: each rejection stands
in both, and so does each warning, but for the warnings on rows that were rejected. These are logged
before the row's fate is known, and nothing but the log keeps them.
-/

namespace AiScript

/-- One record of the log. -/
structure LogRecord where
  level : Notice.Level
  text : String

/-- The record that a notice leaves in the log, if this is how long the stages took. -/
def Notice.record (elapsed : Notice → String) (notice : Notice) : LogRecord :=
  ⟨notice.level, notice.text (elapsed notice)⟩

namespace LogRecord

/-- The records of a level, in their order. -/
def ofLevel (level : Notice.Level) (log : List LogRecord) : List LogRecord :=
  log.filter fun record => record.level = level

/-- What is logged of the helper index of a catalog. -/
def ofIndex (elapsed : Notice → String) (catalog : Catalog) : LogRecord :=
  let slots := (SpellIndex.build catalog).size
  ⟨.info, s!">> Loaded SmartAI helper index ({slots} entries) in {elapsed (.indexBuilt slots)} ms"⟩

/-- What is logged if there are no rows. -/
def noRules : LogRecord := ⟨.info, ">> Loaded 0 SmartAI scripts. Rule table is empty."⟩

/-- What is logged of a warning. -/
def ofWarning (told : Diagnostic Warning) : LogRecord :=
  ⟨.warn, s!"SmartAIMgr: {told.row.text}: {told.reason.text}"⟩

/-- What is logged of a rejection. -/
def ofRejection (told : Diagnostic Rejection) : LogRecord :=
  ⟨.error, s!"SmartAIMgr: {told.row.text}: {told.reason.text}, skipped"⟩

/-- What is logged of the size of a chain. -/
def ofChain (key : ChainKey) (chain : Chain) : LogRecord :=
  ⟨.debug, s!"SmartAIMgr: chain {key.source.name} {key.owner} holds {chain.length} rules"⟩

/-- What is logged of the outcome of a load. -/
def ofReport (elapsed : Notice → String) (report : LoadReport) : LogRecord :=
  let took := elapsed (.rulesLoaded report.entities report.rules)
  ⟨.info, s!">> Loaded {report.entities} SmartAI scripts ({report.rules} rules) in {took} ms"⟩

end LogRecord

namespace Row.Settled

/-- Is the row kept? -/
def isKept (settled : Settled) : Bool := settled.rejection?.isNone

/-- The warnings that the row raises, whatever its fate. -/
def raised (world : Surroundings) (settled : Settled) : List (Diagnostic Warning) :=
  (settled.row.examine world).warnings.map fun warning => ⟨settled.row.context, warning⟩

/-- What is logged of a row: its warnings, and then its rejection if it is rejected. -/
def log (world : Surroundings) (settled : Settled) : List LogRecord :=
  (settled.raised world).map .ofWarning ++
    match settled.fate with
    | .error reason => [.ofRejection ⟨settled.row.context, reason⟩]
    | .ok _ => []

end Row.Settled

/-- What is logged of a chain: its size, and then what is amiss with the links of its rules. -/
def Chain.log (key : ChainKey) (chain : Chain) : List LogRecord :=
  .ofChain key chain :: chain.flatMap fun rule =>
    (chain.danglingLink rule ++ chain.unreachableLink rule).map fun warning =>
      .ofWarning ⟨rule.context, warning⟩

/-- What is logged of rows and chains, one after the other. -/
def Table.log (world : Surroundings) (settled : List Row.Settled) (table : Table) :
    List LogRecord :=
  settled.flatMap (Row.Settled.log world) ++
    table.chains.flatMap fun entry => Chain.log entry.1 entry.2

/-- A report and a log agree on what became of rows and on the links of a table. -/
structure LoadReport.AgreesWith (report : LoadReport) (log : List LogRecord)
    (world : Surroundings) (settled : List Row.Settled) (table : Table) : Prop where
  errors : LogRecord.ofLevel .error log = report.rejected.map .ofRejection
  /-- The warnings that are reported are those logged of the kept rows and those of links. -/
  warnings : report.warnings.map .ofWarning =
    (settled.filter Row.Settled.isKept).flatMap
        (fun kept => LogRecord.ofLevel .warn (kept.log world)) ++
      table.chains.flatMap fun entry => LogRecord.ofLevel .warn (Chain.log entry.1 entry.2)
  /-- Besides, the warnings on rejected rows are logged, and no others. -/
  logged : (LogRecord.ofLevel .warn log).Perm
    (report.warnings.map .ofWarning ++
      (settled.filter fun dropped => !dropped.isKept).flatMap fun dropped =>
        LogRecord.ofLevel .warn (dropped.log world))

namespace Notice

variable (elapsed : Notice → String)

/-- A warning on a row leaves its record. -/
theorem record_rowWarning (told : Diagnostic Warning) :
    record elapsed (.rowWarning told) = .ofWarning told := by
  have htext : text (elapsed (.rowWarning told)) (.rowWarning told) =
      "SmartAIMgr: " ++ (told.row.text ++ ": " ++ told.reason.text) := rfl
  rw [← String.append_assoc, ← String.append_assoc] at htext
  exact congrArg (LogRecord.mk .warn) htext

/-- A rejection leaves its record. -/
theorem record_rowRejected (told : Diagnostic Rejection) :
    record elapsed (.rowRejected told) = .ofRejection told := by
  have htext : text (elapsed (.rowRejected told)) (.rowRejected told) =
      "SmartAIMgr: " ++ (told.row.text ++ ": " ++ told.reason.text) ++ ", skipped" := rfl
  rw [← String.append_assoc, ← String.append_assoc] at htext
  exact congrArg (LogRecord.mk .error) htext

/-- What is told of a row that comes after others leaves what is logged of it. -/
theorem record_outcomeAfter (world : Surroundings) (earlier : List Row) (row : Row) :
    (row.outcomeAfter world earlier).notices.map (record elapsed) =
      Row.Settled.log world ⟨row, row.fate world earlier⟩ := by
  have hwarning : record elapsed ∘ rowWarning = LogRecord.ofWarning :=
    funext (record_rowWarning elapsed)
  rw [Outcome.notices, Row.outcomeAfter_rejection?, List.map_append, List.map_map, List.map_map,
    hwarning, Row.Settled.log, Row.Settled.rejection?]
  congr 1
  cases row.fate world earlier with
  | error reason => exact congrArg (· :: []) (record_rowRejected elapsed _)
  | ok rule => rfl

/-- What is told of a chain leaves what is logged of it. -/
theorem record_chainNotices (entry : ChainKey × Chain) :
    (Table.chainNotices entry).map (record elapsed) = Chain.log entry.1 entry.2 := by
  have hsize : record elapsed (.chainHeld entry.1 entry.2.length) = .ofChain entry.1 entry.2 := rfl
  rw [Table.chainNotices, List.map_cons, hsize, Chain.log, Chain.linkWarnings, List.map_map,
    List.map_flatMap]
  congr 2
  funext rule
  rw [List.map_map]
  exact List.map_congr_left fun warning _ => record_rowWarning elapsed ⟨rule.context, warning⟩

end Notice

namespace LogRecord

@[simp] theorem level_ofWarning (told : Diagnostic Warning) : (ofWarning told).level = .warn := rfl

@[simp] theorem level_ofRejection (told : Diagnostic Rejection) :
    (ofRejection told).level = .error := rfl

@[simp] theorem level_ofChain (key : ChainKey) (chain : Chain) :
    (ofChain key chain).level = .debug := rfl

variable (level : Notice.Level)

@[simp] theorem ofLevel_nil : ofLevel level [] = [] := rfl

@[simp] theorem ofLevel_append (front rest : List LogRecord) :
    ofLevel level (front ++ rest) = ofLevel level front ++ ofLevel level rest :=
  List.filter_append front rest

/-- A record of another level is left out. -/
theorem ofLevel_cons_of_ne {record : LogRecord} (h : record.level ≠ level) (rest : List LogRecord) :
    ofLevel level (record :: rest) = ofLevel level rest :=
  List.filter_cons_of_neg (by simpa using h)

/-- The records of a level that many things leave are those that each of them leaves. -/
theorem ofLevel_flatMap {α : Type} (items : List α) (log : α → List LogRecord) :
    ofLevel level (items.flatMap log) = items.flatMap fun item => ofLevel level (log item) :=
  List.filter_flatMap

/-- Records that are all of one level are left as they are. -/
theorem ofLevel_map_self {α : Type} {record : α → LogRecord}
    (h : ∀ item, (record item).level = level) (items : List α) :
    ofLevel level (items.map record) = items.map record := by
  rw [ofLevel, List.filter_eq_self]
  intro found hfound
  obtain ⟨item, -, rfl⟩ := List.mem_map.mp hfound
  exact decide_eq_true (h item)

/-- Records that are all of one level are left out with another. -/
theorem ofLevel_map_other {α : Type} {record : α → LogRecord}
    (h : ∀ item, (record item).level ≠ level) (items : List α) :
    ofLevel level (items.map record) = [] := by
  rw [ofLevel, List.filter_eq_nil_iff]
  intro found hfound
  obtain ⟨item, -, rfl⟩ := List.mem_map.mp hfound
  rw [decide_eq_true_eq]
  exact h item

end LogRecord

namespace Row.Settled

variable (world : Surroundings) (settled : Settled)

/-- The warnings that are logged of a row are those that it raises. -/
theorem ofLevel_warn_log :
    LogRecord.ofLevel .warn (settled.log world) = (settled.raised world).map .ofWarning := by
  rw [log, LogRecord.ofLevel_append, LogRecord.ofLevel_map_self .warn fun _ => rfl]
  cases settled.fate with
  | error reason =>
    rw [LogRecord.ofLevel_cons_of_ne .warn (by simp), LogRecord.ofLevel_nil, List.append_nil]
  | ok rule => rw [LogRecord.ofLevel_nil, List.append_nil]

/-- One error is logged of a row if it is rejected, and none otherwise. -/
theorem ofLevel_error_log : LogRecord.ofLevel .error (settled.log world) =
    settled.rejection?.toList.map .ofRejection := by
  rw [log, LogRecord.ofLevel_append, LogRecord.ofLevel_map_other .error (by simp),
    List.nil_append, rejection?]
  cases settled.fate <;> rfl

/-- A kept row has the warnings that it raises reported, and a rejected one none. -/
theorem warnings_eq_ite :
    settled.warnings world = if settled.isKept then settled.raised world else [] := by
  rw [warnings, isKept, rejection?, raised]
  cases settled.fate <;> rfl

/-- What is made of all rows is made of the kept rows and of the others. -/
theorem flatMap_perm_kept {α : Type} (all : List Settled) (f : Settled → List α) :
    (all.flatMap f).Perm ((all.filter isKept).flatMap f ++
      (all.filter fun settled => !settled.isKept).flatMap f) := by
  have hsplit := (List.filter_append_perm isKept all).symm
  rw [← List.flatMap_append]
  exact hsplit.flatMap_right f

end Row.Settled

/-- The warnings on the kept rows are those that these rows raise. -/
theorem Row.keptWarnings_eq_raised (world : Surroundings) (rows : List Row) :
    keptWarnings world rows =
      ((settlements world rows).filter Settled.isKept).flatMap (Settled.raised world) := by
  rw [keptWarnings]
  induction settlements world rows with
  | nil => rfl
  | cons settled rest ih =>
    rw [List.flatMap_cons, ih, Settled.warnings_eq_ite]
    by_cases hkept : settled.isKept = true
    · rw [if_pos hkept, List.filter_cons_of_pos hkept, List.flatMap_cons]
    · rw [if_neg hkept, List.filter_cons_of_neg hkept, List.nil_append]

namespace Chain

variable (key : ChainKey) (chain : Chain)

/-- The warnings that are logged of a chain tell what is amiss with its links. -/
theorem ofLevel_warn_log :
    LogRecord.ofLevel .warn (chain.log key) = chain.linkWarnings.map .ofWarning := by
  have hrules (rule : Rule) : LogRecord.ofLevel .warn
      ((chain.danglingLink rule ++ chain.unreachableLink rule).map fun warning =>
        LogRecord.ofWarning ⟨rule.context, warning⟩) =
      (chain.danglingLink rule ++ chain.unreachableLink rule).map fun warning =>
        LogRecord.ofWarning ⟨rule.context, warning⟩ :=
    LogRecord.ofLevel_map_self .warn (fun _ => rfl) _
  rw [log, LogRecord.ofLevel_cons_of_ne .warn (by simp), LogRecord.ofLevel_flatMap, linkWarnings,
    List.map_flatMap]
  simp only [hrules, List.map_map]
  rfl

/-- No error is logged of a chain. -/
theorem ofLevel_error_log : LogRecord.ofLevel .error (chain.log key) = [] := by
  rw [log, LogRecord.ofLevel_cons_of_ne .error (by simp), LogRecord.ofLevel_flatMap,
    List.flatMap_eq_nil_iff]
  intro rule _
  exact LogRecord.ofLevel_map_other .error (by simp) _

end Chain

namespace Table

variable (world : Surroundings) (settled : List Row.Settled) (table : Table)

/-- The errors that are logged are those of the rejected rows, in the order of the rows. -/
theorem ofLevel_error_log : LogRecord.ofLevel .error (table.log world settled) =
    (settled.filterMap Row.Settled.rejection?).map .ofRejection := by
  have hchains : (table.chains.flatMap fun entry =>
      LogRecord.ofLevel .error (Chain.log entry.1 entry.2)) = [] := by
    rw [List.flatMap_eq_nil_iff]
    intro entry _
    exact Chain.ofLevel_error_log entry.1 entry.2
  rw [log, LogRecord.ofLevel_append, LogRecord.ofLevel_flatMap, LogRecord.ofLevel_flatMap, hchains,
    List.append_nil, List.filterMap_eq_flatMap_toList, List.map_flatMap]
  simp only [Row.Settled.ofLevel_error_log]

/-- The warnings that are logged are those of the rows, and then those of the chains. -/
theorem ofLevel_warn_log : LogRecord.ofLevel .warn (table.log world settled) =
    (settled.flatMap fun row => LogRecord.ofLevel .warn (row.log world)) ++
      table.chains.flatMap fun entry => LogRecord.ofLevel .warn (Chain.log entry.1 entry.2) := by
  rw [log, LogRecord.ofLevel_append, LogRecord.ofLevel_flatMap, LogRecord.ofLevel_flatMap]

/-- What is amiss with the links of a table is what is logged of its chains. -/
theorem linkWarnings_map_ofWarning : table.linkWarnings.map .ofWarning =
    table.chains.flatMap fun entry => LogRecord.ofLevel .warn (Chain.log entry.1 entry.2) := by
  rw [linkWarnings, List.map_flatMap]
  simp only [Chain.ofLevel_warn_log]

end Table

namespace Stores

/-- A load tells of the index, then of the rows and of the chains, and then of the outcome; if there
are no rows, it tells of that instead. -/
theorem loadRules_notices (stores : Stores) (rows : List Row) (options : LoadOptions)
    (elapsed : Notice → String) :
    let world := stores.surroundings options
    let loaded := stores.loadRules rows options
    loaded.2.2.map (Notice.record elapsed) =
      .ofIndex elapsed stores.catalog ::
        if rows = [] then [.noRules]
        else Table.log world (Row.settlements world (Row.sorted rows)) loaded.1.table ++
          [.ofReport elapsed loaded.2.1] := by
  intro world loaded
  cases rows with
  | nil => rfl
  | cons row rest =>
    have hsettled := Table.settleAll_empty world (Row.sorted (row :: rest))
    have hnotices : loaded.2.2 = .indexBuilt (SpellIndex.build stores.catalog).size ::
        (Table.settleAll world .empty (Row.sorted (row :: rest))).1.flatMap Outcome.notices ++
          loaded.1.table.chains.flatMap Table.chainNotices ++
          [.rulesLoaded loaded.2.1.entities loaded.2.1.rules] := by
      simp only [loaded, loadRules, Table.load, Table.clear_eq_empty]
      rfl
    have hrows : (Row.inTurn (Row.outcomeAfter world) (Row.sorted (row :: rest))).flatMap
        (fun outcome => outcome.notices.map (Notice.record elapsed)) =
        (Row.settlements world (Row.sorted (row :: rest))).flatMap (Row.Settled.log world) :=
      Row.flatMap_inTurn_congr
        (p := fun outcome : Outcome => outcome.notices.map (Notice.record elapsed))
        (Notice.record_outcomeAfter elapsed world) _
    rw [hnotices, hsettled, if_neg (List.cons_ne_nil row rest)]
    simp only [List.map_append, List.map_cons, List.map_nil, List.map_flatMap, hrows,
      Notice.record_chainNotices, Table.log, List.cons_append]
    rfl

/-- Errors and warnings are logged of rows and chains only. -/
theorem ofLevel_log (stores : Stores) (rows : List Row) (options : LoadOptions)
    (elapsed : Notice → String) (level : Notice.Level) (h : level ≠ .info) :
    let world := stores.surroundings options
    let loaded := stores.loadRules rows options
    LogRecord.ofLevel level (loaded.2.2.map (Notice.record elapsed)) =
      LogRecord.ofLevel level
        (Table.log world (Row.settlements world (Row.sorted rows)) loaded.1.table) := by
  intro world loaded
  have hempty : LogRecord.ofLevel level [.noRules] = [] :=
    LogRecord.ofLevel_cons_of_ne level h.symm []
  have hreport : LogRecord.ofLevel level [.ofReport elapsed loaded.2.1] = [] :=
    LogRecord.ofLevel_cons_of_ne level h.symm []
  rw [loadRules_notices, LogRecord.ofLevel_cons_of_ne level h.symm]
  cases rows with
  | nil =>
    have hchains : loaded.1.table.chains = [] := by
      rw [loadRules_table, Row.sorted_nil]
      exact Table.chains_empty
    have hnone : Table.log world (Row.settlements world (Row.sorted [])) loaded.1.table = [] := by
      rw [Row.sorted_nil, Table.log, hchains]
      rfl
    rw [if_pos rfl, hempty, hnone, LogRecord.ofLevel_nil]
  | cons row rest =>
    rw [if_neg (List.cons_ne_nil row rest), LogRecord.ofLevel_append, hreport, List.append_nil]

/-- The log and the report of a load agree. -/
theorem agreesWith_loadRules (stores : Stores) (rows : List Row) (options : LoadOptions)
    (elapsed : Notice → String) :
    let world := stores.surroundings options
    let settled := Row.settlements world (Row.sorted rows)
    let loaded := stores.loadRules rows options
    loaded.2.1.AgreesWith (loaded.2.2.map (Notice.record elapsed)) world settled
      loaded.1.table := by
  intro world settled loaded
  have herrors : LogRecord.ofLevel .error (loaded.2.2.map (Notice.record elapsed)) =
      (settled.filterMap Row.Settled.rejection?).map .ofRejection := by
    rw [ofLevel_log stores rows options elapsed .error nofun]
    exact Table.ofLevel_error_log world settled loaded.1.table
  have hwarns : LogRecord.ofLevel .warn (loaded.2.2.map (Notice.record elapsed)) =
      (settled.flatMap fun row => LogRecord.ofLevel .warn (row.log world)) ++
        loaded.1.table.chains.flatMap fun entry =>
          LogRecord.ofLevel .warn (Chain.log entry.1 entry.2) := by
    rw [ofLevel_log stores rows options elapsed .warn nofun]
    exact Table.ofLevel_warn_log world settled loaded.1.table
  have hwarnings : loaded.2.1.warnings.map LogRecord.ofWarning =
      (settled.filter Row.Settled.isKept).flatMap
          (fun kept => LogRecord.ofLevel .warn (kept.log world)) ++
        loaded.1.table.chains.flatMap fun entry =>
          LogRecord.ofLevel .warn (Chain.log entry.1 entry.2) := by
    rw [loadRules_warnings, List.map_append, Table.linkWarnings_map_ofWarning,
      Row.keptWarnings_eq_raised, List.map_flatMap]
    simp only [Row.Settled.ofLevel_warn_log]
    rfl
  constructor
  case errors =>
    rw [herrors, loadRules_rejected]
    rfl
  case warnings => exact hwarnings
  case logged =>
    -- the warnings of links are logged behind those on rejected rows
    rw [hwarns, hwarnings, List.append_assoc]
    apply ((Row.Settled.flatMap_perm_kept settled _).append_right _).trans
    rw [List.append_assoc]
    exact List.perm_append_comm.append_left _

/-- The log and the report agree. Whatever the stores held, a load logs the helper index; for each
row in storage order the warnings that it raises and, if it is rejected, an error; for each chain by
ascending key its size and what is amiss with the links of its rules; and the outcome. If there are
no rows, it logs that behind the index. What is reported is what is logged, but for the warnings on
rejected rows. -/
theorem loadRules_log (stores : Stores) (rows : List Row) (options : LoadOptions)
    (elapsed : Notice → String) :
    let world := stores.surroundings options
    let settled := Row.settlements world (Row.sorted rows)
    let loaded := stores.loadRules rows options
    let table := loaded.1.table
    let report := loaded.2.1
    let log := loaded.2.2.map (Notice.record elapsed)
    log = .ofIndex elapsed stores.catalog ::
        (if rows = [] then [.noRules]
        else table.log world settled ++ [.ofReport elapsed report]) ∧
    report.AgreesWith log world settled table ∧
    Row.StablySorts rows (settled.map Row.Settled.row) ∧
    table.chains.Pairwise fun a b => a.1.ComesBefore b.1 := by
  intro world settled loaded table report log
  have hrows : settled.map Row.Settled.row = Row.sorted rows :=
    Row.settlements_map_row world (Row.sorted rows)
  refine ⟨loadRules_notices stores rows options elapsed,
    agreesWith_loadRules stores rows options elapsed, ?_, Table.chains_ordered table⟩
  rw [hrows]
  exact Row.sorted_stablySorts rows

end Stores

end AiScript
