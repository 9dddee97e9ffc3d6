import AiScript.Proofs.Row.Fate
import AiScript.Proofs.Table.Chains
import AiScript.Table.Load

/-!
# Settling rows in turn

Rows that are settled one after the other leave a table of which the fates of the rows tell all: it
holds the rules that are kept, and nothing else. The step lemma is `settle_ofRules`. It rests on two
questions that a table and the rows before can answer alike: whether an id of a chain is taken, and
whether the chain has been opened.
-/

namespace AiScript

/-- The rules of the kept rows that belong to the chain of a key, in the order of the rows. -/
def Chain.ofRows (world : Surroundings) (rows : List Row) (key : ChainKey) : Chain :=
  ((Row.settlements world rows).filter fun settled => settled.row.belongsTo key).filterMap
    fun settled => settled.fate.toOption

namespace Row

/-- The verdict on a row that comes after others. -/
def verdictAfter (world : Surroundings) (earlier : List Row) (row : Row) : Verdict :=
  match row.fate world earlier with
  | .error reason => .rejected reason
  | .ok rule =>
    if earlier.any fun other => other.belongsTo rule.chainKey && (other.rule? world).isSome then
      .joined rule
    else .opened rule

/-- What is known of a row that comes after others, once it is settled. -/
def outcomeAfter (world : Surroundings) (earlier : List Row) (row : Row) : Outcome :=
  ⟨row.context, (row.examine world).warnings, row.verdictAfter world earlier⟩

/-- The verdict on a row keeps the rule that its fate does. -/
theorem outcomeAfter_rule? (world : Surroundings) (earlier : List Row) (row : Row) :
    (row.outcomeAfter world earlier).verdict.rule? = (row.fate world earlier).toOption := by
  rw [outcomeAfter, verdictAfter]
  cases row.fate world earlier with
  | error reason => rfl
  | ok rule =>
    dsimp only
    split <;> rfl

/-- The verdict on a row rejects it for the reason that its fate does. -/
theorem outcomeAfter_rejection? (world : Surroundings) (earlier : List Row) (row : Row) :
    (row.outcomeAfter world earlier).rejection? =
      Settled.rejection? ⟨row, row.fate world earlier⟩ := by
  rw [outcomeAfter, verdictAfter, Settled.rejection?]
  cases row.fate world earlier with
  | error reason => rfl
  | ok rule =>
    dsimp only
    split <;> rfl

/-- What is kept of the warnings on a row is what its fate keeps. -/
theorem outcomeAfter_kept (world : Surroundings) (earlier : List Row) (row : Row) :
    (row.outcomeAfter world earlier).kept =
      Settled.warnings world ⟨row, row.fate world earlier⟩ := by
  rw [outcomeAfter, verdictAfter, Outcome.kept, Settled.warnings]
  cases row.fate world earlier with
  | error reason => rfl
  | ok rule =>
    dsimp only
    split
    next hreason => split at hreason <;> cases hreason
    next => rfl

variable {world : Surroundings} {earlier rows : List Row} {row : Row} {rule : Rule}

/-- The warnings that the outcomes keep are those of the kept rows. -/
theorem flatMap_kept_inTurn (world : Surroundings) (rows : List Row) :
    (inTurn (outcomeAfter world) rows).flatMap Outcome.kept = keptWarnings world rows :=
  flatMap_inTurn_congr (outcomeAfter_kept world) rows

/-- The rejections of the outcomes are those of the fates. -/
theorem filterMap_rejection?_inTurn (world : Surroundings) (rows : List Row) :
    (inTurn (outcomeAfter world) rows).filterMap Outcome.rejection? = rejections world rows :=
  filterMap_inTurn_congr (outcomeAfter_rejection? world) rows

/-- The rules of the outcomes are the kept ones. -/
theorem filterMap_rule?_inTurn (world : Surroundings) (rows : List Row) :
    ((inTurn (outcomeAfter world) rows).filterMap fun outcome => outcome.verdict.rule?) =
      keptRules world rows :=
  filterMap_inTurn_congr (p := fun outcome : Outcome => outcome.verdict.rule?)
    (q := fun settled : Settled => settled.fate.toOption) (outcomeAfter_rule? world) rows

/-- Rows may be sorted into chains before they are settled or after. -/
theorem ofRules_keptRules (world : Surroundings) (rows : List Row) (key : ChainKey) :
    Chain.ofRules (keptRules world rows) key = Chain.ofRows world rows key := by
  rw [Chain.ofRules, keptRules, Chain.ofRows, List.filter_filterMap, List.filterMap_filter]
  refine List.filterMap_congr fun settled hsettled => ?_
  cases hfate : settled.fate with
  | error reason => simp [Except.toOption]
  | ok rule =>
    have hkey := chainKey_eq_iff (rule?_of_mem_settlements hsettled hfate) key
    simp only [Except.toOption, Option.filter_some, decide_eq_true_eq, hkey]

/-- Rows in storage order leave chains with ascending ids: the order keeps ids from falling, and no
two sound rows of a chain that claim one id are both kept. -/
theorem keptRules_ascending (hordered : rows.Pairwise fun a b => ¬ b.ComesBefore a)
    (key : ChainKey) :
    (Chain.ofRules (keptRules world rows) key).Pairwise fun a b => a.id < b.id := by
  induction rows using List.reverseRecOn with
  | nil => exact List.Pairwise.nil
  | append_singleton rows row ih =>
    rw [List.pairwise_append] at hordered
    obtain ⟨hrows, -, hlast⟩ := hordered
    rw [Chain.ofRules, keptRules_concat, List.filter_append, List.pairwise_append]
    cases hfate : row.fate world rows with
    | error reason =>
      simp only [Except.toOption, Option.toList_none, List.filter_nil]
      exact ⟨ih hrows, List.Pairwise.nil, fun _ _ _ h => absurd h List.not_mem_nil⟩
    | ok rule =>
      refine ⟨ih hrows, List.Pairwise.filter _ (List.pairwise_singleton _ _), ?_⟩
      intro other hother found hfound
      simp only [Except.toOption, Option.toList_some, List.mem_filter, List.mem_singleton,
        decide_eq_true_eq] at hother hfound
      obtain ⟨rfl, hkey⟩ := hfound
      obtain ⟨hkept, hsame⟩ := hother
      obtain ⟨claimant, hclaimant, hsound⟩ := exists_row_of_mem_keptRules hkept
      exact id_lt_of_fate hsound hclaimant hfate (hsame.trans hkey.symm)
        (hlast claimant hclaimant row (List.mem_singleton_self _))

/-- The id of a sound row is taken in its chain exactly if a sound row before it claims the same. -/
theorem any_id_eq (h : row.rule? world = some rule) (earlier : List Row) :
    ((Chain.ofRules (keptRules world earlier) rule.chainKey).any fun other => other.id == rule.id) =
      earlier.any fun other => other.sameClaim row && (other.rule? world).isSome := by
  have htaken := exists_mem_keptRules_iff world rule.chainKey rule.id earlier
  rw [Bool.eq_iff_iff, List.any_eq_true, List.any_eq_true]
  simp only [Chain.ofRules, List.mem_filter, decide_eq_true_eq, beq_iff_eq, and_assoc, htaken,
    Bool.and_eq_true, sameClaim_iff h]

/-- A chain has no rule exactly if no sound row belongs to it. -/
theorem ofRules_keptRules_eq_nil_iff (world : Surroundings) (rows : List Row) (key : ChainKey) :
    Chain.ofRules (keptRules world rows) key = [] ↔
      (rows.any fun row => row.belongsTo key && (row.rule? world).isSome) = false := by
  have hexists : (∃ rule ∈ keptRules world rows, rule.chainKey = key) ↔
      ∃ row ∈ rows, row.belongsTo key = true ∧ (row.rule? world).isSome = true := by
    constructor
    · intro hkept
      obtain ⟨rule, hrule, hkey⟩ := hkept
      obtain ⟨row, hrow, hbelongs, -, hsound⟩ :=
        (exists_mem_keptRules_iff world key rule.id rows).mp ⟨rule, hrule, hkey, rfl⟩
      exact ⟨row, hrow, hbelongs, hsound⟩
    · intro hclaimed
      obtain ⟨row, hrow, hbelongs, hsound⟩ := hclaimed
      obtain ⟨rule, hrule, hkey, -⟩ :=
        (exists_mem_keptRules_iff world key row.id rows).mpr ⟨row, hrow, hbelongs, rfl, hsound⟩
      exact ⟨rule, hrule, hkey⟩
  rw [Chain.ofRules, List.filter_eq_nil_iff, ← not_iff_not, Bool.not_eq_false, List.any_eq_true]
  simpa only [Bool.and_eq_true, decide_eq_true_eq, not_forall, not_not, exists_prop] using hexists

end Row

/-- What is kept of the warnings on a row is what the row raised. -/
theorem Outcome.mem_raised_of_mem_kept {outcome : Outcome} {told : Diagnostic Warning}
    (h : told ∈ outcome.kept) : told ∈ outcome.raised := by
  rw [kept] at h
  split at h
  · cases h
  · exact h

namespace Table

variable {world : Surroundings} {row : Row}

/-- A row that is not sound leaves the table alone. -/
theorem settle_of_unsound {reason : Rejection} (h : (row.examine world).result = .error reason)
    (table : Table) : settle world table row =
      (⟨row.context, (row.examine world).warnings, .rejected reason⟩, table) := by
  simp only [settle, h]

/-- A sound row settles as its rule is admitted to the table. -/
theorem settle_of_sound {rule : Rule} (h : (row.examine world).result = .ok rule) (table : Table) :
    settle world table row =
      let admitted := table.admit rule
      (⟨row.context, (row.examine world).warnings, admitted.1⟩, admitted.2) := by
  simp only [settle, h]

/-- The outcome of a row is about the row. -/
theorem settle_context (world : Surroundings) (table : Table) (row : Row) :
    (settle world table row).1.context = row.context := by
  cases hresult : (row.examine world).result with
  | error reason => rw [settle_of_unsound hresult]
  | ok rule => rw [settle_of_sound hresult]

/-- One row settles as its fate says, in a table that holds what the rows before it left. -/
theorem settle_ofRules (world : Surroundings) (earlier : List Row) (row : Row) :
    settle world (ofRules (Row.keptRules world earlier)) row =
      (row.outcomeAfter world earlier, ofRules (Row.keptRules world (earlier ++ [row]))) := by
  cases hresult : (row.examine world).result with
  | error reason =>
    have hfate : row.fate world earlier = .error reason := by simp only [Row.fate, hresult]
    rw [settle_of_unsound hresult, Row.keptRules_concat, Row.outcomeAfter, Row.verdictAfter, hfate]
    simp only [Except.toOption, Option.toList_none, List.append_nil]
  | ok rule =>
    have hrule := (Row.rule?_eq_some_iff row world rule).mpr hresult
    have htaken := Row.any_id_eq hrule earlier
    rw [settle_of_sound hresult, admit_ofRules, htaken, Row.keptRules_concat, Row.outcomeAfter,
      Row.verdictAfter]
    by_cases hclaimed :
        (earlier.any fun other => other.sameClaim row && (other.rule? world).isSome) = true
    · have hfate : row.fate world earlier = .error (.duplicateId rule.id) := by
        simp only [Row.fate, hresult, hclaimed, if_true, Row.id_of_rule? hrule]
      rw [if_pos hclaimed, hfate]
      simp only [Except.toOption, Option.toList_none, List.append_nil]
    · have hfate : row.fate world earlier = .ok rule := by
        simp only [Row.fate, hresult, hclaimed, Bool.false_eq_true, if_false]
      have hopen := Row.ofRules_keptRules_eq_nil_iff world earlier rule.chainKey
      rw [if_neg hclaimed, hfate]
      simp only [hopen, Except.toOption, Option.toList_some]
      cases earlier.any fun other =>
        other.belongsTo rule.chainKey && (other.rule? world).isSome <;> rfl

/-- The last row is settled in the table that the others leave. -/
theorem settleAll_concat (table : Table) (rows : List Row) (row : Row) :
    settleAll world table (rows ++ [row]) =
      ((settleAll world table rows).1 ++ [(settle world (settleAll world table rows).2 row).1],
        (settle world (settleAll world table rows).2 row).2) := by
  induction rows generalizing table with
  | nil => rfl
  | cons first rest ih => simp only [List.cons_append, settleAll, ih]

/-- Rows settled into an empty table, one after the other, settle as their fates say. -/
theorem settleAll_empty (world : Surroundings) (rows : List Row) :
    settleAll world .empty rows =
      (Row.inTurn (Row.outcomeAfter world) rows, ofRules (Row.keptRules world rows)) := by
  induction rows using List.reverseRecOn with
  | nil => rfl
  | append_singleton rows row ih =>
    rw [settleAll_concat, ih, settle_ofRules, Row.inTurn_concat]

end Table

end AiScript
