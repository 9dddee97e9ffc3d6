import AiScript.Proofs.Row.Reasons
import AiScript.Proofs.Stores.Load

/-!
# Why a load rejects a row

A row that a stage finds at fault is rejected for that in every load, whatever comes before or after
it. Rows that agree on what this stage and those before it read are rejected for the same reason,
even if nothing else about them is the same. What other rows there are matters only to a sound row,
which is rejected if its id is taken; and that is said of no other.
-/

namespace AiScript

namespace Row

variable {row : Row} {world : Surroundings} {earlier rows : List Row} {reason : Rejection}

/-- What a row is found at fault for is what it is rejected for, whatever comes before it. -/
theorem fate_eq_error_of_examine (h : (row.examine world).result = .error reason) :
    row.fate world earlier = .error reason := by
  rw [fate, h]

/-- A rejected row is at fault by itself, or else it is sound and its id is taken. -/
theorem fault_or_taken_of_fate (h : row.fate world earlier = .error reason) :
    (row.examine world).result = .error reason ∨
      (reason = .duplicateId row.id ∧ ∃ rule, (row.examine world).result = .ok rule) := by
  cases hresult : (row.examine world).result with
  | error fault =>
    rw [fate_eq_error_of_examine hresult] at h
    exact .inl h
  | ok rule =>
    rw [fate, hresult] at h
    dsimp only at h
    split at h
    · exact .inr ⟨(Except.error.inj h).symm, rule, rfl⟩
    · cases h

/-- No row is found by itself to be at fault for an id that is taken. -/
theorem ne_duplicateId_of_examine (h : (row.examine world).result = .error reason) (id : UInt16) :
    reason ≠ .duplicateId id := by
  obtain ⟨stage, hrejected⟩ := (examine_result_eq_error_iff row world reason).mp h
  exact hrejected.ne_duplicateId id

/-- What becomes of a row in its turn is its fate after some of the others. -/
theorem exists_fate_of_mem_settlements {settled : Settled}
    (h : settled ∈ settlements world rows) :
    ∃ earlier, settled.row.fate world earlier = settled.fate := by
  obtain ⟨earlier, row, rest, -, rfl⟩ := (mem_inTurn_iff _ _ _).mp h
  exact ⟨earlier, rfl⟩

/-- A rejection is reported exactly if it is what becomes of some row. -/
theorem mem_rejections_iff (world : Surroundings) (rows : List Row)
    (diagnostic : Diagnostic Rejection) :
    diagnostic ∈ rejections world rows ↔ ∃ settled ∈ settlements world rows,
      settled.fate = .error diagnostic.reason ∧ settled.row.context = diagnostic.row := by
  have hrejection : ∀ settled : Settled, settled.rejection? = some diagnostic ↔
      settled.fate = .error diagnostic.reason ∧ settled.row.context = diagnostic.row := by
    obtain ⟨context, reason⟩ := diagnostic
    rintro ⟨row, fate⟩
    cases fate <;> simp [Settled.rejection?, and_comm]
  rw [rejections, List.mem_filterMap]
  exact exists_congr fun settled => and_congr_right fun _ => hrejection settled

/-- Each row has a turn. -/
theorem exists_mem_settlements (h : row ∈ rows) :
    ∃ settled ∈ settlements world rows, settled.row = row := by
  rwa [← settlements_map_row world rows, List.mem_map] at h

end Row

namespace Stores

/-- A row is rejected for a reason by every load that it is part of. -/
structure Rejects (stores : Stores) (options : LoadOptions) (row : Row) (reason : Rejection) :
    Prop where
  /-- The row is at fault by itself. -/
  examined : (row.examine (stores.surroundings options)).result = .error reason
  /-- Wherever it stands among other rows, this is what becomes of it. -/
  settled : ∀ rows : List Row,
    ∀ settled ∈ Row.settlements (stores.surroundings options) (Row.sorted rows),
      settled.row = row → settled.fate = .error reason
  /-- The report says so. -/
  reported : ∀ rows : List Row, row ∈ rows →
    ⟨row.context, reason⟩ ∈ (stores.loadRules rows options).2.1.rejected

/-- A row that is at fault by itself is rejected by every load that it is part of. -/
theorem rejects_of_examine {stores : Stores} {options : LoadOptions} {row : Row}
    {reason : Rejection}
    (h : (row.examine (stores.surroundings options)).result = .error reason) :
    stores.Rejects options row reason := by
  have hsettled : ∀ rows : List Row,
      ∀ settled ∈ Row.settlements (stores.surroundings options) (Row.sorted rows),
        settled.row = row → settled.fate = .error reason := by
    rintro rows settled hsettled rfl
    obtain ⟨earlier, hfate⟩ := Row.exists_fate_of_mem_settlements hsettled
    rw [← hfate, Row.fate_eq_error_of_examine h]
  refine ⟨h, hsettled, fun rows hrow => ?_⟩
  have hsorted : row ∈ Row.sorted rows := (Row.sorted_perm rows).mem_iff.mpr hrow
  obtain ⟨settled, hmem, hown⟩ := Row.exists_mem_settlements hsorted
  rw [loadRules_rejected, Row.mem_rejections_iff]
  exact ⟨settled, hmem, hsettled rows settled hmem hown, congrArg Row.context hown⟩

/-- The first stage that finds fault with a row decides the reason. A row that agrees with a
rejected one on what this stage and those before it read is rejected at the same stage, for the same
reason, by every load. A load reports the rows that are at fault by themselves and those whose id is
taken; of the latter each is sound. -/
theorem loadRules_rejections (stores : Stores) (options : LoadOptions) :
    let world := stores.surroundings options
    (∀ (row : Row) (reason : Rejection), (row.examine world).result = .error reason ↔
      ∃ stage, row.RejectedAt world stage reason) ∧
    (∀ (a b : Row) (stage : Stage) (reason : Rejection), a.RejectedAt world stage reason →
      a.AgreesUpTo b stage →
      b.RejectedAt world stage reason ∧ stores.Rejects options b reason) ∧
    ∀ rows : List Row,
      (stores.loadRules rows options).2.1.rejected =
        (Row.settlements world (Row.sorted rows)).filterMap Row.Settled.rejection? ∧
      ∀ settled ∈ Row.settlements world (Row.sorted rows), ∀ reason,
        settled.fate = .error reason →
        ((settled.row.examine world).result = .error reason ∧ ∀ id, reason ≠ .duplicateId id) ∨
        (reason = .duplicateId settled.row.id ∧
          ∃ rule, (settled.row.examine world).result = .ok rule) := by
  intro world
  refine ⟨fun row => row.examine_result_eq_error_iff world, ?_, fun rows => ?_⟩
  · intro a b stage reason hrejected hagrees
    have hother := hrejected.congr hagrees
    have hfault := (b.examine_result_eq_error_iff world reason).mpr ⟨stage, hother⟩
    exact ⟨hother, rejects_of_examine hfault⟩
  · refine ⟨loadRules_rejected stores rows options, fun settled hsettled reason hreason => ?_⟩
    obtain ⟨earlier, hfate⟩ := Row.exists_fate_of_mem_settlements hsettled
    rw [← hfate] at hreason
    obtain hfault | htaken := Row.fault_or_taken_of_fate hreason
    · exact .inl ⟨hfault, Row.ne_duplicateId_of_examine hfault⟩
    · exact .inr htaken

/-- A row of a timed action list with a chance above 100. -/
def overcertainRow : Row :=
  { owner := 17, sourceCode := 9, id := 1, chance := 101, actionCode := 1 }

/-- A row that differs from it in what is said and where. -/
def overcertainTalk : Row :=
  { overcertainRow with actionSlots := .replicate 6 9, position := { x := ⟨1⟩ } }

/-- Its chance is what both rows are rejected for. -/
theorem loadRules_rejections_overcertainRow :
    let world := ({} : Stores).surroundings {}
    overcertainRow.RejectedAt world .event (.chanceOutOfRange 101) ∧
    overcertainRow.AgreesUpTo overcertainTalk .event ∧
    ({} : Stores).Rejects {} overcertainTalk (.chanceOutOfRange 101) := by
  intro world
  have hidentified : overcertainRow.identify world.catalog =
      .ok ⟨.timedActionList, .updateIc, .talk, .nobody⟩ := rfl
  have hrejected : overcertainRow.RejectedAt world .event (.chanceOutOfRange 101) :=
    .event hidentified rfl rfl
  have hagrees : overcertainRow.AgreesUpTo overcertainTalk .event :=
    ⟨⟨⟨rfl, rfl⟩, rfl, rfl, rfl, rfl⟩, rfl, rfl, rfl, rfl, rfl, rfl⟩
  have hsame := (loadRules_rejections {} {}).2.1 _ _ _ _ hrejected hagrees
  exact ⟨hrejected, hagrees, hsame.2⟩

end Stores

end AiScript
