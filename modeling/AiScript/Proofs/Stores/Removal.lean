import AiScript.Proofs.Stores.Run

/-!
# What rejected rows leave behind

A row that a load rejects changes nothing for the rows after it: the table that it leaves is the one
that it was given. So any of the rejected rows may be taken out of the list before it is loaded, and
all that is missed afterwards is their rejections. Rows are told apart by their places in the list,
since a list may hold a row more than once and a load may keep only one of them.
-/

namespace AiScript

namespace Outcome

/-- Does the outcome reject its row? -/
def isRejected (outcome : Outcome) : Bool := outcome.rejection?.isSome

variable {outcome : Outcome}

/-- A row that is rejected keeps no rule. -/
theorem rule?_isSome_of_isRejected (h : outcome.isRejected = true) :
    outcome.verdict.rule?.isSome = false := by
  rw [isSome_rule?_eq_not, Bool.not_eq_false']
  exact h

/-- A row that is rejected opens no chain. -/
theorem opens_of_isRejected (h : outcome.isRejected = true) : outcome.verdict.opens = false := by
  have hnone := rule?_isSome_of_isRejected h
  cases hverdict : outcome.verdict with
  | opened rule => simp [hverdict, Verdict.rule?] at hnone
  | joined rule => rfl
  | rejected reason => rfl

/-- A row that is rejected has none of its warnings kept. -/
theorem kept_of_isRejected (h : outcome.isRejected = true) : outcome.kept = [] := by
  have hnone := rule?_isSome_of_isRejected h
  rw [kept]
  cases hverdict : outcome.verdict with
  | opened rule => simp [hverdict, Verdict.rule?] at hnone
  | joined rule => simp [hverdict, Verdict.rule?] at hnone
  | rejected reason => rfl

end Outcome

namespace Table

variable {α : Type} {world : Surroundings}

/-- A rule that is not admitted leaves the table as it was. -/
theorem table_of_admit_eq_rejected {table after : Table} {rule : Rule} {reason : Rejection}
    (h : table.admit rule = (.rejected reason, after)) : after = table := by
  rw [admit_eq] at h
  dsimp only at h
  split at h
  next htaken => exact (Prod.mk.inj h).2.symm
  next hfree => split at h <;> cases (Prod.mk.inj h).1

/-- A row that is rejected leaves the table as it was. -/
theorem settle_table_of_isRejected {table : Table} {row : Row}
    (h : (settle world table row).1.isRejected = true) : (settle world table row).2 = table := by
  cases hresult : (row.examine world).result with
  | error reason => rw [settle_of_unsound hresult]
  | ok rule =>
    rw [settle_of_sound hresult] at h ⊢
    rw [Outcome.isRejected, Outcome.rejection?, Option.isSome_map] at h
    cases hadmitted : table.admit rule with
    | mk verdict after =>
      rw [hadmitted] at h
      cases verdict with
      | opened rule => cases h
      | joined rule => cases h
      | rejected reason => exact table_of_admit_eq_rejected hadmitted

/-- What becomes of each of the things whose rows are settled one after the other. -/
def settled (world : Surroundings) (table : Table) (row : α → Row) (items : List α) :
    List (α × Outcome) :=
  items.zip (settleAll world table (items.map row)).1

/-- There is one outcome for each row. -/
theorem settleAll_length (table : Table) (rows : List Row) :
    (settleAll world table rows).1.length = rows.length := by
  induction rows generalizing table with
  | nil => rfl
  | cons row rest ih => simp only [settleAll, List.length_cons, ih]

/-- The first of the things is settled in the given table, and the others in the table after it. -/
theorem settled_cons (table : Table) (row : α → Row) (item : α) (items : List α) :
    settled world table row (item :: items) =
      (item, (settle world table (row item)).1) ::
        settled world (settle world table (row item)).2 row items := rfl

/-- Everything is settled, and in its place. -/
theorem settled_map_fst (world : Surroundings) (table : Table) (row : α → Row) (items : List α) :
    (settled world table row items).map Prod.fst = items :=
  List.map_fst_zip (by rw [settleAll_length, List.length_map])

/-- The outcomes are those of the rows. -/
theorem settled_map_snd (table : Table) (row : α → Row) (items : List α) :
    (settled world table row items).map Prod.snd = (settleAll world table (items.map row)).1 :=
  List.map_snd_zip (by rw [settleAll_length, List.length_map])

/-- An outcome is on the row that it stands beside. -/
theorem context_of_mem_settled {table : Table} {row : α → Row} {items : List α}
    {found : α × Outcome} (h : found ∈ settled world table row items) :
    found.2.context = (row found.1).context := by
  induction items generalizing table with
  | nil => cases h
  | cons item items ih =>
    rw [settled_cons, List.mem_cons] at h
    rcases h with rfl | h
    · exact settle_context world table (row item)
    · exact ih h

/-- Without some of the rejected things, the others are settled as before, into the same table. -/
theorem settled_filter (keep : α → Bool) (row : α → Row) (items : List α) (table : Table)
    (h : ∀ found ∈ settled world table row items,
      keep found.1 = false → found.2.isRejected = true) :
    settled world table row (items.filter keep) =
        (settled world table row items).filter (fun found => keep found.1) ∧
      (settleAll world table ((items.filter keep).map row)).2 =
        (settleAll world table (items.map row)).2 := by
  induction items generalizing table with
  | nil => exact ⟨rfl, rfl⟩
  | cons item items ih =>
    rw [settled_cons, List.forall_mem_cons] at h
    obtain ⟨hitem, hitems⟩ := h
    obtain ⟨hsettled, htable⟩ := ih (settle world table (row item)).2 hitems
    by_cases hkeep : keep item = true
    · simp only [List.filter_cons, hkeep, if_true, settled_cons, hsettled, List.map_cons,
        settleAll, htable, and_self]
    · -- the table is still the one that was given, so the others do not notice
      rw [settle_table_of_isRejected (hitem (Bool.not_eq_true _ ▸ hkeep))] at hsettled htable
      simp only [List.filter_cons, hkeep, Bool.false_eq_true, if_false, settled_cons, hsettled,
        List.map_cons, settleAll, htable, and_self,
        settle_table_of_isRejected (hitem (Bool.not_eq_true _ ▸ hkeep))]

/-- Without some of the rejected things, nothing is missing from the report but their rejections. -/
theorem report_filter (keep : α → Bool) (table : Table) {found : List (α × Outcome)}
    (h : ∀ entry ∈ found, keep entry.1 = false → entry.2.isRejected = true) :
    report ((found.filter fun entry => keep entry.1).map Prod.snd) table =
      { report (found.map Prod.snd) table with
        rejected := (found.filter fun entry => keep entry.1).filterMap fun entry =>
          entry.2.rejection? } := by
  have hcount : ∀ counts : Outcome → Bool,
      (∀ outcome : Outcome, outcome.isRejected = true → counts outcome = false) →
        ((found.filter fun entry => keep entry.1).map Prod.snd).countP counts =
          (found.map Prod.snd).countP counts := by
    intro counts hrejected
    rw [List.countP_map, List.countP_map, List.countP_filter]
    refine List.countP_congr fun entry hentry => ?_
    rw [Bool.and_eq_true, and_iff_left_iff_imp]
    intro hcounts
    by_contra hdropped
    have hnone := hrejected entry.2 (h entry hentry (Bool.not_eq_true _ ▸ hdropped))
    rw [Function.comp_apply, hnone] at hcounts
    cases hcounts
  have hkept : ((found.filter fun entry => keep entry.1).map Prod.snd).flatMap Outcome.kept =
      (found.map Prod.snd).flatMap Outcome.kept := by
    clear hcount
    induction found with
    | nil => rfl
    | cons entry found ih =>
      obtain ⟨hentry, hfound⟩ := List.forall_mem_cons.mp h
      rw [List.filter_cons]
      split
      next hkeep =>
        rw [List.map_cons, List.flatMap_cons, List.map_cons, List.flatMap_cons, ih hfound]
      next hdrop =>
        rw [List.map_cons, List.flatMap_cons, ih hfound,
          Outcome.kept_of_isRejected (hentry (Bool.not_eq_true _ ▸ hdrop)), List.nil_append]
  simp only [report, hkept, hcount _ fun outcome => Outcome.opens_of_isRejected,
    hcount _ fun outcome => Outcome.rule?_isSome_of_isRejected, List.filterMap_map]
  rfl

end Table

/-- Rows without those at some places. -/
def Row.withoutPlaces (dropped : Nat → Bool) (rows : List Row) : List Row :=
  (rows.zipIdx.filter fun entry => !dropped entry.2).map Prod.fst

namespace Stores

/-- What becomes of each place of a list in a load, in storage order. -/
def settledPlaces (stores : Stores) (rows : List Row) (options : LoadOptions := {}) :
    List ((Row × Nat) × Outcome) :=
  Table.settled (stores.surroundings options) .empty Prod.fst (Row.sortedBy Prod.fst rows.zipIdx)

/-- The places whose rows a load rejects, and why. They come in the order of the report. -/
def rejectedPlaces (stores : Stores) (rows : List Row) (options : LoadOptions := {}) :
    List (Nat × Diagnostic Rejection) :=
  (stores.settledPlaces rows options).filterMap fun entry =>
    entry.2.rejection?.map fun rejection => (entry.1.2, rejection)

variable {stores : Stores} {rows : List Row} {options : LoadOptions}

/-- Rows and their places are sorted as the rows are. -/
theorem sortedBy_zipIdx_map_fst (rows : List Row) :
    (Row.sortedBy Prod.fst rows.zipIdx).map Prod.fst = Row.sorted rows := by
  rw [Row.sortedBy_map, List.zipIdx_map_fst]

/-- What stays of the rows is sorted as before. -/
theorem sorted_withoutPlaces (dropped : Nat → Bool) (rows : List Row) :
    Row.sorted (Row.withoutPlaces dropped rows) =
      ((Row.sortedBy Prod.fst rows.zipIdx).filter fun entry => !dropped entry.2).map Prod.fst := by
  rw [Row.withoutPlaces, ← Row.sortedBy_map, Row.sortedBy_filter]

/-- Each place is settled once. -/
theorem settledPlaces_nodup (stores : Stores) (rows : List Row) (options : LoadOptions) :
    ((stores.settledPlaces rows options).map (Prod.snd ∘ Prod.fst)).Nodup := by
  have hplaces := ((Row.sortedBy_perm Prod.fst rows.zipIdx).map Prod.snd).nodup_iff
  rw [List.zipIdx_map_snd] at hplaces
  rw [← List.map_map, settledPlaces, Table.settled_map_fst]
  exact hplaces.mpr List.nodup_range'

/-- Each place is rejected at most once. -/
theorem rejectedPlaces_nodup (stores : Stores) (rows : List Row) (options : LoadOptions) :
    ((stores.rejectedPlaces rows options).map Prod.fst).Nodup := by
  rw [List.Nodup, List.pairwise_map, rejectedPlaces, List.pairwise_filterMap]
  refine (List.pairwise_map.mp (settledPlaces_nodup stores rows options)).imp ?_
  intro entry other hne found hfound found' hfound'
  obtain ⟨rejection, -, rfl⟩ := Option.map_eq_some_iff.mp hfound
  obtain ⟨rejection', -, rfl⟩ := Option.map_eq_some_iff.mp hfound'
  exact hne

/-- A rejected place is one whose outcome is a rejection. -/
theorem mem_rejectedPlaces_iff {place : Nat} {rejection : Diagnostic Rejection} :
    (place, rejection) ∈ stores.rejectedPlaces rows options ↔
      ∃ entry ∈ stores.settledPlaces rows options,
        entry.1.2 = place ∧ entry.2.rejection? = some rejection := by
  simp only [rejectedPlaces, List.mem_filterMap, Option.map_eq_some_iff, Prod.mk.injEq]
  constructor
  · intro hfound
    obtain ⟨entry, hentry, said, hsaid, hplace, rfl⟩ := hfound
    exact ⟨entry, hentry, hplace, hsaid⟩
  · intro hfound
    obtain ⟨entry, hentry, hplace, hsaid⟩ := hfound
    exact ⟨entry, hentry, rejection, hsaid, hplace, rfl⟩

/-- The report tells of the rejected places in their order. -/
theorem rejected_eq_rejectedPlaces (stores : Stores) (rows : List Row) (options : LoadOptions) :
    (stores.loadRules rows options).2.1.rejected =
      (stores.rejectedPlaces rows options).map Prod.snd := by
  rw [(loadRules_eq_settleAll stores rows options).2, Table.report, rejectedPlaces, settledPlaces,
    ← sortedBy_zipIdx_map_fst, ← Table.settled_map_snd, List.filterMap_map, List.map_filterMap]
  simp only [Option.map_map, Function.comp_def, Option.map_id']

/-- A rejected place holds the row that the rejection is about. -/
theorem context_of_mem_rejectedPlaces {place : Nat} {rejection : Diagnostic Rejection}
    (h : (place, rejection) ∈ stores.rejectedPlaces rows options) :
    (rows[place]?).map Row.context = some rejection.row := by
  obtain ⟨entry, hentry, rfl, hsaid⟩ := mem_rejectedPlaces_iff.mp h
  have hitem : entry.1 ∈ Row.sortedBy Prod.fst rows.zipIdx := by
    rw [← Table.settled_map_fst (stores.surroundings options) .empty Prod.fst
      (Row.sortedBy Prod.fst rows.zipIdx)]
    exact List.mem_map_of_mem hentry
  have hplace : rows[entry.1.2]? = some entry.1.1 :=
    List.mk_mem_zipIdx_iff_getElem?.mp ((Row.sortedBy_perm Prod.fst _).mem_iff.mp hitem)
  obtain ⟨reason, -, rfl⟩ := Option.map_eq_some_iff.mp hsaid
  rw [hplace, Option.map_some, Table.context_of_mem_settled hentry]

/-- A place at which a row is rejected has no other outcome. -/
theorem isRejected_of_mem_rejectedPlaces {entry : (Row × Nat) × Outcome}
    {rejection : Diagnostic Rejection} (hentry : entry ∈ stores.settledPlaces rows options)
    (h : (entry.1.2, rejection) ∈ stores.rejectedPlaces rows options) :
    entry.2.isRejected = true := by
  obtain ⟨found, hfound, hplace, hsaid⟩ := mem_rejectedPlaces_iff.mp h
  obtain rfl : found = entry :=
    List.inj_on_of_nodup_map (settledPlaces_nodup stores rows options) hfound hentry hplace
  rw [Outcome.isRejected, hsaid, Option.isSome_some]

/-- What stays of the rejections when some of the places are dropped. -/
theorem filterMap_rejection?_settledPlaces (dropped : Nat → Bool) :
    ((stores.settledPlaces rows options).filter fun entry => !dropped entry.1.2).filterMap
        (fun entry => entry.2.rejection?) =
      ((stores.rejectedPlaces rows options).filter fun entry => !dropped entry.1).map Prod.snd := by
  rw [rejectedPlaces, List.filter_filterMap, List.map_filterMap, List.filterMap_filter]
  refine List.filterMap_congr fun entry _ => ?_
  cases entry.2.rejection? with
  | none => simp only [Option.map_none, Option.filter_none, ite_self]
  | some rejection =>
    rw [Option.map_some, Option.filter_some]
    split <;> rfl

/-- Without some of the rejected rows, a load leaves the same table and the same report, but for
their rejections. -/
theorem loadRules_of_rejected {dropped : Nat → Bool}
    (h : ∀ place, dropped place = true →
      ∃ rejection, (place, rejection) ∈ stores.rejectedPlaces rows options) :
    (stores.loadRules (Row.withoutPlaces dropped rows) options).1 =
        (stores.loadRules rows options).1 ∧
      (stores.loadRules (Row.withoutPlaces dropped rows) options).2.1 =
        { (stores.loadRules rows options).2.1 with
          rejected := ((stores.rejectedPlaces rows options).filter fun entry =>
            !dropped entry.1).map Prod.snd } := by
  have hrejected : ∀ entry ∈ stores.settledPlaces rows options, (!dropped entry.1.2) = false →
      entry.2.isRejected = true := by
    intro entry hentry hdropped
    obtain ⟨rejection, hplace⟩ := h entry.1.2 (by simpa using hdropped)
    exact isRejected_of_mem_rejectedPlaces hentry hplace
  obtain ⟨hsettled, htable⟩ := Table.settled_filter (fun entry : Row × Nat => !dropped entry.2)
    Prod.fst (Row.sortedBy Prod.fst rows.zipIdx) .empty hrejected
  have hreport := Table.report_filter (fun entry : Row × Nat => !dropped entry.2)
    (Table.settleAll (stores.surroundings options) .empty (Row.sorted rows)).2 hrejected
  rw [filterMap_rejection?_settledPlaces, settledPlaces, ← hsettled, Table.settled_map_snd,
    Table.settled_map_snd, ← sorted_withoutPlaces, sortedBy_zipIdx_map_fst] at hreport
  rw [← sorted_withoutPlaces, sortedBy_zipIdx_map_fst] at htable
  obtain ⟨hstores, hloaded⟩ := loadRules_eq_settleAll stores rows options
  obtain ⟨hstores', hloaded'⟩ :=
    loadRules_eq_settleAll stores (Row.withoutPlaces dropped rows) options
  exact ⟨by rw [hstores', hstores, htable], by rw [hloaded', hloaded, htable, hreport]⟩

/-- Rejected rows leave no trace. The rejected places tell of the rejections in the report, each
place once and of the row that is there, and whichever of these rows are taken out of the list, the
load leaves the same table, and the same report without their rejections. Without all of them, it is
a report without rejections. -/
theorem loadRules_withoutPlaces {dropped : Nat → Bool}
    (h : ∀ place, dropped place = true →
      ∃ rejection, (place, rejection) ∈ stores.rejectedPlaces rows options) :
    let places := stores.rejectedPlaces rows options
    let loaded := stores.loadRules rows options
    let fewer := stores.loadRules (Row.withoutPlaces dropped rows) options
    let kept := stores.loadRules
      (Row.withoutPlaces (fun place => places.any fun entry => entry.1 == place) rows) options
    loaded.2.1.rejected = places.map Prod.snd ∧
    (places.map Prod.fst).Nodup ∧
    (∀ entry ∈ places, (rows[entry.1]?).map Row.context = some entry.2.row) ∧
    fewer.1 = loaded.1 ∧
    fewer.2.1 = { loaded.2.1 with
      rejected := (places.filter fun entry => !dropped entry.1).map Prod.snd } ∧
    kept.1 = loaded.1 ∧
    kept.2.1 = { loaded.2.1 with rejected := [] } := by
  intro places loaded fewer kept
  obtain ⟨hfewer, hreport⟩ := loadRules_of_rejected h
  have hall : ∀ place, (places.any fun entry => entry.1 == place) = true →
      ∃ rejection, (place, rejection) ∈ places := by
    intro place hplace
    obtain ⟨entry, hentry, heq⟩ := List.any_eq_true.mp hplace
    exact ⟨entry.2, beq_iff_eq.mp heq ▸ hentry⟩
  obtain ⟨hkept, hclean⟩ := loadRules_of_rejected hall
  have hnone : (places.filter fun entry => !places.any fun other => other.1 == entry.1) = [] := by
    rw [List.filter_eq_nil_iff]
    intro entry hentry
    rw [Bool.not_eq_true, Bool.not_eq_false', List.any_eq_true]
    exact ⟨entry, hentry, beq_self_eq_true entry.1⟩
  refine ⟨rejected_eq_rejectedPlaces stores rows options, rejectedPlaces_nodup stores rows options,
    fun entry hentry => context_of_mem_rejectedPlaces hentry, hfewer, hreport, hkept, ?_⟩
  rw [hclean, hnone, List.map_nil]

/-- A row of a timed action list. -/
def steadyRow : Row :=
  { owner := 7, sourceCode := 9, id := 1, eventSlots := #v[10, 20, 50, 60, 0], actionCode := 24 }

/-- A row that claims the same id, with a window that ends before it starts. -/
def reversedRow : Row := { steadyRow with eventSlots := #v[20, 10, 50, 60, 0] }

/-- Of three rows with one id, the first is rejected for its window and the last for its id. -/
theorem rejectedPlaces_reversedRow :
    ({} : Stores).rejectedPlaces [reversedRow, steadyRow, steadyRow] =
      [(0, ⟨reversedRow.context, .reversedWindow ⟨20, 10⟩⟩),
        (2, ⟨steadyRow.context, .duplicateId 1⟩)] := by
  have hsorted : Row.sortedBy Prod.fst [reversedRow, steadyRow, steadyRow].zipIdx =
      [reversedRow, steadyRow, steadyRow].zipIdx := Row.sortedBy_eq_self Prod.fst (by decide)
  rw [rejectedPlaces, settledPlaces, hsorted]
  rfl

/-- The row with the reversed window may be taken out, and the other rejection stays. -/
theorem loadRules_withoutPlaces_reversedRow :
    let rows := [reversedRow, steadyRow, steadyRow]
    let loaded := ({} : Stores).loadRules rows
    let fewer := ({} : Stores).loadRules (Row.withoutPlaces (· == 0) rows)
    (∀ place, (place == 0) = true →
      ∃ rejection, (place, rejection) ∈ ({} : Stores).rejectedPlaces rows) ∧
    Row.withoutPlaces (· == 0) rows = [steadyRow, steadyRow] ∧
    fewer.1 = loaded.1 ∧
    fewer.2.1 = { loaded.2.1 with rejected := [⟨steadyRow.context, .duplicateId 1⟩] } := by
  intro rows loaded fewer
  have hdropped : ∀ place, (place == 0) = true →
      ∃ rejection, (place, rejection) ∈ ({} : Stores).rejectedPlaces rows := by
    intro place hplace
    rw [beq_iff_eq.mp hplace, rejectedPlaces_reversedRow]
    exact ⟨_, List.mem_cons_self⟩
  obtain ⟨-, -, -, hstores, hreport, -⟩ := loadRules_withoutPlaces hdropped
  rw [rejectedPlaces_reversedRow] at hreport
  exact ⟨hdropped, rfl, hstores, hreport⟩

end Stores

end AiScript
