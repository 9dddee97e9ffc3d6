import Mathlib.Data.List.Nodup

/-!
# The last record under a key

Records are filed one after the other, each in the place of an earlier one with the same key. What
is found under a key in the end is the last record that has it, and every record is found if no two
have the same key.
-/

namespace AiScript

variable {α κ : Type} [DecidableEq κ] {key : α → κ} {records : List α}

/-- The last of the records that have a key. -/
def lastUnder (key : α → κ) (records : List α) (place : κ) : Option α :=
  (records.filter fun record => key record = place).getLast?

/-- A record that comes last is the last under its key and under no other. -/
theorem lastUnder_concat (key : α → κ) (records : List α) (record : α) (place : κ) :
    lastUnder key (records ++ [record]) place =
      if key record = place then some record else lastUnder key records place := by
  rw [lastUnder, List.filter_append]
  by_cases hplace : key record = place
  · simp [hplace]
  · simp [hplace, lastUnder]

/-- The last record under a key is one of the records, and has that key. -/
theorem mem_of_lastUnder {place : κ} {record : α} (h : lastUnder key records place = some record) :
    record ∈ records ∧ key record = place := by
  have hmem := List.mem_of_getLast? h
  rwa [List.mem_filter, decide_eq_true_eq] at hmem

/-- There is a last record under a key exactly if there is any. -/
theorem isSome_lastUnder_iff (key : α → κ) (records : List α) (place : κ) :
    (lastUnder key records place).isSome = true ↔ ∃ record ∈ records, key record = place := by
  rw [lastUnder, List.getLast?_isSome, ne_eq, List.filter_eq_nil_iff]
  simp

/-- A record with a key of its own is the last under it. -/
theorem lastUnder_key (hnodup : (records.map key).Nodup) {record : α} (hrecord : record ∈ records) :
    lastUnder key records (key record) = some record := by
  have hsome : (lastUnder key records (key record)).isSome = true :=
    (isSome_lastUnder_iff key records _).mpr ⟨record, hrecord, rfl⟩
  obtain ⟨found, hfound⟩ := Option.isSome_iff_exists.mp hsome
  obtain ⟨hmem, hkey⟩ := mem_of_lastUnder hfound
  rw [hfound, List.inj_on_of_nodup_map hnodup hmem hrecord hkey]

end AiScript
