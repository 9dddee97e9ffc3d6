import AiScript.Catalog.Registry
import Mathlib.Data.List.Sort

/-!
# Larger registries

A registry is within a larger one if that finds the same record wherever this one finds any. Both
list their records by ascending id, each once, so the records of the one stand in the same order
among those of the other.
-/

namespace AiScript

namespace Registry

variable {α : Type} {key : α → UInt32} {registry larger : Registry α key}

/-- Whatever a registry finds, the larger one finds too. -/
def Within (registry larger : Registry α key) : Prop :=
  ∀ id record, registry.find? id = some record → larger.find? id = some record

/-- A registry is no larger than itself. -/
theorem Within.refl (registry : Registry α key) : registry.Within registry := fun _ _ hfound =>
  hfound

/-- The registry without records is within every other. -/
theorem Within.of_empty (larger : Registry α key) : (∅ : Registry α key).Within larger := by
  intro id record hfound
  have hnone : (∅ : Registry α key).find? id = none := Std.ExtTreeMap.getElem?_empty
  rw [hnone] at hfound
  cases hfound

/-- A record that there is is the same in a larger registry. -/
theorem Within.find?_eq (h : registry.Within larger) {id : UInt32}
    (hcontains : registry.contains id = true) : larger.find? id = registry.find? id := by
  obtain ⟨record, hfound⟩ := Option.isSome_iff_exists.mp hcontains
  rw [hfound, h id record hfound]

/-- What a registry contains, the larger one contains. -/
theorem Within.contains (h : registry.Within larger) {id : UInt32}
    (hcontains : registry.contains id = true) : larger.contains id = true := by
  rw [Registry.contains, h.find?_eq hcontains]
  exact hcontains

/-- What is true of a record that is found is true of it in a larger registry. -/
theorem Within.any (h : registry.Within larger) {id : UInt32} {test : α → Bool}
    (hany : (registry.find? id).any test = true) : (larger.find? id).any test = true := by
  rw [h.find?_eq (Option.isSome_of_any hany)]
  exact hany

/-- The entries of a registry go by ascending id. -/
theorem entries_ordered (registry : Registry α key) :
    registry.entries.toList.Pairwise fun a b => a.1 < b.1 := by
  have hkeys : registry.entries.toList.Pairwise fun a b => compare a.1 b.1 = .lt :=
    Std.ExtTreeMap.ordered_keys_toList
  exact hkeys.imp fun {a b} hlt => Std.compare_eq_lt.mp hlt

/-- A record is listed exactly if it is found under its id. -/
theorem mem_toList_iff (registry : Registry α key) (record : α) :
    record ∈ registry.toList ↔ registry.find? (key record) = some record := by
  rw [toList, List.mem_map]
  constructor
  · intro hlisted
    obtain ⟨⟨id, found⟩, hentry, rfl⟩ := hlisted
    rw [Std.ExtTreeMap.mem_toList_iff_getElem?_eq_some] at hentry
    rw [find?, registry.keyed hentry, hentry]
  · intro hfound
    exact ⟨(key record, record), Std.ExtTreeMap.mem_toList_iff_getElem?_eq_some.mpr hfound, rfl⟩

/-- The records of a registry are listed by ascending id. -/
theorem toList_ordered (registry : Registry α key) :
    registry.toList.Pairwise fun a b => key a < key b := by
  rw [toList, List.pairwise_map]
  refine (entries_ordered registry).imp_of_mem fun {a b} ha hb hlt => ?_
  rw [Std.ExtTreeMap.mem_toList_iff_getElem?_eq_some] at ha hb
  rwa [registry.keyed ha, registry.keyed hb]

/-- The records of a registry come in the same order among those of a larger one. -/
theorem Within.toList_sublist (h : registry.Within larger) :
    registry.toList.Sublist larger.toList := by
  have hantisymm : Std.Antisymm fun a b : UInt32 × α => a.1 < b.1 :=
    ⟨fun a b hab hba => absurd (UInt32.lt_trans hab hba) (UInt32.lt_irrefl a.1)⟩
  have hnodup : registry.entries.toList.Nodup := (entries_ordered registry).imp fun hlt heq =>
    UInt32.ne_of_lt hlt (congrArg Prod.fst heq)
  have hsubset : registry.entries.toList ⊆ larger.entries.toList := by
    intro entry hentry
    obtain ⟨id, record⟩ := entry
    rw [Std.ExtTreeMap.mem_toList_iff_getElem?_eq_some] at hentry ⊢
    exact h id record hentry
  exact (List.sublist_of_subperm_of_pairwise (List.subperm_of_subset hnodup hsubset)
    (entries_ordered registry) (entries_ordered larger)).map Prod.snd

end Registry

end AiScript
