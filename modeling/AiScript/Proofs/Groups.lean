import Mathlib.Algebra.BigOperators.Group.Finset.Basic
import Std.Data.ExtTreeMap

/-!
# Grouped items

Chains of rules and lists of effect slots are both groups of items under keys, kept in a map. If
under each key there stand as many as there are items with that key, then all groups together hold
as many as there are items: none is lost, and none stands in two groups.
-/

namespace AiScript

variable {κ β : Type} [Ord κ] [Std.TransOrd κ]

/-- The values of a map are those that are listed with their keys. -/
theorem values_eq_map_toList (entries : Std.ExtTreeMap κ β) :
    entries.values = entries.toList.map Prod.snd := by
  have hfold : entries.values = entries.foldr (fun _ value values => value :: values) [] := by
    obtain ⟨⟨⟨_⟩⟩⟩ := entries
    rfl
  rw [hfold, Std.ExtTreeMap.foldr_eq_foldr_toList, List.map_eq_foldr]

variable [Std.LawfulEqOrd κ]

/-- No key of a map is listed twice. -/
theorem keys_toList_nodup (entries : Std.ExtTreeMap κ β) :
    (entries.toList.map Prod.fst).Nodup := by
  rw [List.nodup_iff_pairwise_ne, List.pairwise_map]
  refine Std.ExtTreeMap.distinct_keys_toList.imp fun {a b} hdistinct heq => hdistinct ?_
  rw [heq, Std.compare_self]

/-- Groups that hold as many items under each key as carry that label hold as many items in all as
there are labels. -/
theorem sum_length_of_groups [DecidableEq κ] {labels : List κ} (entries : Std.ExtTreeMap κ (List β))
    (h : ∀ key, (entries[key]?.getD []).length = labels.count key) :
    (entries.toList.map fun entry => entry.2.length).foldr (· + ·) 0 = labels.length := by
  have hlisted : ∀ label ∈ labels, label ∈ entries.toList.map Prod.fst := by
    intro label hlabel
    have hpositive := List.count_pos_iff.mpr hlabel
    rw [← h label] at hpositive
    cases hgroup : entries[label]? with
    | none => simp [hgroup] at hpositive
    | some group =>
      rw [← Std.ExtTreeMap.mem_toList_iff_getElem?_eq_some] at hgroup
      exact List.mem_map_of_mem hgroup
  have hcount : ∀ entry ∈ entries.toList, entry.2.length = labels.count entry.1 := by
    intro entry hentry
    rw [← h entry.1, Std.ExtTreeMap.mem_toList_iff_getElem?_eq_some.mp hentry, Option.getD_some]
  calc (entries.toList.map fun entry => entry.2.length).foldr (· + ·) 0
      = (entries.toList.map fun entry => entry.2.length).sum := rfl
    _ = ((entries.toList.map Prod.fst).map labels.count).sum := by
        rw [List.map_map, List.map_congr_left hcount]
        rfl
    _ = ∑ key ∈ (entries.toList.map Prod.fst).toFinset, labels.count key :=
        (List.sum_toFinset _ (keys_toList_nodup entries)).symm
    _ = labels.length := by
        have hcard : ∀ label ∈ (labels : Multiset κ),
            label ∈ (entries.toList.map Prod.fst).toFinset := fun label hlabel =>
          List.mem_toFinset.mpr (hlisted label hlabel)
        simpa only [Multiset.coe_count, Multiset.coe_card] using Multiset.sum_count_eq_card hcard

end AiScript
