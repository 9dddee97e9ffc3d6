import AiScript.Proofs.StableSort
import AiScript.Row

/-!
# Storage order

Rows are sorted by owner, source, id and link. `Row.ComesBefore` spells that order out, and
`Row.StablySorts` says what a stable sort is without naming an algorithm: the same rows, none in
front of one that comes before it, and rows that the order does not tell apart in the places that
they had among themselves. There is only one such sort, so rows may be left out before they are
sorted or after. What is sorted may carry more than its row, such as the place that it had.
-/

namespace AiScript.Row

/-- A row comes before another by owner, then source, then id, then link. -/
def ComesBefore (a b : Row) : Prop :=
  a.owner < b.owner ∨ a.owner = b.owner ∧
    (a.sourceCode < b.sourceCode ∨ a.sourceCode = b.sourceCode ∧
      (a.id < b.id ∨ a.id = b.id ∧ a.link < b.link))

/-- Does the order not tell two rows apart? -/
def samePlace (a b : Row) : Bool :=
  a.owner == b.owner && a.sourceCode == b.sourceCode && a.id == b.id && a.link == b.link

/-- A list holds the given rows in storage order, and rows of one place as they came. -/
structure StablySorts (rows sorted : List Row) : Prop where
  perm : sorted.Perm rows
  ordered : sorted.Pairwise fun a b => ¬ b.ComesBefore a
  stable : ∀ row, sorted.filter (samePlace row) = rows.filter (samePlace row)

instance : Std.TransCmp storageOrder :=
  inferInstanceAs (Std.TransCmp (compareLex (compareOn owner)
    (compareLex (compareOn sourceCode) (compareLex (compareOn id) (compareOn link)))))

/-- The comparison looks at one key after the other. -/
theorem storageOrder_eq_then (a b : Row) :
    storageOrder a b = (compare a.owner b.owner).then ((compare a.sourceCode b.sourceCode).then
      ((compare a.id b.id).then (compare a.link b.link))) := rfl

/-- A row compares as smaller exactly if it comes before the other. -/
theorem storageOrder_eq_lt_iff (a b : Row) : storageOrder a b = .lt ↔ a.ComesBefore b := by
  simp only [storageOrder_eq_then, ComesBefore, Ordering.then_eq_lt, Std.compare_eq_lt,
    Std.LawfulEqCmp.compare_eq_iff_eq]

/-- Rows compare as equal exactly if the order does not tell them apart. -/
theorem storageOrder_eq_eq_iff (a b : Row) : storageOrder a b = .eq ↔ samePlace a b = true := by
  simp only [storageOrder_eq_then, samePlace, Ordering.then_eq_eq,
    Std.LawfulEqCmp.compare_eq_iff_eq, Bool.and_eq_true, beq_iff_eq, and_assoc]

/-- A row may stand in front of another exactly if the other does not come before it. -/
theorem storageOrder_isLE_iff (a b : Row) :
    (storageOrder a b).isLE = true ↔ ¬ b.ComesBefore a := by
  rw [← storageOrder_eq_lt_iff, Ordering.isLE_iff_ne_gt, Std.OrientedCmp.gt_iff_lt]

@[simp] theorem sorted_nil : sorted [] = [] := List.mergeSort_nil

@[simp] theorem sorted_singleton (row : Row) : sorted [row] = [row] := List.mergeSort_singleton row

section Bearers

variable {α : Type} (row : α → Row)

/-- Things that bear rows, in the storage order of their rows. This is `StableSort.sort` with the
rows as keys. -/
def sortedBy (items : List α) : List α :=
  items.mergeSort fun a b => (storageOrder (row a) (row b)).isLE

/-- A thing has the place of a key exactly if its row shares the place. -/
theorem hasPlace_eq_samePlace (place : Row) :
    StableSort.hasPlace storageOrder row place = fun item => samePlace place (row item) := by
  funext item
  rw [Bool.eq_iff_iff, StableSort.hasPlace_iff, storageOrder_eq_eq_iff]

/-- The rows of what is sorted are the sorted rows. -/
theorem sortedBy_map (items : List α) : (sortedBy row items).map row = sorted (items.map row) :=
  List.map_mergeSort fun _ _ _ _ => rfl

/-- Sorting keeps everything. -/
theorem sortedBy_perm (items : List α) : (sortedBy row items).Perm items :=
  StableSort.sort_perm storageOrder row items

/-- What is in storage order stays as it is. -/
theorem sortedBy_eq_self {items : List α}
    (h : items.Pairwise fun a b => (storageOrder (row a) (row b)).isLE = true) :
    sortedBy row items = items := StableSort.sort_eq_self storageOrder row h

/-- Nothing stands in front of something whose row comes before its own. -/
theorem sortedBy_ordered (items : List α) :
    (sortedBy row items).Pairwise fun a b => ¬ (row b).ComesBefore (row a) :=
  (StableSort.sort_ordered storageOrder row items).imp fun {a b} hle =>
    (storageOrder_isLE_iff (row a) (row b)).mp hle

/-- Things of one place stay as they came. -/
theorem sortedBy_filter_samePlace (items : List α) (place : Row) :
    (sortedBy row items).filter (fun item => samePlace place (row item)) =
      items.filter fun item => samePlace place (row item) := by
  rw [← hasPlace_eq_samePlace]
  exact StableSort.sort_filter_hasPlace storageOrder row items place

/-- Things may be left out before the others are sorted or after. -/
theorem sortedBy_filter (keep : α → Bool) (items : List α) :
    sortedBy row (items.filter keep) = (sortedBy row items).filter keep :=
  StableSort.sort_filter storageOrder row keep items

end Bearers

/-- Sorting keeps every row. -/
theorem sorted_perm (rows : List Row) : (sorted rows).Perm rows :=
  sortedBy_perm (fun row => row) rows

/-- No row stands in front of one that comes before it. -/
theorem sorted_ordered (rows : List Row) :
    (sorted rows).Pairwise fun a b => ¬ b.ComesBefore a :=
  sortedBy_ordered (fun row => row) rows

/-- Rows of one place stay as they came. -/
theorem sorted_filter_samePlace (rows : List Row) (row : Row) :
    (sorted rows).filter (samePlace row) = rows.filter (samePlace row) :=
  sortedBy_filter_samePlace (fun row => row) rows row

/-- Rows may be left out before the others are sorted or after. -/
theorem sorted_filter (keep : Row → Bool) (rows : List Row) :
    sorted (rows.filter keep) = (sorted rows).filter keep :=
  sortedBy_filter (fun row => row) keep rows

/-- Sorting depends on no more than the order among the rows of one place. -/
theorem sorted_congr {rows others : List Row}
    (h : ∀ row, rows.filter (samePlace row) = others.filter (samePlace row)) :
    sorted rows = sorted others := by
  refine StableSort.sort_congr storageOrder (fun row => row) fun row => ?_
  rw [hasPlace_eq_samePlace]
  exact h row

/-- Rows that share a place with a row share one with each other. -/
theorem storageOrder_eq_of_samePlace {row a b : Row} (ha : samePlace row a = true)
    (hb : samePlace row b = true) : storageOrder a b = .eq :=
  Std.TransCmp.eq_trans (Std.OrientedCmp.eq_symm ((storageOrder_eq_eq_iff row a).mpr ha))
    ((storageOrder_eq_eq_iff row b).mpr hb)

/-- Rows that all have places of their own may be permuted before they are sorted. -/
theorem filter_samePlace_eq_of_perm {rows others : List Row} (hperm : others.Perm rows)
    (hplaces : rows.Pairwise fun a b => samePlace a b = false) (row : Row) :
    others.filter (samePlace row) = rows.filter (samePlace row) := by
  have halone : (rows.filter (samePlace row)).Pairwise fun _ _ => False := by
    refine (hplaces.filter (samePlace row)).imp_of_mem fun {a b} ha hb hab => ?_
    have heq := storageOrder_eq_of_samePlace (List.mem_filter.mp ha).2 (List.mem_filter.mp hb).2
    rw [storageOrder_eq_eq_iff, hab] at heq
    cases heq
  have hfiltered := hperm.filter (samePlace row)
  exact hfiltered.eq_of_pairwise (fun _ _ _ _ hfalse => hfalse.elim)
    (hfiltered.symm.pairwise halone fun hfalse => hfalse.elim) halone

/-- Sorting rows is a stable sort. -/
theorem sorted_stablySorts (rows : List Row) : StablySorts rows (sorted rows) where
  perm := sorted_perm rows
  ordered := sorted_ordered rows
  stable := sorted_filter_samePlace rows

/-- Of two rows of one chain, the one in front has no greater id. -/
theorem id_le_of_not_comesBefore {a b : Row} (howner : a.owner = b.owner)
    (hsource : a.sourceCode = b.sourceCode) (hab : ¬ b.ComesBefore a) : a.id ≤ b.id := by
  rw [← UInt16.not_lt]
  intro hid
  exact hab (Or.inr ⟨howner.symm, Or.inr ⟨hsource.symm, Or.inl hid⟩⟩)

end AiScript.Row
