import Mathlib.Data.List.Basic

/-!
# Stable sorts

Things are sorted by keys, and the comparison of keys need not tell all keys apart: what it takes as
equal has one place and stays as it came. Being in order, and holding the same things of each place
in the same order, leaves a list no freedom (`eq_of_filter_eq`). So sorting does not hang on the
algorithm, nor on how things of different places were mixed, and things may be left out before the
others are sorted or after.
-/

namespace AiScript.StableSort

variable {α β : Type} (cmp : β → β → Ordering) (key : α → β)

/-- Things in the order of their keys. -/
def sort (items : List α) : List α := items.mergeSort fun a b => (cmp (key a) (key b)).isLE

/-- Does a thing have the place of a key? -/
def hasPlace (place : β) (item : α) : Bool := cmp place (key item) == .eq

/-- A thing has a place exactly if its key is not told apart from that of the place. -/
theorem hasPlace_iff (place : β) (item : α) :
    hasPlace cmp key place item = true ↔ cmp place (key item) = .eq := beq_iff_eq

/-- Sorting keeps everything. -/
theorem sort_perm (items : List α) : (sort cmp key items).Perm items := List.mergeSort_perm _ _

/-- What is in order stays as it is. -/
theorem sort_eq_self {items : List α}
    (h : items.Pairwise fun a b => (cmp (key a) (key b)).isLE = true) :
    sort cmp key items = items := List.mergeSort_of_pairwise h

variable [Std.TransCmp cmp]

/-- A thing has the place of its own key. -/
theorem hasPlace_self (item : α) : hasPlace cmp key (key item) item = true :=
  (hasPlace_iff cmp key _ _).mpr Std.ReflCmp.compare_self

/-- The comparison of keys is transitive. -/
private theorem isLE_trans (a b c : α) : (cmp (key a) (key b)).isLE = true →
    (cmp (key b) (key c)).isLE = true → (cmp (key a) (key c)).isLE = true :=
  Std.TransCmp.isLE_trans

/-- Any two things may stand in one order or the other. -/
private theorem isLE_total (a b : α) :
    ((cmp (key a) (key b)).isLE || (cmp (key b) (key a)).isLE) = true := by
  rw [Bool.or_eq_true, Ordering.isLE_iff_ne_gt, Ordering.isLE_iff_ne_gt]
  by_cases hgt : cmp (key a) (key b) = .gt
  · right
    rw [Std.OrientedCmp.lt_of_gt hgt]
    decide
  · exact Or.inl hgt

/-- Nothing stands in front of something with a smaller key. -/
theorem sort_ordered (items : List α) :
    (sort cmp key items).Pairwise fun a b => (cmp (key a) (key b)).isLE = true :=
  List.pairwise_mergeSort (isLE_trans cmp key) (isLE_total cmp key) items

/-- Things of one place stay as they came: they are a sorted part of all already. -/
theorem sort_filter_hasPlace (items : List α) (place : β) :
    (sort cmp key items).filter (hasPlace cmp key place) =
      items.filter (hasPlace cmp key place) := by
  have hequal : (items.filter (hasPlace cmp key place)).Pairwise fun a b =>
      (cmp (key a) (key b)).isLE = true := by
    refine List.pairwise_of_forall_mem_list fun a ha b hb => ?_
    have hplace := (hasPlace_iff cmp key place a).mp (List.mem_filter.mp ha).2
    have hplace' := (hasPlace_iff cmp key place b).mp (List.mem_filter.mp hb).2
    rw [Std.TransCmp.eq_trans (Std.OrientedCmp.eq_symm hplace) hplace']
    rfl
  have hsublist : (items.filter (hasPlace cmp key place)).Sublist (sort cmp key items) :=
    List.sublist_mergeSort (isLE_trans cmp key) (isLE_total cmp key) hequal List.filter_sublist
  have hfiltered := hsublist.filter (hasPlace cmp key place)
  rw [List.filter_filter] at hfiltered
  simp only [Bool.and_self] at hfiltered
  exact (hfiltered.eq_of_length ((sort_perm cmp key items).filter _).length_eq.symm).symm

variable {cmp key} in
/-- Lists that agree on what has each place hold the same. -/
theorem mem_iff_of_filter_eq {items others : List α}
    (h : ∀ place, items.filter (hasPlace cmp key place) = others.filter (hasPlace cmp key place))
    (item : α) : item ∈ items ↔ item ∈ others := by
  have hplace := congrArg (item ∈ ·) (h (key item))
  simpa only [List.mem_filter, hasPlace_self, and_true, eq_iff_iff] using hplace

variable {cmp key} in
/-- There is one stable sort: lists in order are equal if they agree on what has each place. -/
theorem eq_of_filter_eq {items others : List α}
    (hitems : items.Pairwise fun a b => (cmp (key a) (key b)).isLE = true)
    (hothers : others.Pairwise fun a b => (cmp (key a) (key b)).isLE = true)
    (h : ∀ place, items.filter (hasPlace cmp key place) =
      others.filter (hasPlace cmp key place)) : items = others := by
  have hmem := mem_iff_of_filter_eq h
  induction items generalizing others with
  | nil => exact (List.eq_nil_iff_forall_not_mem.mpr fun item hitem =>
      List.not_mem_nil ((hmem item).mpr hitem)).symm
  | cons a items ih =>
    cases others with
    | nil => exact absurd ((hmem a).mp List.mem_cons_self) List.not_mem_nil
    | cons b others =>
      obtain ⟨hfirst, hrest⟩ := List.pairwise_cons.mp hitems
      obtain ⟨hfirst', hrest'⟩ := List.pairwise_cons.mp hothers
      -- each of the two heads is in both lists, so neither has the smaller key
      have hsame : hasPlace cmp key (key a) b = true := by
        rcases List.mem_cons.mp ((hmem b).mpr List.mem_cons_self) with rfl | hb
        · exact hasPlace_self cmp key b
        · rcases List.mem_cons.mp ((hmem a).mp List.mem_cons_self) with rfl | ha
          · exact hasPlace_self cmp key a
          · exact (hasPlace_iff cmp key (key a) b).mpr
              (Std.OrientedCmp.isLE_antisymm (hfirst b hb) (hfirst' a ha))
      have hheads := h (key a)
      rw [List.filter_cons, if_pos (hasPlace_self cmp key a), List.filter_cons, if_pos hsame]
        at hheads
      obtain ⟨rfl, -⟩ := List.cons.inj hheads
      have htails : ∀ place, items.filter (hasPlace cmp key place) =
          others.filter (hasPlace cmp key place) := by
        intro place
        have hplace := h place
        by_cases ha : hasPlace cmp key place a = true
        · rw [List.filter_cons, if_pos ha, List.filter_cons, if_pos ha] at hplace
          exact (List.cons.inj hplace).2
        · rwa [List.filter_cons, if_neg ha, List.filter_cons, if_neg ha] at hplace
      rw [ih hrest hrest' htails (mem_iff_of_filter_eq htails)]

/-- Sorting depends on no more than the order among the things of one place. -/
theorem sort_congr {items others : List α}
    (h : ∀ place, items.filter (hasPlace cmp key place) = others.filter (hasPlace cmp key place)) :
    sort cmp key items = sort cmp key others := by
  refine eq_of_filter_eq (sort_ordered cmp key items) (sort_ordered cmp key others) fun place => ?_
  rw [sort_filter_hasPlace, sort_filter_hasPlace, h place]

/-- Things may be left out before the others are sorted or after. -/
theorem sort_filter (keep : α → Bool) (items : List α) :
    sort cmp key (items.filter keep) = (sort cmp key items).filter keep := by
  refine eq_of_filter_eq (sort_ordered cmp key _) ((sort_ordered cmp key items).filter keep)
    fun place => ?_
  rw [sort_filter_hasPlace, List.filter_comm, List.filter_comm _ keep, sort_filter_hasPlace]

variable {cmp key} in
/-- If nothing has a smaller key than a place, what is in order begins with what has the place. -/
theorem filter_hasPlace_append {place : β} {items : List α}
    (hordered : items.Pairwise fun a b => (cmp (key a) (key b)).isLE = true)
    (hleast : ∀ item ∈ items, (cmp place (key item)).isLE = true) :
    items.filter (hasPlace cmp key place) ++
      items.filter (fun item => !hasPlace cmp key place item) = items := by
  induction items with
  | nil => rfl
  | cons a items ih =>
    obtain ⟨hfirst, hrest⟩ := List.pairwise_cons.mp hordered
    by_cases ha : hasPlace cmp key place a = true
    · have hleast' : ∀ item ∈ items, (cmp place (key item)).isLE = true := fun item hitem =>
        hleast item (List.mem_cons_of_mem a hitem)
      rw [List.filter_cons, if_pos ha, List.filter_cons, ha, Bool.not_true,
        if_neg Bool.false_ne_true, List.cons_append, ih hrest hleast']
    · -- the key of the head is greater than the place, and so are those behind it
      have hgreater : cmp place (key a) = .lt := by
        rcases Ordering.isLE_iff_eq_lt_or_eq_eq.mp (hleast a List.mem_cons_self) with hlt | heq
        · exact hlt
        · exact absurd ((hasPlace_iff cmp key place a).mpr heq) ha
      have hnone : (a :: items).filter (hasPlace cmp key place) = [] := by
        refine List.filter_eq_nil_iff.mpr fun item hitem hplace => ?_
        rw [hasPlace_iff] at hplace
        rcases List.mem_cons.mp hitem with rfl | hitem
        · rw [hgreater] at hplace
          cases hplace
        · rw [Std.TransCmp.lt_of_lt_of_isLE hgreater (hfirst item hitem)] at hplace
          cases hplace
      have hall : (a :: items).filter (fun item => !hasPlace cmp key place item) = a :: items := by
        refine List.filter_eq_self.mpr fun item hitem => ?_
        rw [Bool.not_eq_true']
        exact Bool.eq_false_iff.mpr (List.filter_eq_nil_iff.mp hnone item hitem)
      rw [hnone, hall, List.nil_append]

variable {cmp key} in
/-- What is in order falls into blocks, one for each of the places, in their order. -/
theorem eq_flatMap_filter {places : List β} {items : List α}
    (hplaces : places.Pairwise fun a b => cmp a b = .lt)
    (hordered : items.Pairwise fun a b => (cmp (key a) (key b)).isLE = true)
    (hcovered : ∀ item ∈ items, ∃ place ∈ places, hasPlace cmp key place item = true) :
    items = places.flatMap fun place => items.filter (hasPlace cmp key place) := by
  induction places generalizing items with
  | nil =>
    rw [List.flatMap_nil, List.eq_nil_iff_forall_not_mem]
    intro item hitem
    obtain ⟨place, hplace, -⟩ := hcovered item hitem
    cases hplace
  | cons place rest ih =>
    obtain ⟨hfirst, hrest⟩ := List.pairwise_cons.mp hplaces
    have hleast : ∀ item ∈ items, (cmp place (key item)).isLE = true := by
      intro item hitem
      obtain ⟨other, hother, hhas⟩ := hcovered item hitem
      rw [hasPlace_iff] at hhas
      rcases List.mem_cons.mp hother with rfl | hother
      · rw [hhas]
        rfl
      · rw [Std.TransCmp.lt_of_lt_of_eq (hfirst other hother) hhas]
        rfl
    have hcovered' : ∀ item ∈ items.filter (fun item => !hasPlace cmp key place item),
        ∃ other ∈ rest, hasPlace cmp key other item = true := by
      intro item hitem
      obtain ⟨hmem, hnot⟩ := List.mem_filter.mp hitem
      obtain ⟨other, hother, hhas⟩ := hcovered item hmem
      rcases List.mem_cons.mp hother with rfl | hother
      · rw [hhas] at hnot
        cases hnot
      · exact ⟨other, hother, hhas⟩
    have hblocks : ∀ other ∈ rest,
        (items.filter fun item => !hasPlace cmp key place item).filter (hasPlace cmp key other) =
          items.filter (hasPlace cmp key other) := by
      intro other hother
      rw [List.filter_filter]
      refine List.filter_congr fun item _ => ?_
      by_cases hhas : hasPlace cmp key other item = true
      · have hlt := Std.TransCmp.lt_of_lt_of_eq (hfirst other hother)
          ((hasPlace_iff cmp key other item).mp hhas)
        simp [hasPlace, hlt]
      · rw [Bool.not_eq_true] at hhas
        rw [hhas, Bool.false_and]
    rw [List.flatMap_cons, ← List.flatMap_congr hblocks,
      ← ih hrest (hordered.filter _) hcovered', filter_hasPlace_append hordered hleast]

end AiScript.StableSort
