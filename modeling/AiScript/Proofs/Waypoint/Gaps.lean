import AiScript.Proofs.Waypoint.Loading

/-!
# The gaps of paths

In storage order the rows of a path stand together, by ascending number, so gaps are counted path by
path: the row in the i-th place of its path is a gap unless its number is i. The counter stays at
the last number that there is, so it is the place only as long as a path has no more rows than there
are numbers. A path whose rows are no gaps has the numbers from 1 on, each once.
-/

namespace AiScript

/-- Numbers in ascending order, as often as they occur. -/
def ascending (numbers : List UInt32) : List UInt32 := numbers.mergeSort

/-- Putting numbers in order keeps them as often as they occur. -/
theorem ascending_perm (numbers : List UInt32) : (ascending numbers).Perm numbers :=
  List.mergeSort_perm _ _

/-- No number stands in front of a smaller one. -/
theorem ascending_ordered (numbers : List UInt32) :
    (ascending numbers).Pairwise fun a b => a ≤ b := by
  have htrans : ∀ a b c : UInt32,
      decide (a ≤ b) = true → decide (b ≤ c) = true → decide (a ≤ c) = true := by
    intro a b c hab hbc
    exact decide_eq_true (UInt32.le_trans (of_decide_eq_true hab) (of_decide_eq_true hbc))
  have htotal : ∀ a b : UInt32, (decide (a ≤ b) || decide (b ≤ a)) = true := by
    intro a b
    simpa using UInt32.le_total a b
  exact (List.pairwise_mergeSort htrans htotal numbers).imp of_decide_eq_true

/-- Numbers that are in order already are what sorting makes of them. -/
theorem eq_ascending_of_perm {numbers others : List UInt32} (hperm : others.Perm numbers)
    (hordered : others.Pairwise fun a b => a ≤ b) : others = ascending numbers :=
  (hperm.trans (ascending_perm numbers).symm).eq_of_pairwise
    (fun _ _ _ _ => UInt32.le_antisymm) hordered (ascending_ordered numbers)

/-- Numbers are those from 1 on when they are in order exactly if they are so in any order. -/
theorem ascending_eq_range'_iff (numbers : List UInt32) :
    (ascending numbers).map UInt32.toNat = List.range' 1 (ascending numbers).length ↔
      (numbers.map UInt32.toNat).Perm (List.range' 1 numbers.length) := by
  have hperm := (ascending_perm numbers).map UInt32.toNat
  rw [(ascending_perm numbers).length_eq]
  constructor
  · intro heq
    exact hperm.symm.trans (heq ▸ List.Perm.refl _)
  · intro hrange
    have hordered : ((ascending numbers).map UInt32.toNat).Pairwise fun a b => a ≤ b :=
      List.pairwise_map.mpr ((ascending_ordered numbers).imp UInt32.le_iff_toNat_le.mp)
    exact (hperm.trans hrange).eq_of_pairwise (fun _ _ _ _ => Nat.le_antisymm) hordered
      (List.pairwise_le_range' 1)

namespace WaypointRow

/-- The paths that rows are of, by ascending id, each once. -/
def pathIds (rows : List WaypointRow) : List UInt32 := ascending (rows.map path).dedup

/-- The numbers of the rows of a path, in ascending order, as often as they occur. -/
def numbers (rows : List WaypointRow) (id : UInt32) : List UInt32 :=
  ascending ((rows.filter fun row => row.path = id).map point)

/-- A path is listed exactly if some row is of it. -/
theorem mem_pathIds_iff (rows : List WaypointRow) (id : UInt32) :
    id ∈ pathIds rows ↔ ∃ row ∈ rows, row.path = id := by
  rw [pathIds, (ascending_perm _).mem_iff, List.mem_dedup, List.mem_map]

/-- The paths are listed by ascending id. -/
theorem pathIds_ordered (rows : List WaypointRow) : (pathIds rows).Pairwise fun a b => a < b := by
  have hnodup : (pathIds rows).Nodup := (ascending_perm _).nodup_iff.mpr (List.nodup_dedup _)
  exact ((ascending_ordered _).and hnodup).imp fun {a b} hab =>
    UInt32.lt_of_le_of_ne hab.1 hab.2

/-- In storage order the rows of a path stand together. -/
theorem sorted_eq_flatMap (rows : List WaypointRow) :
    sorted rows =
      (pathIds rows).flatMap fun id => (sorted rows).filter fun row => row.path = id := by
  have hplace : ∀ id, StableSort.hasPlace compare path id = fun row => decide (row.path = id) := by
    intro id
    funext row
    rw [Bool.eq_iff_iff, StableSort.hasPlace_iff, Std.LawfulEqCmp.compare_eq_iff_eq,
      decide_eq_true_eq, eq_comm]
  simp only [← hplace]
  refine StableSort.eq_flatMap_filter ?_ ?_ fun row hrow => ⟨row.path, ?_, ?_⟩
  · exact (pathIds_ordered rows).imp fun hlt => Std.compare_eq_lt.mpr hlt
  · exact (sorted_paths_ordered rows).imp fun hle => Std.isLE_compare.mpr hle
  · exact (mem_pathIds_iff rows row.path).mpr ⟨row, (sorted_perm rows).mem_iff.mp hrow, rfl⟩
  · exact StableSort.hasPlace_self compare path row

/-- In storage order the rows of a path go by ascending number. -/
theorem map_point_filter_sorted (rows : List WaypointRow) (id : UInt32) :
    ((sorted rows).filter fun row => row.path = id).map point = numbers rows id := by
  refine eq_ascending_of_perm (((sorted_perm rows).filter _).map point) ?_
  refine List.pairwise_map.mpr (((sorted_ordered rows).filter _).imp_of_mem ?_)
  intro a b ha hb hle
  rw [List.mem_filter, decide_eq_true_eq] at ha hb
  rcases hle with hlt | hsame
  · rw [ha.2, hb.2] at hlt
    exact absurd hlt (UInt32.lt_irrefl id)
  · exact hsame.2

/-- The rows of a path have the numbers from 1 on exactly if they have them in order. -/
theorem numbers_eq_range'_iff (rows : List WaypointRow) (id : UInt32) :
    (numbers rows id).map UInt32.toNat = List.range' 1 (numbers rows id).length ↔
      ((rows.filter fun row => row.path = id).map fun row => row.point.toNat).Perm
        (List.range' 1 (rows.filter fun row => row.path = id).length) := by
  rw [numbers, ascending_eq_range'_iff, List.map_map, List.length_map]
  rfl

end WaypointRow

namespace WaypointGap

/-- The gaps of a path whose rows have the given numbers, if the first should have a certain number
and each of the others the next one. -/
def among (id : UInt32) (first : Nat) (numbers : List UInt32) : List WaypointGap :=
  (numbers.zipIdx first).filterMap fun entry =>
    if entry.1.toNat = entry.2 then none else some ⟨id, UInt32.ofNat entry.2, entry.1⟩

/-- The first number is a gap or not, and the others are expected one later. -/
theorem among_cons (id : UInt32) (first : Nat) (number : UInt32) (rest : List UInt32) :
    among id first (number :: rest) =
      (if number.toNat = first then [] else [⟨id, UInt32.ofNat first, number⟩]) ++
        among id (first + 1) rest := by
  rw [among, List.zipIdx_cons, among]
  by_cases hfirst : number.toNat = first <;> simp [hfirst]

/-- Gaps of a path bear its id. -/
theorem path_of_mem_among {id : UInt32} {first : Nat} {numbers : List UInt32} {gap : WaypointGap}
    (h : gap ∈ among id first numbers) : gap.path = id := by
  obtain ⟨entry, -, hgap⟩ := List.mem_filterMap.mp h
  split at hgap
  · cases hgap
  · exact (Option.some.inj hgap) ▸ rfl

/-- There are no gaps exactly if the numbers are the first and those that follow it. -/
theorem among_eq_nil_iff (id : UInt32) (first : Nat) (numbers : List UInt32) :
    among id first numbers = [] ↔
      numbers.map UInt32.toNat = List.range' first numbers.length := by
  induction numbers generalizing first with
  | nil => simp [among]
  | cons number rest ih =>
    rw [among_cons, List.append_eq_nil_iff, ih, List.map_cons, List.length_cons, List.range'_succ,
      List.cons_eq_cons]
    by_cases hfirst : number.toNat = first <;> simp [hfirst]

end WaypointGap

namespace Waypoints

/-- On a path the count goes on. -/
theorem gapsFrom_cons_of_same {expected : UInt32} {row : WaypointRow} {rest : List WaypointRow}
    (h : ∀ next ∈ rest.head?, next.path = row.path) :
    gapsFrom expected (row :: rest) =
      row.gapAt expected ++ gapsFrom (WaypointGap.successor expected) rest := by
  cases rest with
  | nil => simp [gapsFrom]
  | cons next rest => rw [gapsFrom, if_pos (h next rfl)]

/-- With another path the count starts anew. -/
theorem gapsFrom_cons_of_ne {expected : UInt32} {row : WaypointRow} {rest : List WaypointRow}
    (h : ∀ next ∈ rest.head?, next.path ≠ row.path) :
    gapsFrom expected (row :: rest) = row.gapAt expected ++ gapsFrom 1 rest := by
  cases rest with
  | nil => simp [gapsFrom]
  | cons next rest => rw [gapsFrom, if_neg (h next rfl)]

/-- The rows of a path are counted by themselves. -/
theorem gapsFrom_append {expected id : UInt32} {block rest : List WaypointRow} (hne : block ≠ [])
    (hblock : ∀ row ∈ block, row.path = id) (hrest : ∀ row ∈ rest, row.path ≠ id) :
    gapsFrom expected (block ++ rest) = gapsFrom expected block ++ gapsFrom 1 rest := by
  induction block generalizing expected with
  | nil => exact absurd rfl hne
  | cons row block ih =>
    obtain ⟨hrow, hblock⟩ := List.forall_mem_cons.mp hblock
    cases block with
    | nil =>
      have hother : ∀ next ∈ rest.head?, next.path ≠ row.path := fun next hnext =>
        hrow ▸ hrest next (List.mem_of_mem_head? hnext)
      rw [List.cons_append, List.nil_append, gapsFrom_cons_of_ne hother,
        gapsFrom_cons_of_ne (by simp), gapsFrom, List.append_nil]
    | cons next block =>
      have hsame : next.path = row.path := (hblock next List.mem_cons_self).trans hrow.symm
      rw [List.cons_append, gapsFrom_cons_of_same (by simpa using hsame),
        gapsFrom_cons_of_same (by simpa using hsame), ih (List.cons_ne_nil _ _) hblock,
        List.append_assoc]

/-- Rows that stand together by paths are counted path by path. -/
theorem gapsFrom_flatMap {ids : List UInt32} {block : UInt32 → List WaypointRow}
    (hids : ids.Nodup) (hblock : ∀ id, ∀ row ∈ block id, row.path = id) :
    gapsFrom 1 (ids.flatMap block) = ids.flatMap fun id => gapsFrom 1 (block id) := by
  induction ids with
  | nil => simp [gapsFrom]
  | cons id ids ih =>
    obtain ⟨hnew, hids⟩ := List.nodup_cons.mp hids
    rw [List.flatMap_cons, List.flatMap_cons, ← ih hids]
    by_cases hnil : block id = []
    · rw [hnil, List.nil_append, gapsFrom, List.nil_append]
    · refine gapsFrom_append hnil (hblock id) fun row hrow hpath => ?_
      obtain ⟨other, hother, hmem⟩ := List.mem_flatMap.mp hrow
      rw [hblock other row hmem] at hpath
      exact hnew (hpath ▸ hother)

/-- The rows of a path are counted by their numbers, if these do not run out. -/
theorem gapsFrom_of_path {expected id : UInt32} {rows : List WaypointRow}
    (hpath : ∀ row ∈ rows, row.path = id) (hroom : expected.toNat + rows.length ≤ UInt32.size) :
    gapsFrom expected rows =
      WaypointGap.among id expected.toNat (rows.map WaypointRow.point) := by
  induction rows generalizing expected with
  | nil => simp [gapsFrom, WaypointGap.among]
  | cons row rest ih =>
    obtain ⟨hrow, hrest⟩ := List.forall_mem_cons.mp hpath
    have hsame : ∀ next ∈ rest.head?, next.path = row.path := fun next hnext =>
      (hrest next (List.mem_of_mem_head? hnext)).trans hrow.symm
    have hgap : row.gapAt expected = if row.point.toNat = expected.toNat then []
        else [⟨id, UInt32.ofNat expected.toNat, row.point⟩] := by
      simp only [WaypointRow.gapAt, UInt32.toNat_inj, UInt32.ofNat_toNat, hrow]
    rw [gapsFrom_cons_of_same hsame, List.map_cons, WaypointGap.among_cons, hgap]
    congr 1
    cases rest with
    | nil => simp [gapsFrom, WaypointGap.among]
    | cons next rest =>
      -- there is a row to come, so the last number has not been reached
      rw [List.length_cons, List.length_cons] at hroom
      have hlast : expected ≠ 0xFFFFFFFF := by
        rintro rfl
        have hvalue : (0xFFFFFFFF : UInt32).toNat + 1 = UInt32.size := rfl
        omega
      have hnext : (WaypointGap.successor expected).toNat = expected.toNat + 1 := by
        have hlt : expected.toNat + 1 < UInt32.size := by omega
        rw [WaypointGap.successor, if_neg hlast, UInt32.toNat_add]
        exact Nat.mod_eq_of_lt hlt
      rw [ih hrest (by rw [hnext, List.length_cons]; omega), hnext]

/-- A load counts the gaps path by path, by ascending id. -/
theorem gaps_load (waypoints : Waypoints) {rows : List WaypointRow}
    (hrows : rows.length < UInt32.size) :
    (waypoints.load rows).2.gaps = (WaypointRow.pathIds rows).flatMap fun id =>
      WaypointGap.among id 1 (WaypointRow.numbers rows id) := by
  have hload : (waypoints.load rows).2.gaps = gapsFrom 1 (WaypointRow.sorted rows) := by
    rw [load_eq]
  have hpath : ∀ id, ∀ row ∈ (WaypointRow.sorted rows).filter (fun row => row.path = id),
      row.path = id := fun id row hrow => of_decide_eq_true (List.mem_filter.mp hrow).2
  have hids : (WaypointRow.pathIds rows).Nodup :=
    (WaypointRow.pathIds_ordered rows).imp UInt32.ne_of_lt
  rw [hload, WaypointRow.sorted_eq_flatMap, gapsFrom_flatMap hids hpath]
  refine List.flatMap_congr fun id _ => ?_
  have hlength : ((WaypointRow.sorted rows).filter fun row => row.path = id).length ≤ rows.length :=
    (List.length_filter_le _ _).trans_eq (WaypointRow.sorted_perm rows).length_eq
  have hroom : (1 : UInt32).toNat +
      ((WaypointRow.sorted rows).filter fun row => row.path = id).length ≤ UInt32.size := by
    rw [UInt32.toNat_one]
    omega
  rw [gapsFrom_of_path (hpath id) hroom, WaypointRow.map_point_filter_sorted, UInt32.toNat_one]

/-- Nothing is a gap exactly if the rows of each path have the numbers from 1 on, each once. -/
theorem gaps_load_eq_nil_iff (waypoints : Waypoints) {rows : List WaypointRow}
    (hrows : rows.length < UInt32.size) :
    (waypoints.load rows).2.gaps = [] ↔ ∀ id,
      ((rows.filter fun row => row.path = id).map fun row => row.point.toNat).Perm
        (List.range' 1 (rows.filter fun row => row.path = id).length) := by
  simp only [gaps_load waypoints hrows, List.flatMap_eq_nil_iff, WaypointGap.among_eq_nil_iff,
    WaypointRow.numbers_eq_range'_iff]
  refine ⟨fun hids id => ?_, fun hall id _ => hall id⟩
  by_cases hid : id ∈ WaypointRow.pathIds rows
  · exact hids id hid
  · have hnone : (rows.filter fun row => row.path = id) = [] :=
      List.filter_eq_nil_iff.mpr fun row hrow hpath =>
        hid ((WaypointRow.mem_pathIds_iff rows id).mpr ⟨row, hrow, of_decide_eq_true hpath⟩)
    rw [hnone]
    rfl

/-- A path with two rows for one place has a gap. -/
theorem exists_gap_of_same_place (waypoints : Waypoints) {rows : List WaypointRow}
    (hrows : rows.length < UInt32.size) {earlier later : WaypointRow}
    (hboth : [earlier, later].Sublist rows) (hplace : later.place = earlier.place) :
    ∃ gap ∈ (waypoints.load rows).2.gaps, gap.path = earlier.path := by
  have hpath : later.path = earlier.path := congrArg Prod.fst hplace
  have hpoint : later.point = earlier.point := congrArg Prod.snd hplace
  have hid : earlier.path ∈ WaypointRow.pathIds rows :=
    (WaypointRow.mem_pathIds_iff rows _).mpr ⟨earlier, hboth.subset List.mem_cons_self, rfl⟩
  have hne : WaypointGap.among earlier.path 1 (WaypointRow.numbers rows earlier.path) ≠ [] := by
    rw [ne_eq, WaypointGap.among_eq_nil_iff, WaypointRow.numbers_eq_range'_iff]
    intro hnumbers
    -- the numbers from 1 on have no repetitions, but the rows give one number twice
    have hnodup := hnumbers.nodup_iff.mpr List.nodup_range'
    have htwice := (hboth.filter fun row => row.path = earlier.path).map fun row => row.point.toNat
    simp only [List.filter_cons, hpath, decide_true, if_true, List.filter_nil, List.map_cons,
      List.map_nil, hpoint] at htwice
    exact absurd (hnodup.sublist htwice) (by simp)
  obtain ⟨gap, hgap⟩ := List.exists_mem_of_ne_nil _ hne
  refine ⟨gap, ?_, WaypointGap.path_of_mem_among hgap⟩
  rw [gaps_load waypoints hrows]
  exact List.mem_flatMap.mpr ⟨earlier.path, hid, hgap⟩

/-- If nothing is a gap, every row has a place of its own. -/
theorem nodup_places_of_gaps_eq_nil {waypoints : Waypoints} {rows : List WaypointRow}
    (hrows : rows.length < UInt32.size) (h : (waypoints.load rows).2.gaps = []) :
    (rows.map WaypointRow.place).Nodup := by
  rw [List.nodup_iff_pairwise_ne, List.pairwise_map, List.pairwise_iff_forall_sublist]
  intro earlier later hboth hplace
  obtain ⟨gap, hgap, -⟩ := exists_gap_of_same_place waypoints hrows hboth hplace.symm
  rw [h] at hgap
  cases hgap

end Waypoints

end AiScript
