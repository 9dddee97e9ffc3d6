import AiScript.Proofs.Waypoint.Paths

/-!
# Reading rows path by path

A load has one path in hand at a time. It stores that path as a whole when a row of another path
comes, and once more after the last row, and it expects numbers from 1 on whenever it turns to a
path. A path that it turned to a second time would lose all the points of the first time. The step
lemma `stored_step` says when that cannot happen: the row is of the path in hand, or of one that is
not stored yet. In storage order every row is, since the rows of a path stand together. So a load
stores what comes of storing rows one after the other (`load_eq`).
-/

namespace AiScript

namespace WaypointRow

/-- No row stands in front of one of a path with a smaller id. -/
theorem sorted_paths_ordered (rows : List WaypointRow) :
    (sorted rows).Pairwise fun a b => a.path ≤ b.path :=
  (sorted_ordered rows).imp fun hle =>
    hle.elim UInt32.le_of_lt fun hsame => hsame.1 ▸ UInt32.le_refl _

/-- In order by their paths, if any rows before one are of its path, then the last of them is. -/
theorem path_getLast?_of_mem {rows : List WaypointRow} {row earlier : WaypointRow}
    (h : (rows ++ [row]).Pairwise fun a b => a.path ≤ b.path) (hearlier : earlier ∈ rows)
    (hpath : earlier.path = row.path) : rows.getLast?.map path = some row.path := by
  obtain ⟨front, last, rfl⟩ :=
    (List.eq_nil_or_concat rows).resolve_left (List.ne_nil_of_mem hearlier)
  rw [List.concat_eq_append] at h hearlier ⊢
  obtain ⟨hrows, -, hlast⟩ := List.pairwise_append.mp h
  have hbefore : last.path ≤ row.path :=
    hlast last List.mem_concat_self row (List.mem_singleton_self _)
  have hafter : row.path ≤ last.path := by
    rcases List.mem_append.mp hearlier with hfront | hsame
    · rw [← hpath]
      exact (List.pairwise_append.mp hrows).2.2 earlier hfront last (List.mem_singleton_self _)
    · rw [← hpath, List.mem_singleton.mp hsame]
      exact UInt32.le_refl _
  rw [List.getLast?_concat, Option.map_some, UInt32.le_antisymm hbefore hafter]

end WaypointRow

namespace Waypoints

variable {waypoints : Waypoints} {row : WaypointRow} {id : UInt32}

/-- Nothing is left once every path is dropped. -/
theorem clear_eq_empty (waypoints : Waypoints) : waypoints.clear = {} := by
  have hpaths : waypoints.paths.filter (fun _ _ => false) = ∅ :=
    Std.ExtTreeMap.ext_getElem? fun id => by simp
  rw [clear, hpaths]

/-- Waypoints are known by the paths that are found in them. -/
theorem ext_path? {other : Waypoints} (h : ∀ id, waypoints.path? id = other.path? id) :
    waypoints = other := by
  cases waypoints
  cases other
  rw [mk.injEq]
  exact Std.ExtTreeMap.ext_getElem? h

/-- A path that is put under an id is found there, and the others are left alone. -/
theorem path?_put (waypoints : Waypoints) (id : UInt32) (path : WaypointPath) (other : UInt32) :
    (waypoints.put id path).path? other =
      if id = other then some path else waypoints.path? other := by
  simp only [path?, put, Std.ExtTreeMap.getElem?_insert, Std.LawfulEqCmp.compare_eq_iff_eq]

/-- Storing a row on a path that was just put there puts the longer path there. -/
theorem addRow_put (waypoints : Waypoints) (row : WaypointRow) (path : WaypointPath) :
    (waypoints.put row.path path).addRow row =
      waypoints.put row.path (path.insert row.point row.waypoint) := by
  refine ext_path? fun id => ?_
  rw [path?_addRow, path?_put, path?_put]
  by_cases hid : row.path = id
  · rw [if_pos hid, if_pos hid, if_pos hid, Option.getD_some]
  · rw [if_neg hid, if_neg hid, if_neg hid]

/-- Storing a row of a path that is not there puts a path of one point there. -/
theorem addRow_of_path?_eq_none (h : waypoints.path? row.path = none) :
    waypoints.addRow row =
      waypoints.put row.path (Std.ExtTreeMap.insert ∅ row.point row.waypoint) := by
  refine ext_path? fun id => ?_
  rw [path?_addRow, path?_put]
  by_cases hid : row.path = id
  · rw [if_pos hid, if_pos hid, ← hid, h, Option.getD_none]
  · rw [if_neg hid, if_neg hid]

/-- The gaps of rows in storage order, of which the first is the `expected`-th of its path.

The count goes on by one with every row, whatever its number, and starts anew with every path. -/
def gapsFrom (expected : UInt32) : List WaypointRow → List WaypointGap
  | [] => []
  | row :: rest =>
    match rest with
    | [] => row.gapAt expected
    | next :: _ =>
      let following := if next.path = row.path then WaypointGap.successor expected else 1
      row.gapAt expected ++ gapsFrom following rest

end Waypoints

namespace WaypointLoading

variable {loading : WaypointLoading} {row : WaypointRow} {path : WaypointPath}

/-- The waypoints that there are if no more rows come. -/
def stored (loading : WaypointLoading) : Waypoints := loading.close.closed

/-- A path is the current one exactly if the path in hand has its id. -/
theorem isAt_iff (loading : WaypointLoading) (id : UInt32) :
    loading.isAt id = true ↔ loading.current.map Prod.fst = some id := by
  rw [isAt]
  cases loading.current <;> simp

/-- The current path is in hand with the points that it has so far. -/
theorem exists_current_of_isAt {id : UInt32} (h : loading.isAt id = true) :
    ∃ path, loading.current = some (id, path) := by
  obtain ⟨⟨_, path⟩, hcurrent, rfl⟩ := Option.map_eq_some_iff.mp ((loading.isAt_iff id).mp h)
  exact ⟨path, hcurrent⟩

/-- A path that is done with takes nothing of what was counted along. -/
theorem close_counts (loading : WaypointLoading) :
    loading.close.gaps = loading.gaps ∧ loading.close.points = loading.points := by
  rw [close]
  split <;> exact ⟨rfl, rfl⟩

/-- A row of the current path puts its point there. -/
theorem step_of_current (h : loading.current = some (row.path, path)) :
    loading.step row =
      { closed := loading.closed
        current := some (row.path, path.insert row.point row.waypoint)
        expected := WaypointGap.successor loading.expected
        gaps := loading.gaps ++ row.gapAt loading.expected
        points := loading.points + 1 } := by
  have hat : loading.isAt row.path = true := by rw [isAt_iff, h, Option.map_some]
  rw [step, turnTo, if_pos hat, count, addPoint]
  simp only [h, Option.map_some]

/-- A row of another path than the current one is the first of its own. -/
theorem step_of_not_isAt (h : ¬ loading.isAt row.path = true) :
    loading.step row =
      { closed := loading.stored
        current := some (row.path, Std.ExtTreeMap.insert ∅ row.point row.waypoint)
        expected := WaypointGap.successor 1
        gaps := loading.gaps ++ row.gapAt 1
        points := loading.points + 1 } := by
  obtain ⟨hgaps, hpoints⟩ := loading.close_counts
  rw [step, turnTo, if_neg h, count, addPoint]
  simp only [hgaps, hpoints, Option.map_some, stored]

/-- After a row, its path is the current one. -/
theorem current_step (loading : WaypointLoading) (row : WaypointRow) :
    (loading.step row).current.map Prod.fst = some row.path := by
  by_cases hat : loading.isAt row.path = true
  · obtain ⟨path, hcurrent⟩ := exists_current_of_isAt hat
    rw [step_of_current hcurrent, Option.map_some]
  · rw [step_of_not_isAt hat, Option.map_some]

/-- Reading a row stores it, if it is of the current path or of one that is not there yet. -/
theorem stored_step (h : loading.isAt row.path = true ∨ loading.stored.path? row.path = none) :
    (loading.step row).stored = loading.stored.addRow row := by
  by_cases hat : loading.isAt row.path = true
  · obtain ⟨path, hcurrent⟩ := exists_current_of_isAt hat
    have hstored : loading.stored = loading.closed.put row.path path := by
      simp only [stored, close, hcurrent]
    rw [step_of_current hcurrent, hstored, Waypoints.addRow_put]
    rfl
  · rw [step_of_not_isAt hat, Waypoints.addRow_of_path?_eq_none (h.resolve_left hat)]
    rfl

/-- Rows that are in order by their paths are all stored, and the path of the last is in hand. -/
theorem stored_foldl_step {rows : List WaypointRow}
    (h : rows.Pairwise fun a b => a.path ≤ b.path) :
    (rows.foldl step {}).stored = Waypoints.ofRows rows ∧
      (rows.foldl step {}).current.map Prod.fst = rows.getLast?.map WaypointRow.path := by
  induction rows using List.reverseRecOn with
  | nil => exact ⟨rfl, rfl⟩
  | append_singleton rows row ih =>
    obtain ⟨hstored, hcurrent⟩ := ih (List.pairwise_append.mp h).1
    have hready : (rows.foldl step {}).isAt row.path = true ∨
        (rows.foldl step {}).stored.path? row.path = none := by
      rw [isAt_iff, hcurrent, hstored, ← Option.not_isSome_iff_eq_none,
        Waypoints.path?_isSome_ofRows_iff, Classical.or_iff_not_imp_right, not_not]
      rintro ⟨earlier, hearlier, hpath⟩
      exact WaypointRow.path_getLast?_of_mem h hearlier hpath
    rw [List.foldl_concat, List.getLast?_concat, current_step]
    exact ⟨by rw [stored_step hready, hstored, Waypoints.ofRows_concat], rfl⟩

/-- Rows of one path that do not stand together lose points: of the two on path 1, one is left. -/
example :
    let rows : List WaypointRow :=
      [⟨1, 1, ⟨0⟩, ⟨0⟩, ⟨0⟩⟩, ⟨2, 1, ⟨0⟩, ⟨0⟩, ⟨0⟩⟩, ⟨1, 2, ⟨0⟩, ⟨0⟩, ⟨0⟩⟩]
    (rows.foldl step {}).stored.pointCount = 2 ∧ (Waypoints.ofRows rows).pointCount = 3 :=
  ⟨rfl, rfl⟩

/-- To turn to the path of the last row goes on with the count, and to another one begins anew. -/
theorem expected_turnTo_step (loading : WaypointLoading) (row : WaypointRow) (id : UInt32) :
    ((loading.step row).turnTo id).expected =
      if id = row.path then WaypointGap.successor (loading.turnTo row.path).expected else 1 := by
  have hexpected : (loading.step row).expected =
      WaypointGap.successor (loading.turnTo row.path).expected := rfl
  have hat : (loading.step row).isAt id = true ↔ id = row.path := by
    rw [isAt_iff, current_step, Option.some.injEq, eq_comm]
  rw [turnTo, ← hexpected]
  by_cases hid : id = row.path
  · rw [if_pos (hat.mpr hid), if_pos hid]
  · rw [if_neg (mt hat.mp hid), if_neg hid]

/-- A row adds its gap to those before it. -/
theorem gaps_step (loading : WaypointLoading) (row : WaypointRow) :
    (loading.step row).gaps = loading.gaps ++ row.gapAt (loading.turnTo row.path).expected := by
  have hturn : (loading.turnTo row.path).gaps = loading.gaps := by
    rw [turnTo]
    split
    · rfl
    · exact loading.close_counts.1
  rw [step, addPoint, count, hturn]

/-- Rows are counted from the number on that is expected of the first of them. -/
theorem gaps_foldl_step (loading : WaypointLoading) (row : WaypointRow) (rest : List WaypointRow) :
    ((row :: rest).foldl step loading).gaps =
      loading.gaps ++ Waypoints.gapsFrom (loading.turnTo row.path).expected (row :: rest) := by
  induction rest generalizing loading row with
  | nil => rw [List.foldl_cons, List.foldl_nil, gaps_step, Waypoints.gapsFrom]
  | cons next rest ih =>
    rw [List.foldl_cons, ih, gaps_step, expected_turnTo_step, List.append_assoc,
      Waypoints.gapsFrom]

/-- From the start on, the number expected of the first row is 1. -/
theorem gaps_foldl_step_start (rows : List WaypointRow) :
    (rows.foldl step {}).gaps = Waypoints.gapsFrom 1 rows := by
  cases rows with
  | nil => rfl
  | cons row rest => exact gaps_foldl_step {} row rest

/-- Every row is counted as a point. -/
theorem points_foldl_step (loading : WaypointLoading) (rows : List WaypointRow) :
    (rows.foldl step loading).points = loading.points + rows.length := by
  induction rows generalizing loading with
  | nil => rfl
  | cons row rest ih =>
    have hstep : (loading.step row).points = loading.points + 1 := by
      rw [step, addPoint, count, turnTo]
      split
      · rfl
      · rw [loading.close_counts.2]
    rw [List.foldl_cons, ih, hstep, List.length_cons]
    omega

end WaypointLoading

namespace Waypoints

variable {waypoints : Waypoints} {rows : List WaypointRow} {id : UInt32} {path : WaypointPath}

/-- Whatever there was, a load stores the rows in storage order one after the other, counts each of
them as a point, and finds the gaps that there are among them. -/
theorem load_eq (waypoints : Waypoints) (rows : List WaypointRow) :
    let stored := ofRows (WaypointRow.sorted rows)
    waypoints.load rows =
      (stored, ⟨stored.pathCount, rows.length, gapsFrom 1 (WaypointRow.sorted rows)⟩) := by
  intro stored
  obtain ⟨hstored, -⟩ :=
    WaypointLoading.stored_foldl_step (WaypointRow.sorted_paths_ordered rows)
  have hpoints :
      ((WaypointRow.sorted rows).foldl WaypointLoading.step {}).points = rows.length := by
    rw [WaypointLoading.points_foldl_step, Nat.zero_add, (WaypointRow.sorted_perm rows).length_eq]
  have hgaps := WaypointLoading.gaps_foldl_step_start (WaypointRow.sorted rows)
  rw [load, clear_eq_empty]
  cases hempty : rows.isEmpty with
  | true =>
    -- nothing is read then, and nothing is what the rows make
    rw [List.isEmpty_iff] at hempty
    subst hempty
    have hsorted : WaypointRow.sorted [] = [] := List.mergeSort_nil
    simp only [stored, hsorted]
    rfl
  | false =>
    simp only [Bool.false_eq_true, if_false, hpoints, hgaps]
    rw [← WaypointLoading.stored, hstored]

/-- After a load there is a path exactly for each one that rows are of. -/
theorem path?_isSome_load_iff (waypoints : Waypoints) (rows : List WaypointRow) (id : UInt32) :
    ((waypoints.load rows).1.path? id).isSome = true ↔ ∃ row ∈ rows, row.path = id := by
  rw [load_eq, path?_isSome_ofRows_iff]
  simp only [(WaypointRow.sorted_perm rows).mem_iff]

/-- After a load there stands at a place the point of its last row. -/
theorem point?_load (waypoints : Waypoints) (rows : List WaypointRow) (place : UInt32 × UInt32) :
    (waypoints.load rows).1.point? place =
      (lastUnder WaypointRow.place rows place).map WaypointRow.waypoint := by
  rw [load_eq, point?_ofRows, WaypointRow.lastUnder_place_sorted]

/-- After a load a path has the points of the last rows of its places. -/
theorem getElem?_of_path?_load (hpath : (waypoints.load rows).1.path? id = some path)
    (number : UInt32) :
    path[number]? = (lastUnder WaypointRow.place rows (id, number)).map WaypointRow.waypoint := by
  rw [← point?_load waypoints, point?, hpath, Option.bind_some]

/-- After a load a path has a point for each number that its rows have. -/
theorem mem_of_path?_load_iff (hpath : (waypoints.load rows).1.path? id = some path)
    (number : UInt32) :
    number ∈ path ↔ ∃ row ∈ rows, row.path = id ∧ row.point = number := by
  rw [Std.ExtTreeMap.mem_iff_isSome_getElem?, getElem?_of_path?_load hpath, Option.isSome_map,
    isSome_lastUnder_iff]
  simp only [WaypointRow.place, Prod.mk.injEq]

/-- A load gives the waypoints of its rows. -/
theorem load_areOf (waypoints : Waypoints) (rows : List WaypointRow) :
    (waypoints.load rows).1.AreOf rows where
  containsPath_iff := fun id => by rw [containsPath_eq, path?_isSome_load_iff]
  path?_isSome_iff := path?_isSome_load_iff waypoints rows
  nonempty := by
    intro id path hpath hempty
    have hsome : ((waypoints.load rows).1.path? id).isSome = true := by
      rw [hpath, Option.isSome_some]
    obtain ⟨row, hrow, hid⟩ := (path?_isSome_load_iff waypoints rows id).mp hsome
    have hmem := (mem_of_path?_load_iff hpath row.point).mpr ⟨row, hrow, hid, rfl⟩
    rw [hempty] at hmem
    exact Std.ExtTreeMap.not_mem_empty hmem
  mem_iff := mem_of_path?_load_iff
  getElem?_eq := by
    intro id path hpath number
    rw [getElem?_of_path?_load hpath]
    refine Option.map_congr fun row hrow => ?_
    -- the point bears the number of the place, since its row does
    obtain ⟨-, hplace⟩ := mem_of_lastUnder hrow
    have hnumber : row.point = number := congrArg Prod.snd hplace
    rw [WaypointRow.waypoint, hnumber]

/-- A list without repetitions is as long as its things are many. -/
private theorem length_eq_card {α : Type} [DecidableEq α] {items others : List α}
    (hnodup : items.Nodup) (hmem : ∀ item, item ∈ items ↔ item ∈ others) :
    items.length = others.toFinset.card := by
  rw [← List.toFinset_card_of_nodup hnodup]
  congr 1
  ext item
  rw [List.mem_toFinset, List.mem_toFinset, hmem]

/-- A load makes as many paths as rows are of. -/
theorem pathCount_load (waypoints : Waypoints) (rows : List WaypointRow) :
    (waypoints.load rows).1.pathCount = (rows.map WaypointRow.path).toFinset.card := by
  rw [pathCount, ← Std.ExtTreeMap.length_keys]
  refine length_eq_card Std.ExtTreeMap.nodup_keys fun id => ?_
  rw [Std.ExtTreeMap.mem_keys, Std.ExtTreeMap.mem_iff_isSome_getElem?, List.mem_map]
  exact path?_isSome_load_iff waypoints rows id

/-- A load stores as many points as rows have places. -/
theorem pointCount_load (waypoints : Waypoints) (rows : List WaypointRow) :
    (waypoints.load rows).1.pointCount = (rows.map WaypointRow.place).toFinset.card := by
  rw [pointCount_eq_length_places]
  refine length_eq_card (places_nodup _) fun place => ?_
  rw [mem_places_iff, point?_load, Option.isSome_map, isSome_lastUnder_iff, List.mem_map]

end Waypoints

end AiScript
