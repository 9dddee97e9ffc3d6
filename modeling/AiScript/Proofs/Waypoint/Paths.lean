import AiScript.Proofs.LastUnder
import AiScript.Proofs.StableSort
import AiScript.Waypoint
import Mathlib.Data.Finset.Card
import Mathlib.Data.List.Induction

/-!
# The paths that rows make up

The place of a waypoint row is its path and its number on it. Rows are stored here one after the
other, each where it belongs as soon as it comes. So what stands at a place is the point of the last
row of that place; the rows of all other places leave it alone (`point?_ofRows`). Sorting keeps the
rows of one place in order, so the last of them is the same before and after.
-/

namespace AiScript

namespace WaypointRow

/-- The path of a row and its number there. -/
def place (row : WaypointRow) : UInt32 × UInt32 := (row.path, row.point)

/-- Places go by path, then by number. Storage order is `StableSort.sort` with places as keys. -/
def placeOrder : UInt32 × UInt32 → UInt32 × UInt32 → Ordering :=
  compareLex (compareOn Prod.fst) (compareOn Prod.snd)

instance : Std.TransCmp placeOrder :=
  inferInstanceAs (Std.TransCmp (compareLex (compareOn Prod.fst) (compareOn Prod.snd)))

/-- Two places compare as equal only if they are. -/
theorem placeOrder_eq_eq_iff (a b : UInt32 × UInt32) : placeOrder a b = .eq ↔ a = b := by
  have hthen : placeOrder a b = (compare a.1 b.1).then (compare a.2 b.2) := rfl
  rw [hthen, Ordering.then_eq_eq, Std.LawfulEqCmp.compare_eq_iff_eq,
    Std.LawfulEqCmp.compare_eq_iff_eq, Prod.ext_iff]

/-- A place is no greater than another if its path is smaller, or on one path its number is no
greater. -/
theorem placeOrder_isLE_iff (a b : UInt32 × UInt32) :
    (placeOrder a b).isLE = true ↔ a.1 < b.1 ∨ a.1 = b.1 ∧ a.2 ≤ b.2 := by
  have hthen : placeOrder a b = (compare a.1 b.1).then (compare a.2 b.2) := rfl
  rw [hthen, Ordering.isLE_then_iff_or, Std.compare_eq_lt, Std.LawfulEqCmp.compare_eq_iff_eq,
    Std.isLE_compare]

/-- A row has a place in the sense of the sort exactly if that is its place. -/
theorem hasPlace_eq (place' : UInt32 × UInt32) :
    StableSort.hasPlace placeOrder place place' = fun row => decide (row.place = place') := by
  funext row
  rw [Bool.eq_iff_iff, StableSort.hasPlace_iff, placeOrder_eq_eq_iff, decide_eq_true_eq, eq_comm]

/-- Sorting keeps every row. -/
theorem sorted_perm (rows : List WaypointRow) : (sorted rows).Perm rows :=
  StableSort.sort_perm placeOrder place rows

/-- Rows of one place stay as they came. -/
theorem sorted_filter_place (rows : List WaypointRow) (place' : UInt32 × UInt32) :
    ((sorted rows).filter fun row => row.place = place') =
      rows.filter fun row => row.place = place' := by
  rw [← hasPlace_eq]
  exact StableSort.sort_filter_hasPlace placeOrder place rows place'

/-- No row stands in front of one of a path with a smaller id, or of its own path with a smaller
number. -/
theorem sorted_ordered (rows : List WaypointRow) :
    (sorted rows).Pairwise fun a b => a.path < b.path ∨ a.path = b.path ∧ a.point ≤ b.point :=
  (StableSort.sort_ordered placeOrder place rows).imp fun {a b} hle =>
    (placeOrder_isLE_iff a.place b.place).mp hle

/-- Sorting depends on no more than the order among the rows of one place. -/
theorem sorted_congr {rows others : List WaypointRow}
    (h : ∀ place', (rows.filter fun row => row.place = place') =
      others.filter fun row => row.place = place') : sorted rows = sorted others := by
  refine StableSort.sort_congr placeOrder place fun place' => ?_
  rw [hasPlace_eq]
  exact h place'

/-- The last row of a place is the same among the sorted rows. -/
theorem lastUnder_place_sorted (rows : List WaypointRow) (place' : UInt32 × UInt32) :
    lastUnder place (sorted rows) place' = lastUnder place rows place' := by
  rw [lastUnder, sorted_filter_place, lastUnder]

end WaypointRow

namespace Waypoints

/-- The point with a number on a path. -/
def point? (waypoints : Waypoints) (place : UInt32 × UInt32) : Option Waypoint :=
  (waypoints.path? place.1).bind fun path => path[place.2]?

/-- Store the point of a row, in the place of an earlier one with the same number on its path. -/
def addRow (waypoints : Waypoints) (row : WaypointRow) : Waypoints :=
  ⟨waypoints.paths.alter row.path fun path =>
    some ((path.getD ∅).insert row.point row.waypoint)⟩

/-- The waypoints that come of rows stored one after the other. -/
def ofRows (rows : List WaypointRow) : Waypoints := rows.foldl addRow {}

/-- Waypoints are those of rows. There is a path for each one that rows are of, it has a point for
each number that its rows have, and that is where the last row of the place says. -/
structure AreOf (waypoints : Waypoints) (rows : List WaypointRow) : Prop where
  containsPath_iff : ∀ id, waypoints.containsPath id = true ↔ ∃ row ∈ rows, row.path = id
  path?_isSome_iff : ∀ id, (waypoints.path? id).isSome = true ↔ ∃ row ∈ rows, row.path = id
  nonempty : ∀ {id path}, waypoints.path? id = some path → path ≠ ∅
  mem_iff : ∀ {id path}, waypoints.path? id = some path →
    ∀ number, number ∈ path ↔ ∃ row ∈ rows, row.path = id ∧ row.point = number
  getElem?_eq : ∀ {id path}, waypoints.path? id = some path →
    ∀ number, path[number]? = (lastUnder WaypointRow.place rows (id, number)).map fun row =>
      ⟨number, row.x, row.y, row.z⟩

/-- There is a path under an id exactly if it is found there. -/
theorem containsPath_eq (waypoints : Waypoints) (id : UInt32) :
    waypoints.containsPath id = (waypoints.path? id).isSome :=
  Std.ExtTreeMap.contains_eq_isSome_getElem?

/-- Storing a row puts its point on its path and leaves the other paths alone. -/
theorem path?_addRow (waypoints : Waypoints) (row : WaypointRow) (id : UInt32) :
    (waypoints.addRow row).path? id =
      if row.path = id then
        some (((waypoints.path? id).getD ∅).insert row.point row.waypoint)
      else waypoints.path? id := by
  simp only [path?, addRow, Std.ExtTreeMap.getElem?_alter, Std.LawfulEqCmp.compare_eq_iff_eq]
  split
  next hpath => rw [hpath]
  next => rfl

/-- Storing a row changes what stands at its place and nothing else. -/
theorem point?_addRow (waypoints : Waypoints) (row : WaypointRow) (place : UInt32 × UInt32) :
    (waypoints.addRow row).point? place =
      if row.place = place then some row.waypoint else waypoints.point? place := by
  obtain ⟨id, number⟩ := place
  rw [point?, path?_addRow, point?]
  dsimp only
  by_cases hpath : row.path = id
  · simp only [if_pos hpath, Option.bind_some, Std.ExtTreeMap.getElem?_insert,
      Std.LawfulEqCmp.compare_eq_iff_eq]
    by_cases hpoint : row.point = number
    · rw [if_pos hpoint, if_pos (Prod.ext hpath hpoint)]
    · rw [if_neg hpoint, if_neg fun hplace => hpoint (congrArg Prod.snd hplace)]
      cases waypoints.path? id <;> simp
  · rw [if_neg hpath, if_neg fun hplace => hpath (congrArg Prod.fst hplace)]

/-- The last row is stored last. -/
theorem ofRows_concat (rows : List WaypointRow) (row : WaypointRow) :
    ofRows (rows ++ [row]) = (ofRows rows).addRow row := by
  rw [ofRows, List.foldl_concat, ofRows]

/-- There is a path exactly for each one that rows are of. -/
theorem path?_isSome_ofRows_iff (rows : List WaypointRow) (id : UInt32) :
    ((ofRows rows).path? id).isSome = true ↔ ∃ row ∈ rows, row.path = id := by
  induction rows using List.reverseRecOn with
  | nil => simp [ofRows, path?]
  | append_singleton rows row ih =>
    rw [ofRows_concat, path?_addRow]
    by_cases hpath : row.path = id
    · simp [hpath]
    · simp [hpath, ih]

/-- At a place stands the point of its last row. -/
theorem point?_ofRows (rows : List WaypointRow) (place : UInt32 × UInt32) :
    (ofRows rows).point? place =
      (lastUnder WaypointRow.place rows place).map WaypointRow.waypoint := by
  induction rows using List.reverseRecOn with
  | nil => simp [ofRows, point?, path?, lastUnder]
  | append_singleton rows row ih =>
    rw [ofRows_concat, point?_addRow, lastUnder_concat, ih]
    split <;> rfl

/-- The places that have a point, path by path. -/
def places (waypoints : Waypoints) : List (UInt32 × UInt32) :=
  waypoints.paths.toList.flatMap fun entry => entry.2.keys.map fun number => (entry.1, number)

/-- There are as many points as places that have one. -/
theorem pointCount_eq_length_places (waypoints : Waypoints) :
    waypoints.pointCount = waypoints.places.length := by
  simp only [pointCount, places, List.length_flatMap, List.length_map, Std.ExtTreeMap.length_keys,
    List.sum_eq_foldr]

/-- The places that are listed are those at which there stands a point. -/
theorem mem_places_iff (waypoints : Waypoints) (place : UInt32 × UInt32) :
    place ∈ waypoints.places ↔ (waypoints.point? place).isSome = true := by
  obtain ⟨id, number⟩ := place
  simp only [places, List.mem_flatMap, List.mem_map, Std.ExtTreeMap.mem_keys, Prod.mk.injEq]
  rw [point?]
  constructor
  · intro hlisted
    obtain ⟨⟨id, path⟩, hentry, number, hnumber, rfl, rfl⟩ := hlisted
    rw [Std.ExtTreeMap.mem_toList_iff_getElem?_eq_some] at hentry
    rw [path?, hentry, Option.bind_some]
    exact Std.ExtTreeMap.mem_iff_isSome_getElem?.mp hnumber
  · intro hpoint
    cases hpath : waypoints.path? id with
    | none =>
      rw [hpath] at hpoint
      cases hpoint
    | some path =>
      rw [hpath, Option.bind_some] at hpoint
      exact ⟨(id, path), Std.ExtTreeMap.mem_toList_iff_getElem?_eq_some.mpr hpath, number,
        Std.ExtTreeMap.mem_iff_isSome_getElem?.mpr hpoint, rfl, rfl⟩

/-- No place is listed twice. -/
theorem places_nodup (waypoints : Waypoints) : waypoints.places.Nodup := by
  rw [places, List.nodup_flatMap]
  constructor
  · intro entry _
    exact Std.ExtTreeMap.nodup_keys.map fun _ _ heq => congrArg Prod.snd heq
  · refine Std.ExtTreeMap.distinct_keys_toList.imp fun {a b} hdistinct => ?_
    intro place ha hb
    obtain ⟨_, -, rfl⟩ := List.mem_map.mp ha
    obtain ⟨_, -, heq⟩ := List.mem_map.mp hb
    have hid : b.1 = a.1 := (Prod.mk.inj heq).1
    rw [hid] at hdistinct
    exact hdistinct Std.ReflCmp.compare_self

end Waypoints

end AiScript
