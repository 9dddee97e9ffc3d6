import AiScript.Proofs.Waypoint.Gaps
import AiScript.Stores

/-!
# What a waypoint load leaves

Waypoints are loaded into stores that may hold others, and nothing is left of those. What is loaded
is given here without the order in which rows are stored: paths and numbers are those of the rows,
and where rows share a place the last of them in the order of arrival says where the point is. The
report counts rows, so it counts more points than there are just when places are shared, and then it
lists a gap.
-/

namespace AiScript.Stores

/-- A waypoint load reports one point for each row. -/
theorem points_loadWaypoints (stores : Stores) (rows : List WaypointRow) :
    (stores.loadWaypoints rows).2.1.points = rows.length := by
  rw [loadWaypoints, Waypoints.load_eq]

/-- Whatever the stores held, a waypoint load leaves the waypoints of its rows, and the rest as it
was. It reports one path for each that rows are of, and one point for each row; of the points there
is one for each place. Rows may come in any order that keeps those of each place in theirs. -/
theorem loadWaypoints_eq_reference (stores : Stores) (rows : List WaypointRow) :
    let loaded := stores.loadWaypoints rows
    let waypoints := loaded.1.waypoints
    let report := loaded.2.1
    waypoints.AreOf rows ∧
    report.paths = waypoints.pathCount ∧
    waypoints.pathCount = (rows.map WaypointRow.path).toFinset.card ∧
    report.points = rows.length ∧
    waypoints.pointCount = (rows.map WaypointRow.place).toFinset.card ∧
    loaded.1 = { stores with waypoints := (({} : Stores).loadWaypoints rows).1.waypoints } ∧
    loaded.2 = (({} : Stores).loadWaypoints rows).2 ∧
    ∀ others : List WaypointRow, others.Perm rows →
      (∀ place, (others.filter fun row => row.place = place) =
        rows.filter fun row => row.place = place) →
      stores.loadWaypoints others = loaded := by
  intro loaded waypoints report
  have hloaded : stores.waypoints.load rows = Waypoints.load {} rows := by
    rw [Waypoints.load_eq, Waypoints.load_eq]
  refine ⟨Waypoints.load_areOf _ rows, ?_, Waypoints.pathCount_load _ rows,
    points_loadWaypoints stores rows, Waypoints.pointCount_load _ rows, ?_, ?_,
    fun others hperm hplaces => ?_⟩
  · simp only [report, waypoints, loaded, loadWaypoints, Waypoints.load_eq]
  · simp only [loaded, loadWaypoints, hloaded]
  · simp only [loaded, loadWaypoints, hloaded]
  · have hsame : stores.waypoints.load others = stores.waypoints.load rows := by
      rw [Waypoints.load_eq, Waypoints.load_eq, WaypointRow.sorted_congr hplaces, hperm.length_eq]
    simp only [loaded, loadWaypoints, hsame, Waypoints.notices, hperm.isEmpty_eq]

/-- A path that comes back to its first point, and a path of its own in between. -/
def returnTrip : List WaypointRow :=
  [⟨7, 1, ⟨1⟩, ⟨2⟩, ⟨3⟩⟩, ⟨0, 0xFFFFFFFF, ⟨0⟩, ⟨0⟩, ⟨0⟩⟩, ⟨7, 1, ⟨4⟩, ⟨5⟩, ⟨6⟩⟩]

/-- The same rows in another order, which keeps the two rows of one place in theirs. -/
def mixedTrip : List WaypointRow :=
  [⟨0, 0xFFFFFFFF, ⟨0⟩, ⟨0⟩, ⟨0⟩⟩, ⟨7, 1, ⟨1⟩, ⟨2⟩, ⟨3⟩⟩, ⟨7, 1, ⟨4⟩, ⟨5⟩, ⟨6⟩⟩]

/-- Three rows make two points, and the later row of a place says where the point is. -/
theorem loadWaypoints_eq_reference_returnTrip :
    let loaded := ({} : Stores).loadWaypoints returnTrip
    mixedTrip.Perm returnTrip ∧
    (∀ place, (mixedTrip.filter fun row => row.place = place) =
      returnTrip.filter fun row => row.place = place) ∧
    ({} : Stores).loadWaypoints mixedTrip = loaded ∧
    loaded.2.1.points = 3 ∧
    loaded.1.waypoints.pointCount = 2 ∧
    ∃ path, loaded.1.waypoints.path? 7 = some path ∧
      path[(1 : UInt32)]? = some ⟨1, ⟨4⟩, ⟨5⟩, ⟨6⟩⟩ := by
  intro loaded
  obtain ⟨hare, -, -, hpoints, hcount, -, -, hothers⟩ := loadWaypoints_eq_reference {} returnTrip
  have hperm : mixedTrip.Perm returnTrip := List.Perm.swap _ _ _
  have hplaces : ∀ place, (mixedTrip.filter fun row => row.place = place) =
      returnTrip.filter fun row => row.place = place := by
    intro place
    by_cases hplace : place = (7, 1)
    · subst hplace
      rfl
    · have hne : ((7 : UInt32), (1 : UInt32)) ≠ place := Ne.symm hplace
      simp [mixedTrip, returnTrip, WaypointRow.place, List.filter_cons, hne]
  have hseven : (loaded.1.waypoints.path? 7).isSome = true :=
    (hare.path?_isSome_iff 7).mpr ⟨⟨7, 1, ⟨1⟩, ⟨2⟩, ⟨3⟩⟩, List.mem_cons_self, rfl⟩
  obtain ⟨path, hpath⟩ := Option.isSome_iff_exists.mp hseven
  exact ⟨hperm, hplaces, hothers mixedTrip hperm hplaces, hpoints, hcount, path, hpath,
    hare.getElem?_eq hpath 1⟩

/-- Gaps are exact, and no row is lost without one. They are listed path by path, by ascending id,
one for each row that in the order of numbers does not bear the number of its place on the path.
There is none exactly if the rows of every path have the numbers from 1 on, each once; then there
are as many points as rows, and each row is found at its place. Of two rows that share a place one
is lost, and then there is a gap on their path. -/
theorem loadWaypoints_gaps (stores : Stores) {rows : List WaypointRow}
    (hrows : rows.length < UInt32.size) :
    let loaded := stores.loadWaypoints rows
    let waypoints := loaded.1.waypoints
    let report := loaded.2.1
    report.gaps = (WaypointRow.pathIds rows).flatMap (fun id =>
      WaypointGap.among id 1 (WaypointRow.numbers rows id)) ∧
    (report.gaps = [] ↔ ∀ id,
      ((rows.filter fun row => row.path = id).map fun row => row.point.toNat).Perm
        (List.range' 1 (rows.filter fun row => row.path = id).length)) ∧
    (report.gaps = [] → waypoints.pointCount = report.points ∧
      ∀ row ∈ rows, waypoints.point? row.place = some ⟨row.point, row.x, row.y, row.z⟩) ∧
    ∀ earlier later, [earlier, later].Sublist rows → later.place = earlier.place →
      ∃ gap ∈ report.gaps, gap.path = earlier.path := by
  intro loaded waypoints report
  refine ⟨Waypoints.gaps_load _ hrows, Waypoints.gaps_load_eq_nil_iff _ hrows, fun hnone => ?_,
    fun earlier later => Waypoints.exists_gap_of_same_place _ hrows⟩
  have hnodup := Waypoints.nodup_places_of_gaps_eq_nil hrows hnone
  constructor
  · calc waypoints.pointCount
        = (rows.map WaypointRow.place).toFinset.card := Waypoints.pointCount_load _ rows
      _ = (rows.map WaypointRow.place).length := List.toFinset_card_of_nodup hnodup
      _ = rows.length := List.length_map _
      _ = report.points := (points_loadWaypoints stores rows).symm
  · intro row hrow
    have hpoint : waypoints.point? row.place = _ := Waypoints.point?_load _ rows row.place
    rw [hpoint, lastUnder_key hnodup hrow]
    rfl

/-- A path whose rows come in the wrong order, but with the right numbers. -/
def straightTrip : List WaypointRow := [⟨4, 2, ⟨1⟩, ⟨2⟩, ⟨3⟩⟩, ⟨4, 1, ⟨4⟩, ⟨5⟩, ⟨6⟩⟩]

/-- The two rows of the return trip that share a place give rise to a gap on path 7. The straight
trip has none, and its first row is found under its number. -/
theorem loadWaypoints_gaps_returnTrip :
    let loaded := ({} : Stores).loadWaypoints returnTrip
    let straight := ({} : Stores).loadWaypoints straightTrip
    returnTrip.length < UInt32.size ∧ straightTrip.length < UInt32.size ∧
    [(⟨7, 1, ⟨1⟩, ⟨2⟩, ⟨3⟩⟩ : WaypointRow), ⟨7, 1, ⟨4⟩, ⟨5⟩, ⟨6⟩⟩].Sublist returnTrip ∧
    (∃ gap ∈ loaded.2.1.gaps, gap.path = 7) ∧
    straight.2.1.gaps = [] ∧ straight.1.waypoints.pointCount = 2 ∧
    straight.1.waypoints.point? (4, 2) = some ⟨2, ⟨1⟩, ⟨2⟩, ⟨3⟩⟩ := by
  intro loaded straight
  have hrows : returnTrip.length < UInt32.size := by decide
  have hrows' : straightTrip.length < UInt32.size := by decide
  have hboth :
      [(⟨7, 1, ⟨1⟩, ⟨2⟩, ⟨3⟩⟩ : WaypointRow), ⟨7, 1, ⟨4⟩, ⟨5⟩, ⟨6⟩⟩].Sublist returnTrip := by
    decide
  obtain ⟨-, -, -, hlost⟩ := loadWaypoints_gaps {} hrows
  obtain ⟨-, hnone_iff, hnone, -⟩ := loadWaypoints_gaps {} hrows'
  have hgaps : straight.2.1.gaps = [] := by
    refine hnone_iff.mpr fun id => ?_
    by_cases hid : id = 4
    · subst hid
      exact List.Perm.swap _ _ _
    · have hne : (4 : UInt32) ≠ id := Ne.symm hid
      simp [straightTrip, hne]
  obtain ⟨hcount, hfound⟩ := hnone hgaps
  have hpoints : straight.2.1.points = 2 := points_loadWaypoints {} straightTrip
  exact ⟨hrows, hrows', hboth, hlost _ _ hboth rfl, hgaps, hcount.trans hpoints,
    hfound _ List.mem_cons_self⟩

end AiScript.Stores
