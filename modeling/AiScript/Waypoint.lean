import AiScript.Number.Single
import Std.Data.ExtTreeMap

/-!
# Waypoint paths

Rules send creatures along paths, and a path is a set of numbered points. Storage hands over one row
for each point. The points of a path should be numbered 1, 2, 3 and so on; where they are not, each
row that does not bear the expected number is a gap, but its point is stored all the same, under the
number that it has.
-/

namespace AiScript

/-- One stored point. -/
structure WaypointRow where
  path : UInt32
  point : UInt32
  x : Single
  y : Single
  z : Single
deriving DecidableEq

namespace WaypointRow

/-- Rows go by path, then by point. -/
def storageOrder : WaypointRow → WaypointRow → Ordering :=
  compareLex (compareOn path) (compareOn point)

/-- Rows in storage order. Rows that it does not tell apart keep their places. -/
def sorted (rows : List WaypointRow) : List WaypointRow :=
  rows.mergeSort fun a b => (storageOrder a b).isLE

end WaypointRow

/-- One point of a path. -/
structure Waypoint where
  id : UInt32
  x : Single
  y : Single
  z : Single
deriving DecidableEq

/-- The point that a row describes. -/
def WaypointRow.waypoint (row : WaypointRow) : Waypoint := ⟨row.point, row.x, row.y, row.z⟩

/-- The points of one path, by number. -/
abbrev WaypointPath := Std.ExtTreeMap UInt32 Waypoint

/-- A row that does not bear the number that its place in its path calls for. -/
structure WaypointGap where
  path : UInt32
  expected : UInt32
  found : UInt32
deriving DecidableEq

/-- Every path. -/
structure Waypoints where
  paths : Std.ExtTreeMap UInt32 WaypointPath := ∅

/-- The outcome of a waypoint load. -/
structure WaypointReport where
  paths : Nat := 0
  points : Nat := 0
  gaps : List WaypointGap := []

/-- The number after an expected one. The last number has itself after it. -/
def WaypointGap.successor (expected : UInt32) : UInt32 :=
  if expected = 0xFFFFFFFF then expected else expected + 1

/-- The gap of a row, if it does not bear the number that is expected of it. -/
def WaypointRow.gapAt (expected : UInt32) (row : WaypointRow) : List WaypointGap :=
  if row.point = expected then [] else [⟨row.path, expected, row.point⟩]

namespace Waypoints

/-- The path with an id. -/
def path? (waypoints : Waypoints) (id : UInt32) : Option WaypointPath := waypoints.paths[id]?

/-- Is there a path with this id? -/
def containsPath (waypoints : Waypoints) (id : UInt32) : Bool := waypoints.paths.contains id

/-- The number of paths. -/
def pathCount (waypoints : Waypoints) : Nat := waypoints.paths.size

/-- The number of points on all paths. -/
def pointCount (waypoints : Waypoints) : Nat :=
  (waypoints.paths.toList.map fun entry => entry.2.size).foldr (· + ·) 0

/-- Drop every path. -/
def clear (waypoints : Waypoints) : Waypoints := ⟨waypoints.paths.filter fun _ _ => false⟩

/-- Put a path under an id, in the place of one that is there. -/
def put (waypoints : Waypoints) (id : UInt32) (path : WaypointPath) : Waypoints :=
  ⟨waypoints.paths.insert id path⟩

end Waypoints

/-- What a waypoint load has in hand between two rows. -/
structure WaypointLoading where
  /-- The paths that are done with. -/
  closed : Waypoints := {}
  /-- The path whose points are being read, with its id. -/
  current : Option (UInt32 × WaypointPath) := none
  /-- The number that the next row of that path should bear. -/
  expected : UInt32 := 1
  gaps : List WaypointGap := []
  points : Nat := 0

namespace WaypointLoading

/-- Be done with the current path, if there is one. -/
def close (loading : WaypointLoading) : WaypointLoading :=
  match loading.current with
  | none => loading
  | some (id, path) => { loading with closed := loading.closed.put id path, current := none }

/-- Is a path the current one? -/
def isAt (loading : WaypointLoading) (id : UInt32) : Bool :=
  loading.current.any fun current => current.1 == id

/-- Turn to a path. Unless it is the current one, that one is done with, and the count begins
anew. -/
def turnTo (loading : WaypointLoading) (id : UInt32) : WaypointLoading :=
  if loading.isAt id then loading
  else { loading.close with current := some (id, ∅), expected := 1 }

/-- Compare a row with the number that is expected. The count goes on by one, whatever the row's
number is. -/
def count (loading : WaypointLoading) (row : WaypointRow) : WaypointLoading :=
  { loading with
    gaps := loading.gaps ++ row.gapAt loading.expected
    expected := WaypointGap.successor loading.expected }

/-- Put the point of a row on the current path, in the place of one with its number. -/
def addPoint (loading : WaypointLoading) (row : WaypointRow) : WaypointLoading :=
  { loading with
    current := loading.current.map fun (id, path) => (id, path.insert row.point row.waypoint)
    points := loading.points + 1 }

/-- Read a row. -/
def step (loading : WaypointLoading) (row : WaypointRow) : WaypointLoading :=
  ((loading.turnTo row.path).count row).addPoint row

end WaypointLoading

/-- Load the points of rows that may come in any order, once the paths that there were are dropped.

In storage order the rows of a path stand together, so a path is stored as a whole when another one
begins, and the last path after the last row. -/
def Waypoints.load (waypoints : Waypoints) (rows : List WaypointRow) :
    Waypoints × WaypointReport :=
  let cleared := waypoints.clear
  if rows.isEmpty then (cleared, {})
  else
    let loading := (WaypointRow.sorted rows).foldl WaypointLoading.step { closed := cleared }
    let loaded := loading.close.closed
    (loaded, ⟨loaded.pathCount, loading.points, loading.gaps⟩)

end AiScript
