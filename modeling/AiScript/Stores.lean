import AiScript.Table.Load

/-!
# Stores

Catalog, waypoints and rules as they live through a session. A load builds its store anew, and what
the store held before is gone; rules are checked against the catalog and the waypoints of the
moment, and are not looked at again when these change.
-/

namespace AiScript

/-- What waypoint loading tells. -/
def Waypoints.notices (rows : List WaypointRow) (report : WaypointReport) : List Notice :=
  if rows.isEmpty then [.noWaypoints]
  else report.gaps.map .waypointGap ++ [.waypointsLoaded report.paths report.points]

/-- Everything that is loaded. -/
structure Stores where
  catalog : Catalog := {}
  waypoints : Waypoints := {}
  table : Table := .empty

namespace Stores

/-- Index a snapshot in the place of the catalog. -/
def loadCatalog (stores : Stores) (snapshot : Snapshot) : Stores :=
  { stores with catalog := .ofSnapshot snapshot }

/-- Load waypoints in the place of those there were. -/
def loadWaypoints (stores : Stores) (rows : List WaypointRow) :
    Stores × WaypointReport × List Notice :=
  let loaded := stores.waypoints.load rows
  ({ stores with waypoints := loaded.1 }, loaded.2, Waypoints.notices rows loaded.2)

/-- Load rules in the place of those there were. -/
def loadRules (stores : Stores) (rows : List Row) (options : LoadOptions := {}) :
    Stores × LoadReport × List Notice :=
  let loaded := stores.table.load rows stores.catalog stores.waypoints options
  ({ stores with table := loaded.table }, loaded.report, loaded.notices)

end Stores

end AiScript
