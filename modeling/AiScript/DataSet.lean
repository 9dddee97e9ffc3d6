import AiScript.Catalog.Faults
import AiScript.DataText.Records
import AiScript.Settings
import AiScript.Storage
import AiScript.Stores

/-!
# Data sets

A data set comes from three data files. Its catalog is loaded first and must be consistent; then
come the waypoints, so that rules can be checked against them, and then the rules. The first file
that cannot be had ends the load, and nothing is kept then. Rules that are rejected one by one do
not end it.
-/

namespace AiScript

/-- The files of a data set. -/
inductive DataFile where
  | catalog | waypoints | rules
deriving DecidableEq

namespace DataFile

/-- What a file holds. -/
def contents : DataFile → String
  | .catalog => "catalog" | .waypoints => "waypoints" | .rules => "rules"

/-- The stage of a load that a file belongs to. -/
def stage : DataFile → String
  | .catalog => "while loading reference catalogs"
  | .waypoints => "while loading waypoints from file"
  | .rules => "while loading rules from file"

end DataFile

/-- A file whose records cannot be had. -/
structure FileFailure where
  file : DataFile
  path : String
  /-- Why the file could not be read, unless it could and is malformed. -/
  access? : Option AccessFailure

/-- What was attempted in vain. -/
def FileFailure.text (failure : FileFailure) : String :=
  let attempt := if failure.access?.isSome then "reading" else "parsing"
  s!"{attempt} {failure.file.contents} from '{failure.path}'"

/-- Take the records from what reading a file gave. -/
def DataFile.records {α : Type} (file : DataFile) (path : String) (decode : String → Option α) :
    Except AccessFailure String → Except FileFailure α
  | .error failure => .error ⟨file, path, some failure⟩
  | .ok text => (decode text).elim (.error ⟨file, path, none⟩) .ok

/-- Why a data set could not be loaded. -/
inductive LoadFailure where
  | file (failure : FileFailure)
  | inconsistent (faults : List Fault)

namespace LoadFailure

/-- The file at which the load ended. -/
def origin : LoadFailure → DataFile
  | .file failure => failure.file
  | .inconsistent _ => .catalog

/-- The text about an inconsistent catalog, which has a line for each fault. -/
def faultsText (faults : List Fault) : String :=
  "\n".intercalate ("catalog validation failed:" :: faults.map fun fault => s!"- {fault.text}")

/-- What was attempted in vain, from the outside in. The cause of a file's failure is left out. -/
def attempts (failure : LoadFailure) : List String :=
  [failure.origin.stage, match failure with
    | .file failure => failure.text
    | .inconsistent faults => faultsText faults]

end LoadFailure

/-- The records of the files of a data set, as far as they can be had. -/
structure DataSources where
  catalog : Except FileFailure Snapshot
  waypoints : Except FileFailure (List WaypointRow)
  rules : Except FileFailure (List Row)

/-- Read the files that settings name, as seen from a directory. -/
def DataSources.read {m : Type → Type} [Monad m] (storage : Storage m) (directory : String)
    (settings : Settings) : m DataSources := do
  let records {α : Type} (file : DataFile) (name : String) (decode : String → Option α) :
      m (Except FileFailure α) := do
    let path := Storage.join directory name
    return file.records path decode (← storage.read path)
  return {
    catalog := ← records .catalog settings.catalogFile DataText.catalog?
    waypoints := ← records .waypoints settings.waypointsFile DataText.waypointRows?
    rules := ← records .rules settings.rulesFile DataText.rows? }

/-- A loaded data set, and how the loads of waypoints and rules went. -/
structure DataSet where
  stores : Stores
  waypointReport : WaypointReport
  report : LoadReport

namespace DataSet

/-- A snapshot that may be used. -/
def consistent (snapshot : Snapshot) : Except LoadFailure Snapshot :=
  if snapshot.faults.isEmpty then .ok snapshot else .error (.inconsistent snapshot.faults)

/-- What is told of a catalog. -/
def catalogNotices (catalog : Catalog) : List Notice :=
  [.spellsAdded catalog.spells.size,
    .creatureTemplatesAdded catalog.creatures.templates.size,
    .gameObjectTemplatesAdded catalog.gameObjects.templates.size]

/-- Load a data set. What was told up to a failure has been told. -/
def load (sources : DataSources) (options : LoadOptions) :
    List Notice × Except LoadFailure DataSet :=
  match (sources.catalog.mapError .file).bind consistent with
  | .error failure => ([], .error failure)
  | .ok snapshot =>
    let stores := Stores.loadCatalog {} snapshot
    let ofCatalog := catalogNotices stores.catalog
    match sources.waypoints with
    | .error failure => (ofCatalog, .error (.file failure))
    | .ok points =>
      let (stores, waypointReport, ofWaypoints) := stores.loadWaypoints points
      match sources.rules with
      | .error failure => (ofCatalog ++ ofWaypoints, .error (.file failure))
      | .ok rows =>
        let (stores, report, ofRules) := stores.loadRules rows options
        (ofCatalog ++ ofWaypoints ++ ofRules, .ok ⟨stores, waypointReport, report⟩)

end DataSet

end AiScript
