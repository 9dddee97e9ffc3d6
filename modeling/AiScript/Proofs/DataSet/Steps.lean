import AiScript.Command
import AiScript.Proofs.DataSet.FaultLines

/-!
# A data set is loaded whole or not at all

How files are read and how their texts are decoded is taken here as given: any functions will do
that give an answer or none. A load is then a row of steps that are taken in a fixed order, and each
file is read before it is decoded. If every step can be taken, the data set is made of what the
files hold, with the waypoints in place before the rules; how many rows are rejected does not
matter. Otherwise the first step that cannot be taken is the one that is told of.
-/

namespace AiScript

/-- How files are read and their texts are decoded. -/
structure Reader where
  read : String → Except AccessFailure String
  catalog? : String → Option Snapshot
  waypoints? : String → Option (List WaypointRow)
  rules? : String → Option (List Row)

/-- The path of a data file, as seen from a directory. -/
def Settings.path (settings : Settings) (directory : String) : DataFile → String
  | .catalog => Storage.join directory settings.catalogFile
  | .waypoints => Storage.join directory settings.waypointsFile
  | .rules => Storage.join directory settings.rulesFile

namespace Reader

/-- The records of files at given paths, as far as they can be had. -/
def sources (reader : Reader) (path : DataFile → String) : DataSources where
  catalog := DataFile.catalog.records (path .catalog) reader.catalog? (reader.read (path .catalog))
  waypoints :=
    DataFile.waypoints.records (path .waypoints) reader.waypoints? (reader.read (path .waypoints))
  rules := DataFile.rules.records (path .rules) reader.rules? (reader.read (path .rules))

/-- Load the data set that settings name. -/
def load (reader : Reader) (directory : String) (settings : Settings) :
    List Notice × Except LoadFailure DataSet :=
  DataSet.load (reader.sources (settings.path directory)) ⟨settings.warnRedundant⟩

/-- Reading as storage does, and decoding as the program does. -/
def ofStorage (storage : Storage Id) : Reader where
  read := storage.read
  catalog? := DataText.catalog?
  waypoints? := DataText.waypointRows?
  rules? := DataText.rows?

/-- The files can be read, and decoded as these records. -/
structure Provides (reader : Reader) (path : DataFile → String) (snapshot : Snapshot)
    (points : List WaypointRow) (rows : List Row) : Prop where
  catalog : ∃ text, reader.read (path .catalog) = .ok text ∧ reader.catalog? text = some snapshot
  waypoints : ∃ text, reader.read (path .waypoints) = .ok text ∧
    reader.waypoints? text = some points
  rules : ∃ text, reader.read (path .rules) = .ok text ∧ reader.rules? text = some rows

end Reader

/-- The steps of a load that may come to nothing. -/
inductive LoadStep where
  | read (file : DataFile)
  | decode (file : DataFile)
  | validate
deriving DecidableEq

namespace LoadStep

/-- The steps, in their order. -/
def all : List LoadStep :=
  [.read .catalog, .decode .catalog, .validate, .read .waypoints, .decode .waypoints,
    .read .rules, .decode .rules]

/-- The file that a step works on. -/
def file : LoadStep → DataFile
  | .read file | .decode file => file
  | .validate => .catalog

/-- What a step is a part of, in the text about its failure. -/
def context (step : LoadStep) : String :=
  match step.file with
  | .catalog => "while loading reference catalogs"
  | .waypoints => "while loading waypoints from file"
  | .rules => "while loading rules from file"

end LoadStep

/-- Does the text of a file decode? -/
def Reader.decodes (reader : Reader) : DataFile → String → Bool
  | .catalog, text => (reader.catalog? text).isSome
  | .waypoints, text => (reader.waypoints? text).isSome
  | .rules, text => (reader.rules? text).isSome

/-- What the file of the catalog decodes as. -/
def Reader.snapshot? (reader : Reader) (path : DataFile → String) : Option Snapshot :=
  (reader.read (path .catalog)).toOption.bind reader.catalog?

/-- How a step fails, if what it works on is there and the step comes to nothing. -/
def Reader.failure? (reader : Reader) (path : DataFile → String) : LoadStep → Option LoadFailure
  | .read file =>
    match reader.read (path file) with
    | .ok _ => none
    | .error cause => some (.file ⟨file, path file, some cause⟩)
  | .decode file =>
    match reader.read (path file) with
    | .ok text => if reader.decodes file text then none else some (.file ⟨file, path file, none⟩)
    | .error _ => none
  | .validate =>
    match reader.snapshot? path with
    | some snapshot =>
      if snapshot.faults = [] then none else some (.inconsistent snapshot.faults)
    | none => none

/-- The data set that is made of records: the waypoints are there before the rules, and the stores
are new. -/
def DataSet.ofRecords (snapshot : Snapshot) (points : List WaypointRow) (rows : List Row)
    (options : LoadOptions) : DataSet :=
  let catalog := Catalog.ofSnapshot snapshot
  let waypoints := Waypoints.load {} points
  let rules := Table.load .empty rows catalog waypoints.1 options
  ⟨⟨catalog, waypoints.1, rules.table⟩, waypoints.2, rules.report⟩

/-- How the records of a file fail to be had. -/
def fileFailure? {α : Type} : Except FileFailure α → Option LoadFailure
  | .ok _ => none
  | .error failure => some (.file failure)

/-- How a catalog fails to be consistent. -/
def inconsistency? : Except FileFailure Snapshot → Option LoadFailure
  | .ok snapshot => if snapshot.faults = [] then none else some (.inconsistent snapshot.faults)
  | .error _ => none

/-- The records of a file can be had exactly if the file can be read and its text decodes. -/
theorem DataFile.records_eq_ok_iff {α : Type} (file : DataFile) (path : String)
    (decode : String → Option α) (got : Except AccessFailure String) (found : α) :
    file.records path decode got = .ok found ↔
      ∃ text, got = .ok text ∧ decode text = some found := by
  cases got with
  | error cause => simp [records]
  | ok text => cases hdecode : decode text <;> simp [records, hdecode]

namespace DataSet

variable {snapshot : Snapshot}

/-- If a catalog is inconsistent, no other file counts. -/
theorem load_of_inconsistent (h : snapshot.faults ≠ [])
    (waypoints : Except FileFailure (List WaypointRow)) (rules : Except FileFailure (List Row))
    (options : LoadOptions) :
    (load ⟨.ok snapshot, waypoints, rules⟩ options).2 = .error (.inconsistent snapshot.faults) := by
  have hunusable : ((Except.ok snapshot).mapError LoadFailure.file).bind consistent =
      .error (.inconsistent snapshot.faults) := if_neg (mt List.isEmpty_iff.mp h)
  rw [load, hunusable]

/-- If a catalog is consistent, the waypoints come next and then the rules. -/
theorem load_of_consistent (h : snapshot.faults = [])
    (waypoints : Except FileFailure (List WaypointRow)) (rules : Except FileFailure (List Row))
    (options : LoadOptions) :
    (load ⟨.ok snapshot, waypoints, rules⟩ options).2 =
      (waypoints.mapError .file).bind fun points =>
        (rules.mapError .file).map fun rows => ofRecords snapshot points rows options := by
  have husable : ((Except.ok snapshot).mapError LoadFailure.file).bind consistent = .ok snapshot :=
    if_pos (List.isEmpty_iff.mpr h)
  rw [load, husable]
  cases waypoints with
  | error failure => rfl
  | ok points => cases rules <;> rfl

/-- A load gives a data set exactly if all records can be had and the catalog is consistent; the
data set is made of them. -/
theorem load_eq_ok_iff (sources : DataSources) (options : LoadOptions) (data : DataSet) :
    (load sources options).2 = .ok data ↔ ∃ snapshot points rows,
      sources.catalog = .ok snapshot ∧ snapshot.faults = [] ∧ sources.waypoints = .ok points ∧
        sources.rules = .ok rows ∧ ofRecords snapshot points rows options = data := by
  obtain ⟨catalog, waypoints, rules⟩ := sources
  constructor
  · intro hloaded
    cases catalog with
    | error failure => cases hloaded
    | ok snapshot =>
      by_cases hfaults : snapshot.faults = []
      · rw [load_of_consistent hfaults] at hloaded
        cases waypoints with
        | error failure => cases hloaded
        | ok points =>
          cases rules with
          | error failure => cases hloaded
          | ok rows => exact ⟨snapshot, points, rows, rfl, hfaults, rfl, rfl, Except.ok.inj hloaded⟩
      · rw [load_of_inconsistent hfaults] at hloaded
        cases hloaded
  · rintro ⟨snapshot, points, rows, rfl, hfaults, rfl, rfl, rfl⟩
    rw [load_of_consistent hfaults]
    rfl

/-- A load fails as the first of these does: the file of the catalog, what is in it, the file of the
waypoints, the file of the rules. -/
theorem load_eq_error_iff (sources : DataSources) (options : LoadOptions)
    (failure : LoadFailure) :
    (load sources options).2 = .error failure ↔
      (((fileFailure? sources.catalog).or (inconsistency? sources.catalog)).or
        (fileFailure? sources.waypoints)).or (fileFailure? sources.rules) = some failure := by
  obtain ⟨catalog, waypoints, rules⟩ := sources
  have hfailed : ∀ found : LoadFailure,
      (.error found : Except LoadFailure DataSet) = .error failure ↔ some found = some failure := by
    intro found
    rw [Except.error.injEq, Option.some.injEq]
  cases catalog with
  | error fault => exact hfailed _
  | ok snapshot =>
    by_cases hfaults : snapshot.faults = []
    · rw [load_of_consistent hfaults, inconsistency?, if_pos hfaults]
      cases waypoints with
      | error fault => exact hfailed _
      | ok points =>
        cases rules with
        | error fault => exact hfailed _
        | ok rows => exact ⟨nofun, nofun⟩
    · rw [load_of_inconsistent hfaults, inconsistency?, if_neg hfaults]
      exact hfailed _

end DataSet

namespace Reader

variable {reader : Reader} {path : DataFile → String}

/-- The steps of a file fail as its records do. -/
theorem findSome?_failure? {α : Type} (file : DataFile) {decode : String → Option α}
    (h : ∀ text, reader.decodes file text = (decode text).isSome) :
    [.read file, .decode file].findSome? (reader.failure? path) =
      fileFailure? (file.records (path file) decode (reader.read (path file))) := by
  rw [List.findSome?_cons, List.findSome?_singleton, failure?, failure?]
  cases reader.read (path file) with
  | error cause => rfl
  | ok text =>
    dsimp only
    rw [h]
    cases hdecode : decode text <;> simp [DataFile.records, hdecode, fileFailure?]

/-- Validation fails as the catalog is inconsistent. -/
theorem failure?_validate (reader : Reader) (path : DataFile → String) :
    reader.failure? path .validate = inconsistency? (reader.sources path).catalog := by
  rw [failure?, snapshot?, sources]
  cases reader.read (path .catalog) with
  | error cause => rfl
  | ok text =>
    simp only [Except.toOption, Option.bind_some]
    cases hdecode : reader.catalog? text <;> simp [DataFile.records, hdecode, inconsistency?]

/-- The first step that fails is what is wrong with the sources. -/
theorem findSome?_all (reader : Reader) (path : DataFile → String) :
    LoadStep.all.findSome? (reader.failure? path) =
      (((fileFailure? (reader.sources path).catalog).or
          (inconsistency? (reader.sources path).catalog)).or
        (fileFailure? (reader.sources path).waypoints)).or
        (fileFailure? (reader.sources path).rules) := by
  have hall : LoadStep.all = [.read .catalog, .decode .catalog] ++ [.validate] ++
      [.read .waypoints, .decode .waypoints] ++ [.read .rules, .decode .rules] := rfl
  rw [hall, List.findSome?_append, List.findSome?_append, List.findSome?_append,
    findSome?_failure? .catalog fun _ => rfl, List.findSome?_singleton, failure?_validate,
    findSome?_failure? .waypoints fun _ => rfl, findSome?_failure? .rules fun _ => rfl]
  rfl

/-- A file that cannot be read is told of as such. -/
theorem attempts_of_read {file : DataFile} {failure : LoadFailure}
    (h : reader.failure? path (.read file) = some failure) :
    failure.attempts = [(LoadStep.read file).context,
      s!"reading {file.contents} from '{path file}'"] := by
  rw [failure?] at h
  split at h
  · cases h
  · cases h
    cases file <;> rfl

/-- A file that does not decode is told of as such. -/
theorem attempts_of_decode {file : DataFile} {failure : LoadFailure}
    (h : reader.failure? path (.decode file) = some failure) :
    failure.attempts = [(LoadStep.decode file).context,
      s!"parsing {file.contents} from '{path file}'"] := by
  rw [failure?] at h
  split at h
  · split at h <;> cases h
    cases file <;> rfl
  · cases h

/-- A catalog that is inconsistent is told of with all its faults. -/
theorem attempts_of_validate {failure : LoadFailure}
    (h : reader.failure? path .validate = some failure) :
    ∃ snapshot text, reader.snapshot? path = some snapshot ∧ snapshot.faults ≠ [] ∧
      failure.attempts = [LoadStep.validate.context, text] ∧
      textLines text =
        "catalog validation failed:" :: snapshot.faults.map fun fault => "- " ++ fault.text := by
  rw [failure?] at h
  split at h
  next snapshot hsnapshot =>
    split at h
    · cases h
    next hfaults =>
      cases h
      exact ⟨snapshot, _, hsnapshot, hfaults, rfl, LoadFailure.textLines_faultsText _⟩
  next => cases h

/-- Reading the data that settings name is a load of this sort. -/
theorem readData_eq_load (storage : Storage Id) (directory : String) (settings : Settings) :
    Command.readData storage directory settings =
      (ofStorage storage).load directory settings := rfl

/-- A load gives a data set exactly if every file can be read and decoded and the catalog is
consistent, and the data set is then made of what the files hold. Otherwise it fails as the first of
its steps does that fails. It tells which file could not be read or decoded, as a part of what; of
an inconsistent catalog it tells every fault, each in a line of its own. The program loads its data
like this. -/
theorem load_allOrNothing (reader : Reader) (directory : String) (settings : Settings) :
    let path := settings.path directory
    let outcome := (reader.load directory settings).2
    (∀ data, outcome = .ok data ↔ ∃ snapshot points rows,
      reader.Provides path snapshot points rows ∧ snapshot.faults = [] ∧
        DataSet.ofRecords snapshot points rows ⟨settings.warnRedundant⟩ = data) ∧
    (∀ failure, outcome = .error failure ↔
      LoadStep.all.findSome? (reader.failure? path) = some failure) ∧
    (∀ file failure, reader.failure? path (.read file) = some failure →
      failure.attempts = [(LoadStep.read file).context,
        s!"reading {file.contents} from '{path file}'"]) ∧
    (∀ file failure, reader.failure? path (.decode file) = some failure →
      failure.attempts = [(LoadStep.decode file).context,
        s!"parsing {file.contents} from '{path file}'"]) ∧
    (∀ failure, reader.failure? path .validate = some failure →
      ∃ snapshot text, reader.snapshot? path = some snapshot ∧ snapshot.faults ≠ [] ∧
        failure.attempts = [LoadStep.validate.context, text] ∧
        textLines text =
          "catalog validation failed:" :: snapshot.faults.map fun fault => "- " ++ fault.text) ∧
    ∀ storage : Storage Id, Command.readData storage directory settings =
      (ofStorage storage).load directory settings := by
  intro path outcome
  refine ⟨fun data => ?_, fun failure => ?_, fun file failure => attempts_of_read,
    fun file failure => attempts_of_decode, fun failure => attempts_of_validate,
    fun storage => readData_eq_load storage directory settings⟩
  · refine (DataSet.load_eq_ok_iff (reader.sources path) _ data).trans ?_
    simp only [sources, DataFile.records_eq_ok_iff]
    constructor
    · rintro ⟨snapshot, points, rows, hcatalog, hfaults, hwaypoints, hrules, hdata⟩
      exact ⟨snapshot, points, rows, ⟨hcatalog, hwaypoints, hrules⟩, hfaults, hdata⟩
    · rintro ⟨snapshot, points, rows, ⟨hcatalog, hwaypoints, hrules⟩, hfaults, hdata⟩
      exact ⟨snapshot, points, rows, hcatalog, hfaults, hwaypoints, hrules, hdata⟩
  · rw [findSome?_all]
    exact DataSet.load_eq_error_iff _ _ failure

/-- A catalog that lists a template twice, and a spawn of one that it does not list. -/
def faultySnapshot : Snapshot where
  creatureTemplates := [⟨0, ""⟩, ⟨0, ""⟩]
  creatureSpawns := [⟨1, 99⟩]

/-- Files that hold this catalog and nothing that decodes as anything else. -/
def faultyReader : Reader where
  read := fun _ => .ok ""
  catalog? := fun _ => some faultySnapshot
  waypoints? := fun _ => none
  rules? := fun _ => none

/-- The catalog comes before the other files, and both its faults are told. -/
theorem load_allOrNothing_faultyReader :
    let faults : List Fault :=
      [.repeatedId .creatureTemplate 0, .missingTemplate (.creatureSpawn 1) 99]
    (faultyReader.load "data" {}).2 = .error (.inconsistent faults) ∧
    ∃ text, (LoadFailure.inconsistent faults).attempts =
        ["while loading reference catalogs", text] ∧
      textLines text = ["catalog validation failed:", "- duplicate creature template id 0",
        "- missing creature template 99 (creature spawn 1)"] := by
  intro faults
  let path := Settings.path {} "data"
  obtain ⟨-, hfails, -, -, htells, -⟩ := load_allOrNothing faultyReader "data" {}
  have hfaults : faultySnapshot.faults = faults := by decide
  have hread : faultyReader.failure? path (.read .catalog) = none := rfl
  have hdecode : faultyReader.failure? path (.decode .catalog) = none := rfl
  have hvalidate : faultyReader.failure? path .validate = some (.inconsistent faults) := by
    have hsome : faultySnapshot.faults ≠ [] := by decide
    change (if faultySnapshot.faults = [] then none else
      some (LoadFailure.inconsistent faultySnapshot.faults)) = _
    rw [if_neg hsome, hfaults]
  have hfirst : LoadStep.all.findSome? (faultyReader.failure? path) =
      some (.inconsistent faults) := by
    simp only [LoadStep.all, List.findSome?_cons, hread, hdecode, hvalidate]
  obtain ⟨snapshot, text, hsnapshot, -, hattempts, hlines⟩ := htells _ hvalidate
  cases hsnapshot
  exact ⟨(hfails _).mpr hfirst, text, hattempts, hlines.trans (by decide)⟩

end Reader

end AiScript
