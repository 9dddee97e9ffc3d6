import AiScript.Report
import AiScript.Summary

/-!
# The command

The command finds the data directory and the settings, loads the data set, shows a summary and, if
the settings ask for it, writes the report to a file. It takes no arguments; what it goes by comes
from its environment and from storage.
-/

namespace AiScript.Command

/-- What the command goes by, apart from files. -/
structure Environment where
  /-- The data directory that is asked for. -/
  dataDirectory : Option String := none
  /-- Where the user keeps settings of programs. -/
  settingsDirectory : Option String := none
  page : Page := ⟨false⟩

/-- What the command came to. -/
structure Outcome where
  succeeded : Bool
  /-- Lines of the answer. -/
  output : List String
  /-- Lines about the failure. -/
  errors : List String := []

/-- Where data may lie if no directory is asked for. The first is also the last resort. -/
def usualDirectory : String := "smart_engine/data"

/-- Where else data may lie. -/
def flatDirectory : String := "data"

/-- The name of a settings file. -/
def settingsFile : String := "smart.toml"

variable {m : Type → Type} [Monad m]

/-- The data directory: the first of those where data may lie that is there. A directory that is
asked for and is not there is passed over. -/
def dataDirectory (storage : Storage m) (asked : Option String) : m String := do
  let found ← (asked.toList ++ [usualDirectory, flatDirectory]).findM? storage.isDirectory
  return found.getD usualDirectory

/-- The path of the settings file. The user's own comes before that of the data directory. -/
def settingsPath (storage : Storage m) (settingsDirectory : Option String) (directory : String) :
    m String := do
  let own := settingsDirectory.map fun base =>
    Storage.join (Storage.join base "smart_engine") settingsFile
  let found ← own.toList.findM? storage.isFile
  return found.getD (Storage.join directory settingsFile)

/-- The settings of a file, which are the defaults if it cannot be read. -/
def readSettings (storage : Storage m) (path : String) : m Settings := do
  match ← storage.read path with
  | .ok text => return .ofText text
  | .error _ => return {}

/-- Read and load the data set that settings name. -/
def readData (storage : Storage m) (directory : String) (settings : Settings) :
    m (List Notice × Except LoadFailure DataSet) := do
  let sources ← DataSources.read storage directory settings
  return DataSet.load sources ⟨settings.warnRedundant⟩

/-- The lines about a failure: what was attempted, and the causes from the outside in. -/
def failureLines (attempt : String) (causes : List String) : List String :=
  s!"Error: {attempt}" :: "" :: "Caused by:" :: causes.map fun cause => s!"    {cause}"

/-- Why a data set could not be loaded, from the outside in. -/
def causes (failure : LoadFailure) : List String :=
  failure.attempts ++ match failure with
    | .file failure => [(failure.access?.map AccessFailure.text).getD "malformed data"]
    | .inconsistent _ => []

/-- Write the report to a file, as seen from a directory, behind what has been shown. -/
def writeReport (storage : Storage m) (page : Page) (path : String) (report : LoadReport)
    (shown : List String) : m Outcome := do
  match ← storage.write path report.document.pretty with
  | .ok () => return ⟨true, shown ++ [Summary.written page path], []⟩
  | .error failure =>
    return ⟨false, shown, failureLines s!"writing load report to '{path}'" [failure.text]⟩

/-- Run the command. -/
def run (storage : Storage m) (environment : Environment) : m Outcome := do
  let directory ← dataDirectory storage environment.dataDirectory
  let settings ← readSettings storage
    (← settingsPath storage environment.settingsDirectory directory)
  let loaded ← readData storage directory settings
  match loaded.2 with
  | .error failure =>
    return ⟨false, [], failureLines "while loading SmartAI data" (causes failure)⟩
  | .ok data =>
    let shown := Summary.lines environment.page data
    match settings.reportFile with
    | none => return ⟨true, shown, []⟩
    | some file =>
      writeReport storage environment.page (Storage.join directory file) data.report shown

end AiScript.Command
