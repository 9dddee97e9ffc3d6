import AiScript.Command

/-!
# The program

Files of the machine as storage, the environment as the command wants it, and printing.
-/

namespace AiScript

/-- The access failure that an error of the system means. -/
def AccessFailure.ofError : IO.Error → AccessFailure
  | .noFileOrDirectory .. => .notFound
  | .inappropriateType .. => .notDirectory
  | .invalidArgument .. => .invalidPath
  | _ => .refused

/-- Is there a directory under a path? Only a directory has itself in it. -/
def isDirectoryOnDisk (path : String) : IO Bool := do
  if path.isEmpty then return false
  try
    discard (IO.FS.realPath (path ++ "/."))
    return true
  catch _ => return false

/-- The files of the machine. -/
def diskStorage : Storage IO where
  read path := do
    try return .ok (← IO.FS.readFile path)
    catch error =>
      return .error (if ← isDirectoryOnDisk path then .isDirectory else .ofError error)
  write path text := do
    try
      IO.FS.writeFile path text
      return .ok ()
    catch error =>
      return .error (if ← isDirectoryOnDisk path then .isDirectory else .ofError error)
  isFile path := do
    try
      discard (IO.FS.readFile path)
      return true
    catch _ => return false
  isDirectory := isDirectoryOnDisk

/-- Where the user keeps settings of programs: a directory that is named from the root of all files,
or else one in the user's home. -/
def userSettingsDirectory : IO (Option String) := do
  match (← IO.getEnv "XDG_CONFIG_HOME").filter (·.startsWith "/") with
  | some directory => return some directory
  | none => return (← IO.getEnv "HOME").map fun home => Storage.join home ".config"

/-- Should terminal codes be written? They can be forced, they can be forbidden, and otherwise they
go to a terminal only. -/
def pageIsColoured : IO Bool := do
  if (← IO.getEnv "CLICOLOR_FORCE").any (· != "0") then return true
  if (← IO.getEnv "NO_COLOR").isSome then return false
  if (← IO.getEnv "CLICOLOR") == some "0" then return false
  (← IO.getStdout).isTty

end AiScript

open AiScript in
/-- Run the command on the files of the machine. -/
def main : IO UInt32 := do
  let outcome ← Command.run diskStorage {
    dataDirectory := ← IO.getEnv "SMART_DATA_DIR"
    settingsDirectory := ← userSettingsDirectory
    page := ⟨← pageIsColoured⟩ }
  outcome.output.forM IO.println
  outcome.errors.forM IO.eprintln
  return if outcome.succeeded then 0 else 1
