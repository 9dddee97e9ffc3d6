import AiScript.SettingsText.Document

/-!
# Settings

A settings file names the data files and says what to warn of. It only ever fills in: a key that it
leaves out keeps its default, and a file that is missing or broken anywhere leaves all of them.

Settings stand before the first heading. What is below one, and keys that no setting has, must be
well formed and is not looked at otherwise.
-/

namespace AiScript

/-- What a load of files goes by. Paths are seen from the data directory. -/
structure Settings where
  catalogFile : String := "catalog.ron"
  rulesFile : String := "smart_scripts.ron"
  waypointsFile : String := "waypoints.ron"
  /-- Where the report is written, if it is. -/
  reportFile : Option String := none
  /-- Warn of actions that a spell makes redundant? -/
  warnRedundant : Bool := true
deriving DecidableEq

namespace Settings

open SettingsText (Entries Item)

/-- An item that must be a text. -/
def text? : Item → Option String
  | .text value => some value
  | _ => none

/-- An item that must be a truth value. -/
def flag? : Item → Option Bool
  | .flag value => some value
  | _ => none

/-- The value of a setting, which may be left out. -/
def setting {α : Type} (entries : Entries) (key : String) (missing : α)
    (value? : Item → Option α) : Option α :=
  match entries.lookup key with
  | some item => value? item
  | none => some missing

/-- The settings among entries. -/
def ofEntries? (entries : Entries) : Option Settings := do
  let defaults : Settings := {}
  return {
    catalogFile := ← setting entries "catalog_file" defaults.catalogFile text?
    rulesFile := ← setting entries "rules_file" defaults.rulesFile text?
    waypointsFile := ← setting entries "waypoints_file" defaults.waypointsFile text?
    reportFile := ← setting entries "report_file" defaults.reportFile fun item =>
      (text? item).map some
    warnRedundant := ← setting entries "warn_redundant_spells" defaults.warnRedundant flag? }

/-- The settings of a text, which are the defaults if it is broken. -/
def ofText (text : String) : Settings :=
  ((SettingsText.Document.ofText? text).bind ofEntries?).getD {}

end Settings

end AiScript
