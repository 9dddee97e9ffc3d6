import AiScript.Diagnostic

/-!
# Notices

Loading tells about itself in notices, each of a level. Their texts are those of log records; a
stage that was timed ends its text with the time that it took.
-/

namespace AiScript

/-- How much a notice matters. -/
inductive Notice.Level where
  | error | warn | info | debug
deriving DecidableEq

/-- The name of a level. -/
def Notice.Level.name : Notice.Level → String
  | .error => "ERROR" | .warn => "WARN" | .info => "INFO" | .debug => "DEBUG"

/-- Something that loading tells. -/
inductive Notice where
  | spellsAdded (count : Nat)
  | creatureTemplatesAdded (count : Nat)
  | gameObjectTemplatesAdded (count : Nat)
  | noWaypoints
  | waypointGap (gap : WaypointGap)
  | waypointsLoaded (paths points : Nat)
  | indexBuilt (slots : Nat)
  | noRules
  | rowWarning (diagnostic : Diagnostic Warning)
  | rowRejected (diagnostic : Diagnostic Rejection)
  | chainHeld (key : ChainKey) (rules : Nat)
  | rulesLoaded (entities rules : Nat)

namespace Notice

/-- The level of a notice. -/
def level : Notice → Level
  | .rowRejected _ => .error
  | .waypointGap _ | .rowWarning _ => .warn
  | .chainHeld .. => .debug
  | _ => .info

/-- The text of a notice, given the milliseconds that its stage took. -/
def text (elapsed : String) : Notice → String
  | .spellsAdded count => s!"{count} spells added to catalog"
  | .creatureTemplatesAdded count => s!"{count} creature templates added to catalog"
  | .gameObjectTemplatesAdded count => s!"{count} gameobject templates added to catalog"
  | .noWaypoints => ">> Loaded 0 waypoints. Waypoint table is empty."
  | .waypointGap gap => s!"SmartWaypointMgr: {gap.text}"
  | .waypointsLoaded paths points =>
    s!">> Loaded {paths} waypoint paths (total {points} waypoints) in {elapsed} ms"
  | .indexBuilt slots => s!">> Loaded SmartAI helper index ({slots} entries) in {elapsed} ms"
  | .noRules => ">> Loaded 0 SmartAI scripts. Rule table is empty."
  | .rowWarning diagnostic => s!"SmartAIMgr: {diagnostic.text Warning.text}"
  | .rowRejected diagnostic => s!"SmartAIMgr: {diagnostic.text Rejection.text}, skipped"
  | .chainHeld key rules =>
    s!"SmartAIMgr: chain {key.source.name} {key.owner} holds {rules} rules"
  | .rulesLoaded entities rules =>
    s!">> Loaded {entities} SmartAI scripts ({rules} rules) in {elapsed} ms"

end Notice

end AiScript
