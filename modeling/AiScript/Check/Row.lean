import AiScript.Check.Action
import AiScript.Check.Event
import AiScript.Check.Owner
import AiScript.Check.Target

/-!
# Examining a row

A row is examined in stages: its source and owner, the kinds that it names, its target, its event,
its action. The first broken condition of the first stage that breaks one is the reason for which
the row is rejected; a row that breaks none is a rule. A stage that is reached may raise warnings,
and these stand even if the row is rejected afterwards.
-/

namespace AiScript

/-- The source and the kinds that a row names. -/
structure RowKinds where
  source : Source
  event : Event.Kind
  action : Action.Kind
  target : Target.Kind
deriving DecidableEq

/-- What came of examining a row: the warnings raised, and a rule or the reason for having none. -/
structure Examination where
  warnings : List Warning
  result : Except Rejection Rule

namespace Row

/-- The source of a row, whose owner it may be found at. -/
def ownedSource (row : Row) (catalog : Catalog) : Except Rejection Source := do
  let source ← Source.decode row.sourceCode
  Condition.verdict (catalog.ownerConditions source row.owner)
  return source

/-- The kinds that a row names. -/
def kinds (row : Row) (source : Source) : Except Rejection RowKinds :=
  match Event.Kind.ofCode? row.eventCode with
  | none => .error (.unknownEvent row.eventCode)
  | some event =>
    match Action.Kind.ofCode? row.actionCode with
    | none => .error (.unknownAction row.actionCode)
    | some action =>
      match Target.Kind.ofCode? row.targetCode with
      | none => .error (.unknownTarget row.targetCode)
      | some target => .ok ⟨source, event, action, target⟩

/-- The stages that come before the target. -/
def identify (row : Row) (catalog : Catalog) : Except Rejection RowKinds := do
  row.kinds (← row.ownedSource catalog)

/-- The target of a row. -/
def target (row : Row) (kinds : RowKinds) : Target :=
  .decode kinds.target row.targetSlots row.position

/-- The action of a row. -/
def action (row : Row) (kinds : RowKinds) : Action := .decode kinds.action row.actionSlots

/-- The rule that a row stands for, once it is known to be sound. -/
def rule (row : Row) (kinds : RowKinds) : Rule where
  owner := row.owner
  source := kinds.source
  id := row.id
  link := row.link
  trigger :=
    { phaseMask := ⟨row.phaseMask⟩, chance := row.chance, flags := ⟨row.flags⟩,
      event := row.event kinds.source kinds.event }
  action := row.action kinds
  target := row.target kinds

/-- The target stage. -/
def targetVerdict (row : Row) (catalog : Catalog) (kinds : RowKinds) : Except Rejection Unit :=
  Condition.verdict ((row.target kinds).selection.conditions catalog kinds.action)

/-- The event stage. -/
def eventVerdict (row : Row) (catalog : Catalog) (kinds : RowKinds) : Except Rejection Unit :=
  Condition.verdict (row.eventConditions catalog kinds.source kinds.event kinds.target)

/-- The action stage. -/
def actionCheck (row : Row) (world : Surroundings) (kinds : RowKinds) : Check Unit :=
  (row.action kinds).check world kinds.source row.owner (row.event kinds.source kinds.event)
    kinds.target

/-- The verdict of the action stage. Spells that make the action redundant have no part in it, so
none are given. -/
def actionVerdict (row : Row) (catalog : Catalog) (waypoints : Waypoints) (kinds : RowKinds) :
    Except Rejection Unit :=
  ((row.actionCheck { catalog, waypoints } kinds).outcome []).1

/-- Check a row, stage by stage. -/
def check (row : Row) (world : Surroundings) : Check Rule := do
  let kinds ← Check.ofResult (row.identify world.catalog)
  Check.warn row.position.warnings
  Check.ofResult (row.targetVerdict world.catalog kinds)
  Check.ofResult (row.eventVerdict world.catalog kinds)
  row.actionCheck world kinds
  return row.rule kinds

/-- Examine a row of which nothing has been said yet. -/
def examine (row : Row) (world : Surroundings) : Examination :=
  let outcome := (row.check world).outcome []
  ⟨outcome.2, outcome.1⟩

end Row

end AiScript
