import AiScript.Check.Condition
import AiScript.Waypoint

/-!
# Checks and the warnings that they raise

A row is looked at once, and in this one run it is both checked and warned about. A check that fails
ends the run with the reason for which the row is dropped. A warning goes behind those that were
raised before it, and stands whatever becomes of the row.
-/

namespace AiScript

/-- What rows are examined against. -/
structure Surroundings where
  catalog : Catalog := {}
  index : SpellIndex := {}
  waypoints : Waypoints := {}
  /-- Warn of actions that a spell makes redundant? -/
  warnRedundant : Bool := true

/-- A run that may raise warnings, and gives a value or breaks off with a rejection. -/
abbrev Check (α : Type) := ExceptT Rejection (StateM (List Warning)) α

namespace Check

variable {α : Type}

/-- What a run comes to, and the warnings that there are afterwards, if some were raised before. -/
def outcome (check : Check α) (raised : List Warning) : Except Rejection α × List Warning :=
  StateT.run (ExceptT.run check) raised

/-- Go on with the value of a result, if it has one. -/
def ofResult (result : Except Rejection α) : Check α := ExceptT.mk (pure result)

/-- Go on if a condition holds. -/
def require (condition : Condition) : Check Unit :=
  if condition.holds then pure () else throw condition.otherwise

/-- Go on if every condition holds. They are tried in order. -/
def requireAll : List Condition → Check Unit
  | [] => pure ()
  | condition :: rest => do
    require condition
    requireAll rest

/-- Raise warnings. -/
def warn (warnings : List Warning) : Check Unit := modify fun raised => raised ++ warnings

end Check

end AiScript
