import AiScript.Check.Condition

/-!
# The target of a row
-/

namespace AiScript

/-- An orientation beyond a full turn is out of range. -/
def Position.warnings (position : Position) : List Warning :=
  if position.o.absExceeds .fullTurn then [.orientationOutOfRange position.o] else []

/-- What a selection has to meet. Actions that install an AI template pick their own targets, so
theirs has nothing to meet. -/
def Target.Selection.conditions (catalog : Catalog) (action : Action.Kind)
    (selection : Selection) : List Condition :=
  if action = .installAiTemplate then []
  else
    match selection with
    | .creatureRange creature _ _ | .creatureDistance creature _ =>
      [catalog.creatureKnownOrNone creature]
    | .gameObjectRange entry _ _ | .gameObjectDistance entry _ =>
      [catalog.gameObjectKnownOrNone entry]
    | .creatureGuid _ entry => [catalog.creatureKnownOrNone entry]
    | .gameObjectGuid _ entry => [catalog.gameObjectKnownOrNone entry]
    | .playerDistance dist | .closestPlayer dist => [.nonZero .maxDistance dist]
    | _ => []

end AiScript
