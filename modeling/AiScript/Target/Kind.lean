/-!
# Target kinds

A rule aims its action at the units or the place that its target selects. Storage names the kind
of selection by a number from 0 to 26.
-/

namespace AiScript.Target

/-- How the target of a rule is selected. -/
inductive Kind where
  | nobody | selfUnit | victim | hostileSecondAggro | hostileLastAggro | hostileRandom
  | hostileRandomNotTop | actionInvoker | position | creatureRange | creatureGuid
  | creatureDistance | stored | gameObjectRange | gameObjectGuid | gameObjectDistance
  | invokerParty | playerRange | playerDistance | closestCreature | closestGameObject
  | closestPlayer | actionInvokerVehicle | ownerOrSummoner | threatList | closestEnemy
  | closestFriendly
deriving DecidableEq

namespace Kind

/-- Every kind, by ascending code. -/
def all : List Kind :=
  [ .nobody, .selfUnit, .victim, .hostileSecondAggro, .hostileLastAggro, .hostileRandom,
    .hostileRandomNotTop, .actionInvoker, .position, .creatureRange, .creatureGuid,
    .creatureDistance, .stored, .gameObjectRange, .gameObjectGuid, .gameObjectDistance,
    .invokerParty, .playerRange, .playerDistance, .closestCreature, .closestGameObject,
    .closestPlayer, .actionInvokerVehicle, .ownerOrSummoner, .threatList, .closestEnemy,
    .closestFriendly]

/-- The number that storage uses for a kind. -/
def code : Kind → UInt8
  | .nobody => 0 | .selfUnit => 1 | .victim => 2 | .hostileSecondAggro => 3
  | .hostileLastAggro => 4 | .hostileRandom => 5 | .hostileRandomNotTop => 6 | .actionInvoker => 7
  | .position => 8 | .creatureRange => 9 | .creatureGuid => 10 | .creatureDistance => 11
  | .stored => 12 | .gameObjectRange => 13 | .gameObjectGuid => 14 | .gameObjectDistance => 15
  | .invokerParty => 16 | .playerRange => 17 | .playerDistance => 18 | .closestCreature => 19
  | .closestGameObject => 20 | .closestPlayer => 21 | .actionInvokerVehicle => 22
  | .ownerOrSummoner => 23 | .threatList => 24 | .closestEnemy => 25 | .closestFriendly => 26

/-- The name of a kind in messages and answers. -/
def name : Kind → String
  | .nobody => "None" | .selfUnit => "SelfUnit" | .victim => "Victim"
  | .hostileSecondAggro => "HostileSecondAggro" | .hostileLastAggro => "HostileLastAggro"
  | .hostileRandom => "HostileRandom" | .hostileRandomNotTop => "HostileRandomNotTop"
  | .actionInvoker => "ActionInvoker" | .position => "Position"
  | .creatureRange => "CreatureRange" | .creatureGuid => "CreatureGuid"
  | .creatureDistance => "CreatureDistance" | .stored => "Stored"
  | .gameObjectRange => "GameObjectRange" | .gameObjectGuid => "GameObjectGuid"
  | .gameObjectDistance => "GameObjectDistance" | .invokerParty => "InvokerParty"
  | .playerRange => "PlayerRange" | .playerDistance => "PlayerDistance"
  | .closestCreature => "ClosestCreature" | .closestGameObject => "ClosestGameObject"
  | .closestPlayer => "ClosestPlayer" | .actionInvokerVehicle => "ActionInvokerVehicle"
  | .ownerOrSummoner => "OwnerOrSummoner" | .threatList => "ThreatList"
  | .closestEnemy => "ClosestEnemy" | .closestFriendly => "ClosestFriendly"

/-- The kind with a given code. -/
def ofCode? (code : UInt8) : Option Kind := all.find? fun kind => kind.code == code

end Kind

end AiScript.Target
