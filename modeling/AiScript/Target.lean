import AiScript.Field
import AiScript.Number.Single
import AiScript.Target.Kind

/-!
# Targets

A target is a selection, which is a kind together with the fields that the kind reads, and a
position, which every rule carries whether or not its kind of selection looks at it. Storage hands
over three unnamed slots for the selection; `decode` says what each of them means for a kind.
-/

namespace AiScript

/-- The three parameter slots of a stored target. -/
abbrev TargetSlots := Vector UInt32 3

/-- Coordinates, and an orientation in radians. -/
structure Position where
  x : Single := .zero
  y : Single := .zero
  z : Single := .zero
  o : Single := .zero
deriving DecidableEq

namespace Target

/-- How the target is selected, with the fields of its kind. -/
inductive Selection where
  | nobody
  | selfUnit
  | victim
  | hostileSecondAggro
  | hostileLastAggro
  | hostileRandom
  | hostileRandomNotTop
  | actionInvoker
  | position
  | creatureRange (creature minDist maxDist : UInt32)
  | creatureGuid (guid entry : UInt32)
  | creatureDistance (creature dist : UInt32)
  | stored (id : UInt32)
  | gameObjectRange (entry minDist maxDist : UInt32)
  | gameObjectGuid (guid entry : UInt32)
  | gameObjectDistance (entry dist : UInt32)
  | invokerParty
  | playerRange (minDist maxDist : UInt32)
  | playerDistance (dist : UInt32)
  | closestCreature (entry dist : UInt32) (dead : Bool)
  | closestGameObject (entry dist : UInt32)
  | closestPlayer (dist : UInt32)
  | actionInvokerVehicle
  | ownerOrSummoner
  | threatList
  | closestEnemy (maxDist : UInt32) (playerOnly : Bool)
  | closestFriendly (maxDist : UInt32) (playerOnly : Bool)

namespace Selection

/-- The kind of a selection. -/
def kind : Selection → Kind
  | .nobody => .nobody | .selfUnit => .selfUnit | .victim => .victim
  | .hostileSecondAggro => .hostileSecondAggro | .hostileLastAggro => .hostileLastAggro
  | .hostileRandom => .hostileRandom | .hostileRandomNotTop => .hostileRandomNotTop
  | .actionInvoker => .actionInvoker | .position => .position
  | .creatureRange .. => .creatureRange | .creatureGuid .. => .creatureGuid
  | .creatureDistance .. => .creatureDistance | .stored .. => .stored
  | .gameObjectRange .. => .gameObjectRange | .gameObjectGuid .. => .gameObjectGuid
  | .gameObjectDistance .. => .gameObjectDistance | .invokerParty => .invokerParty
  | .playerRange .. => .playerRange | .playerDistance .. => .playerDistance
  | .closestCreature .. => .closestCreature | .closestGameObject .. => .closestGameObject
  | .closestPlayer .. => .closestPlayer | .actionInvokerVehicle => .actionInvokerVehicle
  | .ownerOrSummoner => .ownerOrSummoner | .threatList => .threatList
  | .closestEnemy .. => .closestEnemy | .closestFriendly .. => .closestFriendly

/-- Read the slots as three fields. -/
def ofSlots (select : UInt32 → UInt32 → UInt32 → Selection) (p : TargetSlots) : Selection :=
  select p[0] p[1] p[2]

/-- Read the slots as the fields of a kind. -/
def decode (kind : Kind) (p : TargetSlots) : Selection :=
  match kind with
  | .nobody => .nobody
  | .selfUnit => .selfUnit
  | .victim => .victim
  | .hostileSecondAggro => .hostileSecondAggro
  | .hostileLastAggro => .hostileLastAggro
  | .hostileRandom => .hostileRandom
  | .hostileRandomNotTop => .hostileRandomNotTop
  | .actionInvoker => .actionInvoker
  | .position => .position
  | .creatureRange => ofSlots .creatureRange p
  | .creatureGuid => .creatureGuid p[0] p[1]
  | .creatureDistance => .creatureDistance p[0] p[1]
  | .stored => .stored p[0]
  | .gameObjectRange => ofSlots .gameObjectRange p
  | .gameObjectGuid => .gameObjectGuid p[0] p[1]
  | .gameObjectDistance => .gameObjectDistance p[0] p[1]
  | .invokerParty => .invokerParty
  | .playerRange => .playerRange p[0] p[1]
  | .playerDistance => .playerDistance p[0]
  | .closestCreature => .closestCreature p[0] p[1] (p[2] != 0)
  | .closestGameObject => .closestGameObject p[0] p[1]
  | .closestPlayer => .closestPlayer p[0]
  | .actionInvokerVehicle => .actionInvokerVehicle
  | .ownerOrSummoner => .ownerOrSummoner
  | .threatList => .threatList
  | .closestEnemy => .closestEnemy p[0] (p[1] != 0)
  | .closestFriendly => .closestFriendly p[0] (p[1] != 0)

/-- The named fields of a selection, in the order in which the slots spell them. -/
def fields : Selection → List (String × Field)
  | .nobody => []
  | .selfUnit => []
  | .victim => []
  | .hostileSecondAggro => []
  | .hostileLastAggro => []
  | .hostileRandom => []
  | .hostileRandomNotTop => []
  | .actionInvoker => []
  | .position => []
  | .creatureRange creature minDist maxDist =>
    [("creature", .word creature), ("min_dist", .word minDist), ("max_dist", .word maxDist)]
  | .creatureGuid guid entry => [("guid", .word guid), ("entry", .word entry)]
  | .creatureDistance creature dist => [("creature", .word creature), ("dist", .word dist)]
  | .stored id => [("id", .word id)]
  | .gameObjectRange entry minDist maxDist =>
    [("entry", .word entry), ("min_dist", .word minDist), ("max_dist", .word maxDist)]
  | .gameObjectGuid guid entry => [("guid", .word guid), ("entry", .word entry)]
  | .gameObjectDistance entry dist => [("entry", .word entry), ("dist", .word dist)]
  | .invokerParty => []
  | .playerRange minDist maxDist => [("min_dist", .word minDist), ("max_dist", .word maxDist)]
  | .playerDistance dist => [("dist", .word dist)]
  | .closestCreature entry dist dead =>
    [("entry", .word entry), ("dist", .word dist), ("dead", .flag dead)]
  | .closestGameObject entry dist => [("entry", .word entry), ("dist", .word dist)]
  | .closestPlayer dist => [("dist", .word dist)]
  | .actionInvokerVehicle => []
  | .ownerOrSummoner => []
  | .threatList => []
  | .closestEnemy maxDist playerOnly =>
    [("max_dist", .word maxDist), ("player_only", .flag playerOnly)]
  | .closestFriendly maxDist playerOnly =>
    [("max_dist", .word maxDist), ("player_only", .flag playerOnly)]

end Selection

end Target

/-- Whom or where a rule is aimed at. -/
structure Target where
  selection : Target.Selection
  position : Position

namespace Target

/-- The kind of a target's selection. -/
def kind (target : Target) : Kind := target.selection.kind

/-- Read the slots as a selection of a kind, and keep the position as it is. -/
def decode (kind : Kind) (p : TargetSlots) (position : Position) : Target :=
  ⟨.decode kind p, position⟩

end Target

end AiScript
