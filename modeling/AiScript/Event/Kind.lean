import AiScript.Source

/-!
# Event kinds

A rule waits for one kind of event. Storage names the kind by a number from 0 to 77, and each kind
may be used only by the sources that can meet such an event.
-/

namespace AiScript.Event

/-- What has to happen for a rule to fire. -/
inductive Kind where
  | updateIc | updateOoc | healthPct | manaPct | aggro | kill | death | evade | spellHit | range
  | oocLos | respawn | targetHealthPct | victimCasting | friendlyHealth | friendlyIsCc
  | friendlyMissingBuff | summonedUnit | targetManaPct | acceptedQuest | rewardQuest | reachedHome
  | receiveEmote | hasAura | targetBuffed | reset | icLos | passengerBoarded | passengerRemoved
  | charmed | charmedTarget | spellHitTarget | damaged | damagedTarget | movementInform
  | summonDespawned | corpseRemoved | aiInit | dataSet | waypointStart | waypointReached
  | transportAddPlayer | transportAddCreature | transportRemovePlayer | transportRelocate
  | instancePlayerEnter | areaTriggerOnTrigger | questAccepted | questObjCompletion
  | questCompletion | questRewarded | questFail | textOver | receiveHeal | justSummoned
  | waypointPaused | waypointResumed | waypointStopped | waypointEnded | timedEventTriggered
  | update | link | gossipSelect | justCreated | gossipHello | followCompleted | dummyEffect
  | isBehindTarget | gameEventStart | gameEventEnd | goStateChanged | goEventInform | actionDone
  | onSpellClick | friendlyHealthPct | distanceCreature | distanceGameObject | counterSet
deriving DecidableEq

namespace Kind

/-- Every kind, by ascending code. -/
def all : List Kind :=
  [ .updateIc, .updateOoc, .healthPct, .manaPct, .aggro, .kill, .death, .evade, .spellHit, .range,
    .oocLos, .respawn, .targetHealthPct, .victimCasting, .friendlyHealth, .friendlyIsCc,
    .friendlyMissingBuff, .summonedUnit, .targetManaPct, .acceptedQuest, .rewardQuest,
    .reachedHome, .receiveEmote, .hasAura, .targetBuffed, .reset, .icLos, .passengerBoarded,
    .passengerRemoved, .charmed, .charmedTarget, .spellHitTarget, .damaged, .damagedTarget,
    .movementInform, .summonDespawned, .corpseRemoved, .aiInit, .dataSet, .waypointStart,
    .waypointReached, .transportAddPlayer, .transportAddCreature, .transportRemovePlayer,
    .transportRelocate, .instancePlayerEnter, .areaTriggerOnTrigger, .questAccepted,
    .questObjCompletion, .questCompletion, .questRewarded, .questFail, .textOver, .receiveHeal,
    .justSummoned, .waypointPaused, .waypointResumed, .waypointStopped, .waypointEnded,
    .timedEventTriggered, .update, .link, .gossipSelect, .justCreated, .gossipHello,
    .followCompleted, .dummyEffect, .isBehindTarget, .gameEventStart, .gameEventEnd,
    .goStateChanged, .goEventInform, .actionDone, .onSpellClick, .friendlyHealthPct,
    .distanceCreature, .distanceGameObject, .counterSet]

/-- The number that storage uses for a kind. -/
def code : Kind → UInt8
  | .updateIc => 0 | .updateOoc => 1 | .healthPct => 2 | .manaPct => 3 | .aggro => 4 | .kill => 5
  | .death => 6 | .evade => 7 | .spellHit => 8 | .range => 9 | .oocLos => 10 | .respawn => 11
  | .targetHealthPct => 12 | .victimCasting => 13 | .friendlyHealth => 14 | .friendlyIsCc => 15
  | .friendlyMissingBuff => 16 | .summonedUnit => 17 | .targetManaPct => 18 | .acceptedQuest => 19
  | .rewardQuest => 20 | .reachedHome => 21 | .receiveEmote => 22 | .hasAura => 23
  | .targetBuffed => 24 | .reset => 25 | .icLos => 26 | .passengerBoarded => 27
  | .passengerRemoved => 28 | .charmed => 29 | .charmedTarget => 30 | .spellHitTarget => 31
  | .damaged => 32 | .damagedTarget => 33 | .movementInform => 34 | .summonDespawned => 35
  | .corpseRemoved => 36 | .aiInit => 37 | .dataSet => 38 | .waypointStart => 39
  | .waypointReached => 40 | .transportAddPlayer => 41 | .transportAddCreature => 42
  | .transportRemovePlayer => 43 | .transportRelocate => 44 | .instancePlayerEnter => 45
  | .areaTriggerOnTrigger => 46 | .questAccepted => 47 | .questObjCompletion => 48
  | .questCompletion => 49 | .questRewarded => 50 | .questFail => 51 | .textOver => 52
  | .receiveHeal => 53 | .justSummoned => 54 | .waypointPaused => 55 | .waypointResumed => 56
  | .waypointStopped => 57 | .waypointEnded => 58 | .timedEventTriggered => 59 | .update => 60
  | .link => 61 | .gossipSelect => 62 | .justCreated => 63 | .gossipHello => 64
  | .followCompleted => 65 | .dummyEffect => 66 | .isBehindTarget => 67 | .gameEventStart => 68
  | .gameEventEnd => 69 | .goStateChanged => 70 | .goEventInform => 71 | .actionDone => 72
  | .onSpellClick => 73 | .friendlyHealthPct => 74 | .distanceCreature => 75
  | .distanceGameObject => 76 | .counterSet => 77

/-- The name of a kind in messages and answers. -/
def name : Kind → String
  | .updateIc => "UpdateIc" | .updateOoc => "UpdateOoc" | .healthPct => "HealthPct"
  | .manaPct => "ManaPct" | .aggro => "Aggro" | .kill => "Kill" | .death => "Death"
  | .evade => "Evade" | .spellHit => "SpellHit" | .range => "Range" | .oocLos => "OocLos"
  | .respawn => "Respawn" | .targetHealthPct => "TargetHealthPct"
  | .victimCasting => "VictimCasting" | .friendlyHealth => "FriendlyHealth"
  | .friendlyIsCc => "FriendlyIsCc" | .friendlyMissingBuff => "FriendlyMissingBuff"
  | .summonedUnit => "SummonedUnit" | .targetManaPct => "TargetManaPct"
  | .acceptedQuest => "AcceptedQuest" | .rewardQuest => "RewardQuest"
  | .reachedHome => "ReachedHome" | .receiveEmote => "ReceiveEmote" | .hasAura => "HasAura"
  | .targetBuffed => "TargetBuffed" | .reset => "Reset" | .icLos => "IcLos"
  | .passengerBoarded => "PassengerBoarded" | .passengerRemoved => "PassengerRemoved"
  | .charmed => "Charmed" | .charmedTarget => "CharmedTarget"
  | .spellHitTarget => "SpellHitTarget" | .damaged => "Damaged"
  | .damagedTarget => "DamagedTarget" | .movementInform => "MovementInform"
  | .summonDespawned => "SummonDespawned" | .corpseRemoved => "CorpseRemoved"
  | .aiInit => "AiInit" | .dataSet => "DataSet" | .waypointStart => "WaypointStart"
  | .waypointReached => "WaypointReached" | .transportAddPlayer => "TransportAddPlayer"
  | .transportAddCreature => "TransportAddCreature"
  | .transportRemovePlayer => "TransportRemovePlayer" | .transportRelocate => "TransportRelocate"
  | .instancePlayerEnter => "InstancePlayerEnter"
  | .areaTriggerOnTrigger => "AreaTriggerOnTrigger" | .questAccepted => "QuestAccepted"
  | .questObjCompletion => "QuestObjCompletion" | .questCompletion => "QuestCompletion"
  | .questRewarded => "QuestRewarded" | .questFail => "QuestFail" | .textOver => "TextOver"
  | .receiveHeal => "ReceiveHeal" | .justSummoned => "JustSummoned"
  | .waypointPaused => "WaypointPaused" | .waypointResumed => "WaypointResumed"
  | .waypointStopped => "WaypointStopped" | .waypointEnded => "WaypointEnded"
  | .timedEventTriggered => "TimedEventTriggered" | .update => "Update" | .link => "Link"
  | .gossipSelect => "GossipSelect" | .justCreated => "JustCreated"
  | .gossipHello => "GossipHello" | .followCompleted => "FollowCompleted"
  | .dummyEffect => "DummyEffect" | .isBehindTarget => "IsBehindTarget"
  | .gameEventStart => "GameEventStart" | .gameEventEnd => "GameEventEnd"
  | .goStateChanged => "GoStateChanged" | .goEventInform => "GoEventInform"
  | .actionDone => "ActionDone" | .onSpellClick => "OnSpellClick"
  | .friendlyHealthPct => "FriendlyHealthPct" | .distanceCreature => "DistanceCreature"
  | .distanceGameObject => "DistanceGameObject" | .counterSet => "CounterSet"

/-- The kind with a given code. -/
def ofCode? (code : UInt8) : Option Kind := all.find? fun kind => kind.code == code

/-- The sources whose rules may wait for an event of this kind. -/
def allowedSources : Kind → SourceSet
  | .updateIc => .creature ∪ .timedActionList
  | .updateOoc => .creature ∪ .gameObject ∪ .instanceMap
  | .link => .all \ .timedActionList
  | .spellHit | .respawn | .summonedUnit | .acceptedQuest | .rewardQuest | .summonDespawned
  | .aiInit | .dataSet | .textOver | .timedEventTriggered | .update | .gossipSelect
  | .justCreated | .gossipHello | .gameEventStart | .gameEventEnd | .counterSet =>
    .creature ∪ .gameObject
  | .transportAddPlayer | .transportAddCreature | .transportRemovePlayer
  | .transportRelocate => .transport
  | .instancePlayerEnter => .instanceMap
  | .areaTriggerOnTrigger => .areaTrigger
  | .questAccepted | .questObjCompletion | .questCompletion | .questRewarded
  | .questFail => .quest
  | .dummyEffect => .spell
  | .goStateChanged | .goEventInform => .gameObject
  | _ => .creature

end Kind

end AiScript.Event
