/-!
# Action kinds

A rule performs one kind of action. Storage names the kind by a number from 1 to 115; 0 stands for
no action, and 16 and 114 are unassigned, so none of the three names a kind.
-/

namespace AiScript.Action

/-- What the owner of a rule does once its event has happened. -/
inductive Kind where
  | talk | setFaction | morphToEntryOrModel | sound | playEmote | failQuest | addQuest
  | setReactState | activateGameObject | randomEmote | cast | summonCreature | threatSinglePct
  | threatAllPct | callAreaExploredOrEventHappens | setEmoteState | setUnitFlag | removeUnitFlag
  | autoAttack | allowCombatMovement | setEventPhase | incEventPhase | evade | fleeForAssist
  | callGroupEventHappens | combatStop | removeAurasFromSpell | follow | randomPhase
  | randomPhaseRange | resetGameObject | callKilledMonster | setInstanceData | setInstanceData64
  | updateTemplate | die | setInCombatWithZone | callForHelp | setSheath | forceDespawn
  | setInvincibilityHpLevel | mountToEntryOrModel | setIngamePhaseMask | setData | moveForward
  | setVisibility | setActive | attackStart | summonGameObject | killUnit | activateTaxi
  | waypointStart | waypointPause | waypointStop | addItem | removeItem | installAiTemplate
  | setRun | setFly | setSwim | teleport | setCounter | storeTargetList | waypointResume
  | setOrientation | createTimedEvent | playMovie | moveToPos | respawnTarget | equip
  | closeGossip | triggerTimedEvent | removeTimedEvent | addAura | overrideScriptBaseObject
  | resetScriptBaseObject | callScriptReset | setRangedMovement | callTimedActionList | setNpcFlag
  | addNpcFlag | removeNpcFlag | simpleTalk | invokerCast | crossCast | callRandomTimedActionList
  | callRandomRangeTimedActionList | randomMove | setUnitFieldBytes1 | removeUnitFieldBytes1
  | interruptSpell | sendGoCustomAnim | setDynamicFlag | addDynamicFlag | removeDynamicFlag
  | jumpToPos | sendGossipMenu | goSetLootState | sendTargetToTarget | setHomePos | setHealthRegen
  | setRoot | setGoFlag | addGoFlag | removeGoFlag | summonCreatureGroup | setPower | addPower
  | removePower | gameEventStop | gameEventStart | startClosestWaypoint | randomSound
deriving DecidableEq

namespace Kind

/-- Every kind, by ascending code. -/
def all : List Kind :=
  [ .talk, .setFaction, .morphToEntryOrModel, .sound, .playEmote, .failQuest, .addQuest,
    .setReactState, .activateGameObject, .randomEmote, .cast, .summonCreature, .threatSinglePct,
    .threatAllPct, .callAreaExploredOrEventHappens, .setEmoteState, .setUnitFlag, .removeUnitFlag,
    .autoAttack, .allowCombatMovement, .setEventPhase, .incEventPhase, .evade, .fleeForAssist,
    .callGroupEventHappens, .combatStop, .removeAurasFromSpell, .follow, .randomPhase,
    .randomPhaseRange, .resetGameObject, .callKilledMonster, .setInstanceData, .setInstanceData64,
    .updateTemplate, .die, .setInCombatWithZone, .callForHelp, .setSheath, .forceDespawn,
    .setInvincibilityHpLevel, .mountToEntryOrModel, .setIngamePhaseMask, .setData, .moveForward,
    .setVisibility, .setActive, .attackStart, .summonGameObject, .killUnit, .activateTaxi,
    .waypointStart, .waypointPause, .waypointStop, .addItem, .removeItem, .installAiTemplate,
    .setRun, .setFly, .setSwim, .teleport, .setCounter, .storeTargetList, .waypointResume,
    .setOrientation, .createTimedEvent, .playMovie, .moveToPos, .respawnTarget, .equip,
    .closeGossip, .triggerTimedEvent, .removeTimedEvent, .addAura, .overrideScriptBaseObject,
    .resetScriptBaseObject, .callScriptReset, .setRangedMovement, .callTimedActionList,
    .setNpcFlag, .addNpcFlag, .removeNpcFlag, .simpleTalk, .invokerCast, .crossCast,
    .callRandomTimedActionList, .callRandomRangeTimedActionList, .randomMove, .setUnitFieldBytes1,
    .removeUnitFieldBytes1, .interruptSpell, .sendGoCustomAnim, .setDynamicFlag, .addDynamicFlag,
    .removeDynamicFlag, .jumpToPos, .sendGossipMenu, .goSetLootState, .sendTargetToTarget,
    .setHomePos, .setHealthRegen, .setRoot, .setGoFlag, .addGoFlag, .removeGoFlag,
    .summonCreatureGroup, .setPower, .addPower, .removePower, .gameEventStop, .gameEventStart,
    .startClosestWaypoint, .randomSound]

/-- The number that storage uses for a kind. -/
def code : Kind → UInt8
  | .talk => 1 | .setFaction => 2 | .morphToEntryOrModel => 3 | .sound => 4 | .playEmote => 5
  | .failQuest => 6 | .addQuest => 7 | .setReactState => 8 | .activateGameObject => 9
  | .randomEmote => 10 | .cast => 11 | .summonCreature => 12 | .threatSinglePct => 13
  | .threatAllPct => 14 | .callAreaExploredOrEventHappens => 15 | .setEmoteState => 17
  | .setUnitFlag => 18 | .removeUnitFlag => 19 | .autoAttack => 20 | .allowCombatMovement => 21
  | .setEventPhase => 22 | .incEventPhase => 23 | .evade => 24 | .fleeForAssist => 25
  | .callGroupEventHappens => 26 | .combatStop => 27 | .removeAurasFromSpell => 28 | .follow => 29
  | .randomPhase => 30 | .randomPhaseRange => 31 | .resetGameObject => 32
  | .callKilledMonster => 33 | .setInstanceData => 34 | .setInstanceData64 => 35
  | .updateTemplate => 36 | .die => 37 | .setInCombatWithZone => 38 | .callForHelp => 39
  | .setSheath => 40 | .forceDespawn => 41 | .setInvincibilityHpLevel => 42
  | .mountToEntryOrModel => 43 | .setIngamePhaseMask => 44 | .setData => 45 | .moveForward => 46
  | .setVisibility => 47 | .setActive => 48 | .attackStart => 49 | .summonGameObject => 50
  | .killUnit => 51 | .activateTaxi => 52 | .waypointStart => 53 | .waypointPause => 54
  | .waypointStop => 55 | .addItem => 56 | .removeItem => 57 | .installAiTemplate => 58
  | .setRun => 59 | .setFly => 60 | .setSwim => 61 | .teleport => 62 | .setCounter => 63
  | .storeTargetList => 64 | .waypointResume => 65 | .setOrientation => 66
  | .createTimedEvent => 67 | .playMovie => 68 | .moveToPos => 69 | .respawnTarget => 70
  | .equip => 71 | .closeGossip => 72 | .triggerTimedEvent => 73 | .removeTimedEvent => 74
  | .addAura => 75 | .overrideScriptBaseObject => 76 | .resetScriptBaseObject => 77
  | .callScriptReset => 78 | .setRangedMovement => 79 | .callTimedActionList => 80
  | .setNpcFlag => 81 | .addNpcFlag => 82 | .removeNpcFlag => 83 | .simpleTalk => 84
  | .invokerCast => 85 | .crossCast => 86 | .callRandomTimedActionList => 87
  | .callRandomRangeTimedActionList => 88 | .randomMove => 89 | .setUnitFieldBytes1 => 90
  | .removeUnitFieldBytes1 => 91 | .interruptSpell => 92 | .sendGoCustomAnim => 93
  | .setDynamicFlag => 94 | .addDynamicFlag => 95 | .removeDynamicFlag => 96 | .jumpToPos => 97
  | .sendGossipMenu => 98 | .goSetLootState => 99 | .sendTargetToTarget => 100
  | .setHomePos => 101 | .setHealthRegen => 102 | .setRoot => 103 | .setGoFlag => 104
  | .addGoFlag => 105 | .removeGoFlag => 106 | .summonCreatureGroup => 107 | .setPower => 108
  | .addPower => 109 | .removePower => 110 | .gameEventStop => 111 | .gameEventStart => 112
  | .startClosestWaypoint => 113 | .randomSound => 115

/-- The name of a kind in messages and answers. -/
def name : Kind → String
  | .talk => "Talk" | .setFaction => "SetFaction" | .morphToEntryOrModel => "MorphToEntryOrModel"
  | .sound => "Sound" | .playEmote => "PlayEmote" | .failQuest => "FailQuest"
  | .addQuest => "AddQuest" | .setReactState => "SetReactState"
  | .activateGameObject => "ActivateGameObject" | .randomEmote => "RandomEmote" | .cast => "Cast"
  | .summonCreature => "SummonCreature" | .threatSinglePct => "ThreatSinglePct"
  | .threatAllPct => "ThreatAllPct"
  | .callAreaExploredOrEventHappens => "CallAreaExploredOrEventHappens"
  | .setEmoteState => "SetEmoteState" | .setUnitFlag => "SetUnitFlag"
  | .removeUnitFlag => "RemoveUnitFlag" | .autoAttack => "AutoAttack"
  | .allowCombatMovement => "AllowCombatMovement" | .setEventPhase => "SetEventPhase"
  | .incEventPhase => "IncEventPhase" | .evade => "Evade" | .fleeForAssist => "FleeForAssist"
  | .callGroupEventHappens => "CallGroupEventHappens" | .combatStop => "CombatStop"
  | .removeAurasFromSpell => "RemoveAurasFromSpell" | .follow => "Follow"
  | .randomPhase => "RandomPhase" | .randomPhaseRange => "RandomPhaseRange"
  | .resetGameObject => "ResetGameObject" | .callKilledMonster => "CallKilledMonster"
  | .setInstanceData => "SetInstanceData" | .setInstanceData64 => "SetInstanceData64"
  | .updateTemplate => "UpdateTemplate" | .die => "Die"
  | .setInCombatWithZone => "SetInCombatWithZone" | .callForHelp => "CallForHelp"
  | .setSheath => "SetSheath" | .forceDespawn => "ForceDespawn"
  | .setInvincibilityHpLevel => "SetInvincibilityHpLevel"
  | .mountToEntryOrModel => "MountToEntryOrModel" | .setIngamePhaseMask => "SetIngamePhaseMask"
  | .setData => "SetData" | .moveForward => "MoveForward" | .setVisibility => "SetVisibility"
  | .setActive => "SetActive" | .attackStart => "AttackStart"
  | .summonGameObject => "SummonGameObject" | .killUnit => "KillUnit"
  | .activateTaxi => "ActivateTaxi" | .waypointStart => "WaypointStart"
  | .waypointPause => "WaypointPause" | .waypointStop => "WaypointStop" | .addItem => "AddItem"
  | .removeItem => "RemoveItem" | .installAiTemplate => "InstallAiTemplate" | .setRun => "SetRun"
  | .setFly => "SetFly" | .setSwim => "SetSwim" | .teleport => "Teleport"
  | .setCounter => "SetCounter" | .storeTargetList => "StoreTargetList"
  | .waypointResume => "WaypointResume" | .setOrientation => "SetOrientation"
  | .createTimedEvent => "CreateTimedEvent" | .playMovie => "PlayMovie"
  | .moveToPos => "MoveToPos" | .respawnTarget => "RespawnTarget" | .equip => "Equip"
  | .closeGossip => "CloseGossip" | .triggerTimedEvent => "TriggerTimedEvent"
  | .removeTimedEvent => "RemoveTimedEvent" | .addAura => "AddAura"
  | .overrideScriptBaseObject => "OverrideScriptBaseObject"
  | .resetScriptBaseObject => "ResetScriptBaseObject" | .callScriptReset => "CallScriptReset"
  | .setRangedMovement => "SetRangedMovement" | .callTimedActionList => "CallTimedActionList"
  | .setNpcFlag => "SetNpcFlag" | .addNpcFlag => "AddNpcFlag" | .removeNpcFlag => "RemoveNpcFlag"
  | .simpleTalk => "SimpleTalk" | .invokerCast => "InvokerCast" | .crossCast => "CrossCast"
  | .callRandomTimedActionList => "CallRandomTimedActionList"
  | .callRandomRangeTimedActionList => "CallRandomRangeTimedActionList"
  | .randomMove => "RandomMove" | .setUnitFieldBytes1 => "SetUnitFieldBytes1"
  | .removeUnitFieldBytes1 => "RemoveUnitFieldBytes1" | .interruptSpell => "InterruptSpell"
  | .sendGoCustomAnim => "SendGoCustomAnim" | .setDynamicFlag => "SetDynamicFlag"
  | .addDynamicFlag => "AddDynamicFlag" | .removeDynamicFlag => "RemoveDynamicFlag"
  | .jumpToPos => "JumpToPos" | .sendGossipMenu => "SendGossipMenu"
  | .goSetLootState => "GoSetLootState" | .sendTargetToTarget => "SendTargetToTarget"
  | .setHomePos => "SetHomePos" | .setHealthRegen => "SetHealthRegen" | .setRoot => "SetRoot"
  | .setGoFlag => "SetGoFlag" | .addGoFlag => "AddGoFlag" | .removeGoFlag => "RemoveGoFlag"
  | .summonCreatureGroup => "SummonCreatureGroup" | .setPower => "SetPower"
  | .addPower => "AddPower" | .removePower => "RemovePower" | .gameEventStop => "GameEventStop"
  | .gameEventStart => "GameEventStart" | .startClosestWaypoint => "StartClosestWaypoint"
  | .randomSound => "RandomSound"

/-- The kind with a given code. -/
def ofCode? (code : UInt8) : Option Kind := all.find? fun kind => kind.code == code

end Kind

end AiScript.Action
