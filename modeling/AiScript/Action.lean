import AiScript.Action.Kind
import AiScript.Field

/-!
# Actions

An action is a kind together with the fields that the kind reads. Storage hands over six unnamed
slots; `decode` says what each of them means for a kind, and slots that a kind does not read are
dropped. A field that counts as true or false is true for every number but zero.
-/

namespace AiScript

/-- The six parameter slots of a stored action. -/
abbrev ActionSlots := Vector UInt32 6

/-- An action with the fields of its kind. -/
inductive Action where
  | talk (textGroup duration : UInt32) (useTalkTarget : Bool)
  | setFaction (faction : UInt32)
  | morphToEntryOrModel (creature model : UInt32)
  | sound (soundId : UInt32) (onlySelf : Bool)
  | playEmote (emote : UInt32)
  | failQuest (quest : UInt32)
  | addQuest (quest : UInt32)
  | setReactState (state : UInt32)
  | activateGameObject
  | randomEmote (emotes : Vector UInt32 6)
  | cast (spell castFlags triggerFlags : UInt32)
  | summonCreature (creature summonType duration storageId : UInt32) (attackInvoker : Bool)
  | threatSinglePct (increase decrease : UInt32)
  | threatAllPct (increase decrease : UInt32)
  | callAreaExploredOrEventHappens (quest : UInt32)
  | setEmoteState (emote : UInt32)
  | setUnitFlag (flag field : UInt32)
  | removeUnitFlag (flag field : UInt32)
  | autoAttack (attack : Bool)
  | allowCombatMovement (allow : Bool)
  | setEventPhase (phase : UInt32)
  | incEventPhase (inc dec : UInt32)
  | evade
  | fleeForAssist (withEmote : Bool)
  | callGroupEventHappens (quest : UInt32)
  | combatStop
  | removeAurasFromSpell (spell charges : UInt32)
  | follow (distance angle entry credit creditType : UInt32)
  | randomPhase (phases : Vector UInt32 6)
  | randomPhaseRange (min max : UInt32)
  | resetGameObject
  | callKilledMonster (creature : UInt32)
  | setInstanceData (field data : UInt32)
  | setInstanceData64 (field : UInt32)
  | updateTemplate (creature : UInt32) (team : Bool)
  | die
  | setInCombatWithZone
  | callForHelp (range : UInt32) (withEmote : Bool)
  | setSheath (sheath : UInt32)
  | forceDespawn (delay : UInt32)
  | setInvincibilityHpLevel (minHp percent : UInt32)
  | mountToEntryOrModel (creature model : UInt32)
  | setIngamePhaseMask (mask : UInt32)
  | setData (field data : UInt32)
  | moveForward (distance : UInt32)
  | setVisibility (visible : Bool)
  | setActive (active : Bool)
  | attackStart
  | summonGameObject (entry despawnTime : UInt32)
  | killUnit
  | activateTaxi (path : UInt32)
  | waypointStart (run : Bool) (path : UInt32)
      (looped : Bool) (quest despawnTime reactState : UInt32)
  | waypointPause (delay : UInt32)
  | waypointStop (despawnTime quest : UInt32) (fail : Bool)
  | addItem (item count : UInt32)
  | removeItem (item count : UInt32)
  | installAiTemplate (template : UInt32) (params : Vector UInt32 5)
  | setRun (run : Bool)
  | setFly (fly : Bool)
  | setSwim (swim : Bool)
  | teleport (map : UInt32)
  | setCounter (counter value : UInt32) (reset : Bool)
  | storeTargetList (id : UInt32)
  | waypointResume
  | setOrientation
  | createTimedEvent (id : UInt32) (timer recurring : Window) (chance : UInt32)
  | playMovie (movie : UInt32)
  | moveToPos (point : UInt32)
  | respawnTarget
  | equip (entry mask : UInt32) (slots : Vector UInt32 3)
  | closeGossip
  | triggerTimedEvent (id : UInt32)
  | removeTimedEvent (id : UInt32)
  | addAura (spell : UInt32)
  | overrideScriptBaseObject
  | resetScriptBaseObject
  | callScriptReset
  | setRangedMovement (distance angle : UInt32)
  | callTimedActionList (id timerType : UInt32) (allowOverride : Bool)
  | setNpcFlag (flag : UInt32)
  | addNpcFlag (flag : UInt32)
  | removeNpcFlag (flag : UInt32)
  | simpleTalk (textGroup : UInt32)
  | invokerCast (spell castFlags triggerFlags : UInt32)
  | crossCast (spell castFlags casterTargetType : UInt32) (casterParams : Vector UInt32 3)
  | callRandomTimedActionList (lists : Vector UInt32 6)
  | callRandomRangeTimedActionList (first last : UInt32)
  | randomMove (distance : UInt32)
  | setUnitFieldBytes1 (value field : UInt32)
  | removeUnitFieldBytes1 (value field : UInt32)
  | interruptSpell (withDelayed : Bool) (spell : UInt32) (instant : Bool)
  | sendGoCustomAnim (anim : UInt32)
  | setDynamicFlag (flag : UInt32)
  | addDynamicFlag (flag : UInt32)
  | removeDynamicFlag (flag : UInt32)
  | jumpToPos (speedXy speedZ : UInt32)
  | sendGossipMenu (menu text : UInt32)
  | goSetLootState (state : UInt32)
  | sendTargetToTarget (id : UInt32)
  | setHomePos
  | setHealthRegen (regen : Bool)
  | setRoot (root : Bool)
  | setGoFlag (flag : UInt32)
  | addGoFlag (flag : UInt32)
  | removeGoFlag (flag : UInt32)
  | summonCreatureGroup (group : UInt32) (attackInvoker : Bool)
  | setPower (powerType value : UInt32)
  | addPower (powerType value : UInt32)
  | removePower (powerType value : UInt32)
  | gameEventStop (gameEvent : UInt32)
  | gameEventStart (gameEvent : UInt32)
  | startClosestWaypoint (paths : Vector UInt32 6)
  | randomSound (sounds : Vector UInt32 5) (onlySelf : Bool)

namespace Action

/-- The kind of an action. -/
def kind : Action → Kind
  | .talk .. => .talk | .setFaction .. => .setFaction
  | .morphToEntryOrModel .. => .morphToEntryOrModel | .sound .. => .sound
  | .playEmote .. => .playEmote | .failQuest .. => .failQuest | .addQuest .. => .addQuest
  | .setReactState .. => .setReactState | .activateGameObject => .activateGameObject
  | .randomEmote .. => .randomEmote | .cast .. => .cast | .summonCreature .. => .summonCreature
  | .threatSinglePct .. => .threatSinglePct | .threatAllPct .. => .threatAllPct
  | .callAreaExploredOrEventHappens .. => .callAreaExploredOrEventHappens
  | .setEmoteState .. => .setEmoteState | .setUnitFlag .. => .setUnitFlag
  | .removeUnitFlag .. => .removeUnitFlag | .autoAttack .. => .autoAttack
  | .allowCombatMovement .. => .allowCombatMovement | .setEventPhase .. => .setEventPhase
  | .incEventPhase .. => .incEventPhase | .evade => .evade | .fleeForAssist .. => .fleeForAssist
  | .callGroupEventHappens .. => .callGroupEventHappens | .combatStop => .combatStop
  | .removeAurasFromSpell .. => .removeAurasFromSpell | .follow .. => .follow
  | .randomPhase .. => .randomPhase | .randomPhaseRange .. => .randomPhaseRange
  | .resetGameObject => .resetGameObject | .callKilledMonster .. => .callKilledMonster
  | .setInstanceData .. => .setInstanceData | .setInstanceData64 .. => .setInstanceData64
  | .updateTemplate .. => .updateTemplate | .die => .die
  | .setInCombatWithZone => .setInCombatWithZone | .callForHelp .. => .callForHelp
  | .setSheath .. => .setSheath | .forceDespawn .. => .forceDespawn
  | .setInvincibilityHpLevel .. => .setInvincibilityHpLevel
  | .mountToEntryOrModel .. => .mountToEntryOrModel
  | .setIngamePhaseMask .. => .setIngamePhaseMask | .setData .. => .setData
  | .moveForward .. => .moveForward | .setVisibility .. => .setVisibility
  | .setActive .. => .setActive | .attackStart => .attackStart
  | .summonGameObject .. => .summonGameObject | .killUnit => .killUnit
  | .activateTaxi .. => .activateTaxi | .waypointStart .. => .waypointStart
  | .waypointPause .. => .waypointPause | .waypointStop .. => .waypointStop
  | .addItem .. => .addItem | .removeItem .. => .removeItem
  | .installAiTemplate .. => .installAiTemplate | .setRun .. => .setRun | .setFly .. => .setFly
  | .setSwim .. => .setSwim | .teleport .. => .teleport | .setCounter .. => .setCounter
  | .storeTargetList .. => .storeTargetList | .waypointResume => .waypointResume
  | .setOrientation => .setOrientation | .createTimedEvent .. => .createTimedEvent
  | .playMovie .. => .playMovie | .moveToPos .. => .moveToPos | .respawnTarget => .respawnTarget
  | .equip .. => .equip | .closeGossip => .closeGossip
  | .triggerTimedEvent .. => .triggerTimedEvent | .removeTimedEvent .. => .removeTimedEvent
  | .addAura .. => .addAura | .overrideScriptBaseObject => .overrideScriptBaseObject
  | .resetScriptBaseObject => .resetScriptBaseObject | .callScriptReset => .callScriptReset
  | .setRangedMovement .. => .setRangedMovement | .callTimedActionList .. => .callTimedActionList
  | .setNpcFlag .. => .setNpcFlag | .addNpcFlag .. => .addNpcFlag
  | .removeNpcFlag .. => .removeNpcFlag | .simpleTalk .. => .simpleTalk
  | .invokerCast .. => .invokerCast | .crossCast .. => .crossCast
  | .callRandomTimedActionList .. => .callRandomTimedActionList
  | .callRandomRangeTimedActionList .. => .callRandomRangeTimedActionList
  | .randomMove .. => .randomMove | .setUnitFieldBytes1 .. => .setUnitFieldBytes1
  | .removeUnitFieldBytes1 .. => .removeUnitFieldBytes1 | .interruptSpell .. => .interruptSpell
  | .sendGoCustomAnim .. => .sendGoCustomAnim | .setDynamicFlag .. => .setDynamicFlag
  | .addDynamicFlag .. => .addDynamicFlag | .removeDynamicFlag .. => .removeDynamicFlag
  | .jumpToPos .. => .jumpToPos | .sendGossipMenu .. => .sendGossipMenu
  | .goSetLootState .. => .goSetLootState | .sendTargetToTarget .. => .sendTargetToTarget
  | .setHomePos => .setHomePos | .setHealthRegen .. => .setHealthRegen | .setRoot .. => .setRoot
  | .setGoFlag .. => .setGoFlag | .addGoFlag .. => .addGoFlag | .removeGoFlag .. => .removeGoFlag
  | .summonCreatureGroup .. => .summonCreatureGroup | .setPower .. => .setPower
  | .addPower .. => .addPower | .removePower .. => .removePower
  | .gameEventStop .. => .gameEventStop | .gameEventStart .. => .gameEventStart
  | .startClosestWaypoint .. => .startClosestWaypoint | .randomSound .. => .randomSound

/-- All slots but the last. -/
def leadingSlots (p : ActionSlots) : Vector UInt32 5 := #v[p[0], p[1], p[2], p[3], p[4]]

/-- All slots but the first. -/
def trailingSlots (p : ActionSlots) : Vector UInt32 5 := #v[p[1], p[2], p[3], p[4], p[5]]

/-- Read the slots as the fields of a kind. -/
def decode (kind : Kind) (p : ActionSlots) : Action :=
  match kind with
  | .talk => .talk p[0] p[1] (p[2] != 0)
  | .setFaction => .setFaction p[0]
  | .morphToEntryOrModel => .morphToEntryOrModel p[0] p[1]
  | .sound => .sound p[0] (p[1] != 0)
  | .playEmote => .playEmote p[0]
  | .failQuest => .failQuest p[0]
  | .addQuest => .addQuest p[0]
  | .setReactState => .setReactState p[0]
  | .activateGameObject => .activateGameObject
  | .randomEmote => .randomEmote p
  | .cast => .cast p[0] p[1] p[2]
  | .summonCreature => .summonCreature p[0] p[1] p[2] p[3] (p[4] != 0)
  | .threatSinglePct => .threatSinglePct p[0] p[1]
  | .threatAllPct => .threatAllPct p[0] p[1]
  | .callAreaExploredOrEventHappens => .callAreaExploredOrEventHappens p[0]
  | .setEmoteState => .setEmoteState p[0]
  | .setUnitFlag => .setUnitFlag p[0] p[1]
  | .removeUnitFlag => .removeUnitFlag p[0] p[1]
  | .autoAttack => .autoAttack (p[0] != 0)
  | .allowCombatMovement => .allowCombatMovement (p[0] != 0)
  | .setEventPhase => .setEventPhase p[0]
  | .incEventPhase => .incEventPhase p[0] p[1]
  | .evade => .evade
  | .fleeForAssist => .fleeForAssist (p[0] != 0)
  | .callGroupEventHappens => .callGroupEventHappens p[0]
  | .combatStop => .combatStop
  | .removeAurasFromSpell => .removeAurasFromSpell p[0] p[1]
  | .follow => .follow p[0] p[1] p[2] p[3] p[4]
  | .randomPhase => .randomPhase p
  | .randomPhaseRange => .randomPhaseRange p[0] p[1]
  | .resetGameObject => .resetGameObject
  | .callKilledMonster => .callKilledMonster p[0]
  | .setInstanceData => .setInstanceData p[0] p[1]
  | .setInstanceData64 => .setInstanceData64 p[0]
  | .updateTemplate => .updateTemplate p[0] (p[1] != 0)
  | .die => .die
  | .setInCombatWithZone => .setInCombatWithZone
  | .callForHelp => .callForHelp p[0] (p[1] != 0)
  | .setSheath => .setSheath p[0]
  | .forceDespawn => .forceDespawn p[0]
  | .setInvincibilityHpLevel => .setInvincibilityHpLevel p[0] p[1]
  | .mountToEntryOrModel => .mountToEntryOrModel p[0] p[1]
  | .setIngamePhaseMask => .setIngamePhaseMask p[0]
  | .setData => .setData p[0] p[1]
  | .moveForward => .moveForward p[0]
  | .setVisibility => .setVisibility (p[0] != 0)
  | .setActive => .setActive (p[0] != 0)
  | .attackStart => .attackStart
  | .summonGameObject => .summonGameObject p[0] p[1]
  | .killUnit => .killUnit
  | .activateTaxi => .activateTaxi p[0]
  | .waypointStart => .waypointStart (p[0] != 0) p[1] (p[2] != 0) p[3] p[4] p[5]
  | .waypointPause => .waypointPause p[0]
  | .waypointStop => .waypointStop p[0] p[1] (p[2] != 0)
  | .addItem => .addItem p[0] p[1]
  | .removeItem => .removeItem p[0] p[1]
  | .installAiTemplate => .installAiTemplate p[0] (trailingSlots p)
  | .setRun => .setRun (p[0] != 0)
  | .setFly => .setFly (p[0] != 0)
  | .setSwim => .setSwim (p[0] != 0)
  | .teleport => .teleport p[0]
  | .setCounter => .setCounter p[0] p[1] (p[2] != 0)
  | .storeTargetList => .storeTargetList p[0]
  | .waypointResume => .waypointResume
  | .setOrientation => .setOrientation
  | .createTimedEvent => .createTimedEvent p[0] ⟨p[1], p[2]⟩ ⟨p[3], p[4]⟩ p[5]
  | .playMovie => .playMovie p[0]
  | .moveToPos => .moveToPos p[0]
  | .respawnTarget => .respawnTarget
  | .equip => .equip p[0] p[1] #v[p[2], p[3], p[4]]
  | .closeGossip => .closeGossip
  | .triggerTimedEvent => .triggerTimedEvent p[0]
  | .removeTimedEvent => .removeTimedEvent p[0]
  | .addAura => .addAura p[0]
  | .overrideScriptBaseObject => .overrideScriptBaseObject
  | .resetScriptBaseObject => .resetScriptBaseObject
  | .callScriptReset => .callScriptReset
  | .setRangedMovement => .setRangedMovement p[0] p[1]
  | .callTimedActionList => .callTimedActionList p[0] p[1] (p[2] != 0)
  | .setNpcFlag => .setNpcFlag p[0]
  | .addNpcFlag => .addNpcFlag p[0]
  | .removeNpcFlag => .removeNpcFlag p[0]
  | .simpleTalk => .simpleTalk p[0]
  | .invokerCast => .invokerCast p[0] p[1] p[2]
  | .crossCast => .crossCast p[0] p[1] p[2] #v[p[3], p[4], p[5]]
  | .callRandomTimedActionList => .callRandomTimedActionList p
  | .callRandomRangeTimedActionList => .callRandomRangeTimedActionList p[0] p[1]
  | .randomMove => .randomMove p[0]
  | .setUnitFieldBytes1 => .setUnitFieldBytes1 p[0] p[1]
  | .removeUnitFieldBytes1 => .removeUnitFieldBytes1 p[0] p[1]
  | .interruptSpell => .interruptSpell (p[0] != 0) p[1] (p[2] != 0)
  | .sendGoCustomAnim => .sendGoCustomAnim p[0]
  | .setDynamicFlag => .setDynamicFlag p[0]
  | .addDynamicFlag => .addDynamicFlag p[0]
  | .removeDynamicFlag => .removeDynamicFlag p[0]
  | .jumpToPos => .jumpToPos p[0] p[1]
  | .sendGossipMenu => .sendGossipMenu p[0] p[1]
  | .goSetLootState => .goSetLootState p[0]
  | .sendTargetToTarget => .sendTargetToTarget p[0]
  | .setHomePos => .setHomePos
  | .setHealthRegen => .setHealthRegen (p[0] != 0)
  | .setRoot => .setRoot (p[0] != 0)
  | .setGoFlag => .setGoFlag p[0]
  | .addGoFlag => .addGoFlag p[0]
  | .removeGoFlag => .removeGoFlag p[0]
  | .summonCreatureGroup => .summonCreatureGroup p[0] (p[1] != 0)
  | .setPower => .setPower p[0] p[1]
  | .addPower => .addPower p[0] p[1]
  | .removePower => .removePower p[0] p[1]
  | .gameEventStop => .gameEventStop p[0]
  | .gameEventStart => .gameEventStart p[0]
  | .startClosestWaypoint => .startClosestWaypoint p
  | .randomSound => .randomSound (leadingSlots p) (p[5] != 0)

/-- The named fields of an action, in the order in which the slots spell them. -/
def fields : Action → List (String × Field)
  | .talk textGroup duration useTalkTarget =>
    [("text_group", .word textGroup), ("duration", .word duration),
     ("use_talk_target", .flag useTalkTarget)]
  | .setFaction faction => [("faction", .word faction)]
  | .morphToEntryOrModel creature model => [("creature", .word creature), ("model", .word model)]
  | .sound soundId onlySelf => [("sound", .word soundId), ("only_self", .flag onlySelf)]
  | .playEmote emote => [("emote", .word emote)]
  | .failQuest quest => [("quest", .word quest)]
  | .addQuest quest => [("quest", .word quest)]
  | .setReactState state => [("state", .word state)]
  | .activateGameObject => []
  | .randomEmote emotes => [("emotes", .words emotes.toList)]
  | .cast spell castFlags triggerFlags =>
    [("spell", .word spell), ("cast_flags", .word castFlags),
     ("trigger_flags", .word triggerFlags)]
  | .summonCreature creature summonType duration storageId attackInvoker =>
    [("creature", .word creature), ("summon_type", .word summonType),
     ("duration", .word duration), ("storage_id", .word storageId),
     ("attack_invoker", .flag attackInvoker)]
  | .threatSinglePct increase decrease =>
    [("increase", .word increase), ("decrease", .word decrease)]
  | .threatAllPct increase decrease =>
    [("increase", .word increase), ("decrease", .word decrease)]
  | .callAreaExploredOrEventHappens quest => [("quest", .word quest)]
  | .setEmoteState emote => [("emote", .word emote)]
  | .setUnitFlag flag field => [("flag", .word flag), ("field", .word field)]
  | .removeUnitFlag flag field => [("flag", .word flag), ("field", .word field)]
  | .autoAttack attack => [("attack", .flag attack)]
  | .allowCombatMovement allow => [("allow", .flag allow)]
  | .setEventPhase phase => [("phase", .word phase)]
  | .incEventPhase inc dec => [("inc", .word inc), ("dec", .word dec)]
  | .evade => []
  | .fleeForAssist withEmote => [("with_emote", .flag withEmote)]
  | .callGroupEventHappens quest => [("quest", .word quest)]
  | .combatStop => []
  | .removeAurasFromSpell spell charges => [("spell", .word spell), ("charges", .word charges)]
  | .follow distance angle entry credit creditType =>
    [("distance", .word distance), ("angle", .word angle), ("entry", .word entry),
     ("credit", .word credit), ("credit_type", .word creditType)]
  | .randomPhase phases => [("phases", .words phases.toList)]
  | .randomPhaseRange min max => [("min", .word min), ("max", .word max)]
  | .resetGameObject => []
  | .callKilledMonster creature => [("creature", .word creature)]
  | .setInstanceData field data => [("field", .word field), ("data", .word data)]
  | .setInstanceData64 field => [("field", .word field)]
  | .updateTemplate creature team => [("creature", .word creature), ("team", .flag team)]
  | .die => []
  | .setInCombatWithZone => []
  | .callForHelp range withEmote => [("range", .word range), ("with_emote", .flag withEmote)]
  | .setSheath sheath => [("sheath", .word sheath)]
  | .forceDespawn delay => [("delay", .word delay)]
  | .setInvincibilityHpLevel minHp percent =>
    [("min_hp", .word minHp), ("percent", .word percent)]
  | .mountToEntryOrModel creature model => [("creature", .word creature), ("model", .word model)]
  | .setIngamePhaseMask mask => [("mask", .word mask)]
  | .setData field data => [("field", .word field), ("data", .word data)]
  | .moveForward distance => [("distance", .word distance)]
  | .setVisibility visible => [("visible", .flag visible)]
  | .setActive active => [("active", .flag active)]
  | .attackStart => []
  | .summonGameObject entry despawnTime =>
    [("entry", .word entry), ("despawn_time", .word despawnTime)]
  | .killUnit => []
  | .activateTaxi path => [("path", .word path)]
  | .waypointStart run path looped quest despawnTime reactState =>
    [("run", .flag run), ("path", .word path), ("repeat", .flag looped), ("quest", .word quest),
     ("despawn_time", .word despawnTime), ("react_state", .word reactState)]
  | .waypointPause delay => [("delay", .word delay)]
  | .waypointStop despawnTime quest fail =>
    [("despawn_time", .word despawnTime), ("quest", .word quest), ("fail", .flag fail)]
  | .addItem item count => [("item", .word item), ("count", .word count)]
  | .removeItem item count => [("item", .word item), ("count", .word count)]
  | .installAiTemplate template params =>
    [("template", .word template), ("params", .words params.toList)]
  | .setRun run => [("run", .flag run)]
  | .setFly fly => [("fly", .flag fly)]
  | .setSwim swim => [("swim", .flag swim)]
  | .teleport map => [("map", .word map)]
  | .setCounter counter value reset =>
    [("counter", .word counter), ("value", .word value), ("reset", .flag reset)]
  | .storeTargetList id => [("id", .word id)]
  | .waypointResume => []
  | .setOrientation => []
  | .createTimedEvent id timer recurring chance =>
    [("id", .word id), ("timer", .window timer), ("repeat", .window recurring),
     ("chance", .word chance)]
  | .playMovie movie => [("movie", .word movie)]
  | .moveToPos point => [("point", .word point)]
  | .respawnTarget => []
  | .equip entry mask slots =>
    [("entry", .word entry), ("mask", .word mask), ("slots", .words slots.toList)]
  | .closeGossip => []
  | .triggerTimedEvent id => [("id", .word id)]
  | .removeTimedEvent id => [("id", .word id)]
  | .addAura spell => [("spell", .word spell)]
  | .overrideScriptBaseObject => []
  | .resetScriptBaseObject => []
  | .callScriptReset => []
  | .setRangedMovement distance angle => [("distance", .word distance), ("angle", .word angle)]
  | .callTimedActionList id timerType allowOverride =>
    [("id", .word id), ("timer_type", .word timerType), ("allow_override", .flag allowOverride)]
  | .setNpcFlag flag => [("flag", .word flag)]
  | .addNpcFlag flag => [("flag", .word flag)]
  | .removeNpcFlag flag => [("flag", .word flag)]
  | .simpleTalk textGroup => [("text_group", .word textGroup)]
  | .invokerCast spell castFlags triggerFlags =>
    [("spell", .word spell), ("cast_flags", .word castFlags),
     ("trigger_flags", .word triggerFlags)]
  | .crossCast spell castFlags casterTargetType casterParams =>
    [("spell", .word spell), ("cast_flags", .word castFlags),
     ("caster_target_type", .word casterTargetType),
     ("caster_params", .words casterParams.toList)]
  | .callRandomTimedActionList lists => [("lists", .words lists.toList)]
  | .callRandomRangeTimedActionList first last => [("first", .word first), ("last", .word last)]
  | .randomMove distance => [("distance", .word distance)]
  | .setUnitFieldBytes1 value field => [("value", .word value), ("field", .word field)]
  | .removeUnitFieldBytes1 value field => [("value", .word value), ("field", .word field)]
  | .interruptSpell withDelayed spell instant =>
    [("with_delayed", .flag withDelayed), ("spell", .word spell), ("instant", .flag instant)]
  | .sendGoCustomAnim anim => [("anim", .word anim)]
  | .setDynamicFlag flag => [("flag", .word flag)]
  | .addDynamicFlag flag => [("flag", .word flag)]
  | .removeDynamicFlag flag => [("flag", .word flag)]
  | .jumpToPos speedXy speedZ => [("speed_xy", .word speedXy), ("speed_z", .word speedZ)]
  | .sendGossipMenu menu text => [("menu", .word menu), ("text", .word text)]
  | .goSetLootState state => [("state", .word state)]
  | .sendTargetToTarget id => [("id", .word id)]
  | .setHomePos => []
  | .setHealthRegen regen => [("regen", .flag regen)]
  | .setRoot root => [("root", .flag root)]
  | .setGoFlag flag => [("flag", .word flag)]
  | .addGoFlag flag => [("flag", .word flag)]
  | .removeGoFlag flag => [("flag", .word flag)]
  | .summonCreatureGroup group attackInvoker =>
    [("group", .word group), ("attack_invoker", .flag attackInvoker)]
  | .setPower powerType value => [("power_type", .word powerType), ("value", .word value)]
  | .addPower powerType value => [("power_type", .word powerType), ("value", .word value)]
  | .removePower powerType value => [("power_type", .word powerType), ("value", .word value)]
  | .gameEventStop gameEvent => [("game_event", .word gameEvent)]
  | .gameEventStart gameEvent => [("game_event", .word gameEvent)]
  | .startClosestWaypoint paths => [("paths", .words paths.toList)]
  | .randomSound sounds onlySelf =>
    [("sounds", .words sounds.toList), ("only_self", .flag onlySelf)]

end Action

end AiScript
