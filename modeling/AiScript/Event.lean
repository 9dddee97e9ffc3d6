import AiScript.Event.Kind
import AiScript.Field

/-!
# Events

An event is a kind together with the fields that the kind reads. Storage hands over five unnamed
slots; `decode` says what each of them means for a kind, and slots that a kind does not read are
dropped. A field that counts as true or false is true for every number but zero.
-/

namespace AiScript

/-- The five parameter slots of a stored event. -/
abbrev EventSlots := Vector UInt32 5

/-- An event with the fields of its kind. -/
inductive Event where
  | updateIc (timer : WindowPair)
  | updateOoc (timer : WindowPair)
  | healthPct (pct : WindowPair)
  | manaPct (pct : WindowPair)
  | aggro
  | kill (cooldown : Window) (playerOnly : Bool) (creature : UInt32)
  | death
  | evade
  | spellHit (spell school : UInt32) (cooldown : Window)
  | range (bounds : WindowPair)
  | oocLos (noHostile : Bool) (maxDist : UInt32) (cooldown : Window)
  | respawn (condition map area : UInt32)
  | targetHealthPct (pct : WindowPair)
  | victimCasting (recurring : Window) (spell : UInt32)
  | friendlyHealth (hpDeficit radius : UInt32) (recurring : Window)
  | friendlyIsCc (radius : UInt32) (recurring : Window)
  | friendlyMissingBuff (spell radius : UInt32) (recurring : Window)
  | summonedUnit (creature : UInt32) (cooldown : Window)
  | targetManaPct (pct : WindowPair)
  | acceptedQuest (quest : UInt32)
  | rewardQuest (quest : UInt32)
  | reachedHome
  | receiveEmote (emote : UInt32) (cooldown : Window)
  | hasAura (spell count : UInt32) (recurring : Window)
  | targetBuffed (spell count : UInt32) (recurring : Window)
  | reset
  | icLos (noHostile : Bool) (maxDist : UInt32) (cooldown : Window)
  | passengerBoarded (recurring : Window)
  | passengerRemoved (recurring : Window)
  | charmed (onRemove : Bool)
  | charmedTarget
  | spellHitTarget (spell school : UInt32) (cooldown : Window)
  | damaged (damage : WindowPair)
  | damagedTarget (damage : WindowPair)
  | movementInform (motionType point : UInt32)
  | summonDespawned (creature : UInt32) (cooldown : Window)
  | corpseRemoved
  | aiInit
  | dataSet (id value : UInt32) (cooldown : Window)
  | waypointStart (point path : UInt32)
  | waypointReached (point path : UInt32)
  | transportAddPlayer
  | transportAddCreature (creature : UInt32)
  | transportRemovePlayer
  | transportRelocate (point : UInt32)
  | instancePlayerEnter (team : UInt32) (cooldown : Window)
  | areaTriggerOnTrigger (trigger : UInt32)
  | questAccepted
  | questObjCompletion
  | questCompletion
  | questRewarded
  | questFail
  | textOver (textGroup creature : UInt32)
  | receiveHeal (heal : WindowPair)
  | justSummoned
  | waypointPaused (point path : UInt32)
  | waypointResumed (point path : UInt32)
  | waypointStopped (point path : UInt32)
  | waypointEnded (point path : UInt32)
  | timedEventTriggered (id : UInt32)
  | update (timer : WindowPair)
  | link
  | gossipSelect (menu option : UInt32)
  | justCreated
  | gossipHello
  | followCompleted
  | dummyEffect (spell effectIndex : UInt32)
  | isBehindTarget (cooldown : Window)
  | gameEventStart (gameEvent : UInt32)
  | gameEventEnd (gameEvent : UInt32)
  | goStateChanged (state : UInt32)
  | goEventInform (eventId : UInt32)
  | actionDone (eventId : UInt32)
  | onSpellClick
  | friendlyHealthPct (minHpPct maxHpPct : UInt32) (recurring : Window)
  | distanceCreature (guid entry distance recurring : UInt32)
  | distanceGameObject (guid entry distance recurring : UInt32)
  | counterSet (counter value : UInt32) (cooldown : Window)

namespace Event

/-- The kind of an event. -/
def kind : Event → Kind
  | .updateIc .. => .updateIc | .updateOoc .. => .updateOoc | .healthPct .. => .healthPct
  | .manaPct .. => .manaPct | .aggro => .aggro | .kill .. => .kill | .death => .death
  | .evade => .evade | .spellHit .. => .spellHit | .range .. => .range | .oocLos .. => .oocLos
  | .respawn .. => .respawn | .targetHealthPct .. => .targetHealthPct
  | .victimCasting .. => .victimCasting | .friendlyHealth .. => .friendlyHealth
  | .friendlyIsCc .. => .friendlyIsCc | .friendlyMissingBuff .. => .friendlyMissingBuff
  | .summonedUnit .. => .summonedUnit | .targetManaPct .. => .targetManaPct
  | .acceptedQuest .. => .acceptedQuest | .rewardQuest .. => .rewardQuest
  | .reachedHome => .reachedHome | .receiveEmote .. => .receiveEmote | .hasAura .. => .hasAura
  | .targetBuffed .. => .targetBuffed | .reset => .reset | .icLos .. => .icLos
  | .passengerBoarded .. => .passengerBoarded | .passengerRemoved .. => .passengerRemoved
  | .charmed .. => .charmed | .charmedTarget => .charmedTarget
  | .spellHitTarget .. => .spellHitTarget | .damaged .. => .damaged
  | .damagedTarget .. => .damagedTarget | .movementInform .. => .movementInform
  | .summonDespawned .. => .summonDespawned | .corpseRemoved => .corpseRemoved
  | .aiInit => .aiInit | .dataSet .. => .dataSet | .waypointStart .. => .waypointStart
  | .waypointReached .. => .waypointReached | .transportAddPlayer => .transportAddPlayer
  | .transportAddCreature .. => .transportAddCreature
  | .transportRemovePlayer => .transportRemovePlayer | .transportRelocate .. => .transportRelocate
  | .instancePlayerEnter .. => .instancePlayerEnter
  | .areaTriggerOnTrigger .. => .areaTriggerOnTrigger | .questAccepted => .questAccepted
  | .questObjCompletion => .questObjCompletion | .questCompletion => .questCompletion
  | .questRewarded => .questRewarded | .questFail => .questFail | .textOver .. => .textOver
  | .receiveHeal .. => .receiveHeal | .justSummoned => .justSummoned
  | .waypointPaused .. => .waypointPaused | .waypointResumed .. => .waypointResumed
  | .waypointStopped .. => .waypointStopped | .waypointEnded .. => .waypointEnded
  | .timedEventTriggered .. => .timedEventTriggered | .update .. => .update | .link => .link
  | .gossipSelect .. => .gossipSelect | .justCreated => .justCreated
  | .gossipHello => .gossipHello | .followCompleted => .followCompleted
  | .dummyEffect .. => .dummyEffect | .isBehindTarget .. => .isBehindTarget
  | .gameEventStart .. => .gameEventStart | .gameEventEnd .. => .gameEventEnd
  | .goStateChanged .. => .goStateChanged | .goEventInform .. => .goEventInform
  | .actionDone .. => .actionDone | .onSpellClick => .onSpellClick
  | .friendlyHealthPct .. => .friendlyHealthPct | .distanceCreature .. => .distanceCreature
  | .distanceGameObject .. => .distanceGameObject | .counterSet .. => .counterSet

/-- Where something has to be for its respawn to count. -/
inductive RespawnCondition where
  | anywhere | map | area
deriving DecidableEq

namespace RespawnCondition

/-- Every condition, by ascending code. -/
def all : List RespawnCondition := [.anywhere, .map, .area]

/-- The number of a condition in the slots of an event. -/
def code : RespawnCondition → UInt32
  | .anywhere => 0 | .map => 1 | .area => 2

/-- The name of a condition in answers. -/
def name : RespawnCondition → String
  | .anywhere => "None" | .map => "Map" | .area => "Area"

/-- The condition with a given code. A respawn event with any other code never happens. -/
def ofCode? (code : UInt32) : Option RespawnCondition :=
  all.find? fun condition => condition.code == code

end RespawnCondition

/-- The two windows that the first four slots spell. -/
def windows (p : EventSlots) : WindowPair := ⟨⟨p[0], p[1]⟩, ⟨p[2], p[3]⟩⟩

/-- Read the slots as the fields of a kind. -/
def decode (kind : Kind) (p : EventSlots) : Event :=
  match kind with
  | .updateIc => .updateIc (windows p)
  | .updateOoc => .updateOoc (windows p)
  | .healthPct => .healthPct (windows p)
  | .manaPct => .manaPct (windows p)
  | .aggro => .aggro
  | .kill => .kill ⟨p[0], p[1]⟩ (p[2] != 0) p[3]
  | .death => .death
  | .evade => .evade
  | .spellHit => .spellHit p[0] p[1] ⟨p[2], p[3]⟩
  | .range => .range (windows p)
  | .oocLos => .oocLos (p[0] != 0) p[1] ⟨p[2], p[3]⟩
  | .respawn => .respawn p[0] p[1] p[2]
  | .targetHealthPct => .targetHealthPct (windows p)
  | .victimCasting => .victimCasting ⟨p[0], p[1]⟩ p[2]
  | .friendlyHealth => .friendlyHealth p[0] p[1] ⟨p[2], p[3]⟩
  | .friendlyIsCc => .friendlyIsCc p[0] ⟨p[1], p[2]⟩
  | .friendlyMissingBuff => .friendlyMissingBuff p[0] p[1] ⟨p[2], p[3]⟩
  | .summonedUnit => .summonedUnit p[0] ⟨p[1], p[2]⟩
  | .targetManaPct => .targetManaPct (windows p)
  | .acceptedQuest => .acceptedQuest p[0]
  | .rewardQuest => .rewardQuest p[0]
  | .reachedHome => .reachedHome
  | .receiveEmote => .receiveEmote p[0] ⟨p[1], p[2]⟩
  | .hasAura => .hasAura p[0] p[1] ⟨p[2], p[3]⟩
  | .targetBuffed => .targetBuffed p[0] p[1] ⟨p[2], p[3]⟩
  | .reset => .reset
  | .icLos => .icLos (p[0] != 0) p[1] ⟨p[2], p[3]⟩
  | .passengerBoarded => .passengerBoarded ⟨p[0], p[1]⟩
  | .passengerRemoved => .passengerRemoved ⟨p[0], p[1]⟩
  | .charmed => .charmed (p[0] != 0)
  | .charmedTarget => .charmedTarget
  | .spellHitTarget => .spellHitTarget p[0] p[1] ⟨p[2], p[3]⟩
  | .damaged => .damaged (windows p)
  | .damagedTarget => .damagedTarget (windows p)
  | .movementInform => .movementInform p[0] p[1]
  | .summonDespawned => .summonDespawned p[0] ⟨p[1], p[2]⟩
  | .corpseRemoved => .corpseRemoved
  | .aiInit => .aiInit
  | .dataSet => .dataSet p[0] p[1] ⟨p[2], p[3]⟩
  | .waypointStart => .waypointStart p[0] p[1]
  | .waypointReached => .waypointReached p[0] p[1]
  | .transportAddPlayer => .transportAddPlayer
  | .transportAddCreature => .transportAddCreature p[0]
  | .transportRemovePlayer => .transportRemovePlayer
  | .transportRelocate => .transportRelocate p[0]
  | .instancePlayerEnter => .instancePlayerEnter p[0] ⟨p[1], p[2]⟩
  | .areaTriggerOnTrigger => .areaTriggerOnTrigger p[0]
  | .questAccepted => .questAccepted
  | .questObjCompletion => .questObjCompletion
  | .questCompletion => .questCompletion
  | .questRewarded => .questRewarded
  | .questFail => .questFail
  | .textOver => .textOver p[0] p[1]
  | .receiveHeal => .receiveHeal (windows p)
  | .justSummoned => .justSummoned
  | .waypointPaused => .waypointPaused p[0] p[1]
  | .waypointResumed => .waypointResumed p[0] p[1]
  | .waypointStopped => .waypointStopped p[0] p[1]
  | .waypointEnded => .waypointEnded p[0] p[1]
  | .timedEventTriggered => .timedEventTriggered p[0]
  | .update => .update (windows p)
  | .link => .link
  | .gossipSelect => .gossipSelect p[0] p[1]
  | .justCreated => .justCreated
  | .gossipHello => .gossipHello
  | .followCompleted => .followCompleted
  | .dummyEffect => .dummyEffect p[0] p[1]
  | .isBehindTarget => .isBehindTarget ⟨p[0], p[1]⟩
  | .gameEventStart => .gameEventStart p[0]
  | .gameEventEnd => .gameEventEnd p[0]
  | .goStateChanged => .goStateChanged p[0]
  | .goEventInform => .goEventInform p[0]
  | .actionDone => .actionDone p[0]
  | .onSpellClick => .onSpellClick
  | .friendlyHealthPct => .friendlyHealthPct p[0] p[1] ⟨p[2], p[3]⟩
  | .distanceCreature => .distanceCreature p[0] p[1] p[2] p[3]
  | .distanceGameObject => .distanceGameObject p[0] p[1] p[2] p[3]
  | .counterSet => .counterSet p[0] p[1] ⟨p[2], p[3]⟩

/-- The named fields of an event, in the order in which the slots spell them. -/
def fields : Event → List (String × Field)
  | .updateIc timer => [("timer", .windows timer)]
  | .updateOoc timer => [("timer", .windows timer)]
  | .healthPct pct => [("pct", .windows pct)]
  | .manaPct pct => [("pct", .windows pct)]
  | .aggro => []
  | .kill cooldown playerOnly creature =>
    [("cooldown", .window cooldown), ("player_only", .flag playerOnly),
     ("creature", .word creature)]
  | .death => []
  | .evade => []
  | .spellHit spell school cooldown =>
    [("spell", .word spell), ("school", .word school), ("cooldown", .window cooldown)]
  | .range bounds => [("range", .windows bounds)]
  | .oocLos noHostile maxDist cooldown =>
    [("no_hostile", .flag noHostile), ("max_dist", .word maxDist), ("cooldown", .window cooldown)]
  | .respawn condition map area =>
    [("condition", .word condition), ("map", .word map), ("area", .word area)]
  | .targetHealthPct pct => [("pct", .windows pct)]
  | .victimCasting recurring spell => [("repeat", .window recurring), ("spell", .word spell)]
  | .friendlyHealth hpDeficit radius recurring =>
    [("hp_deficit", .word hpDeficit), ("radius", .word radius), ("repeat", .window recurring)]
  | .friendlyIsCc radius recurring => [("radius", .word radius), ("repeat", .window recurring)]
  | .friendlyMissingBuff spell radius recurring =>
    [("spell", .word spell), ("radius", .word radius), ("repeat", .window recurring)]
  | .summonedUnit creature cooldown =>
    [("creature", .word creature), ("cooldown", .window cooldown)]
  | .targetManaPct pct => [("pct", .windows pct)]
  | .acceptedQuest quest => [("quest", .word quest)]
  | .rewardQuest quest => [("quest", .word quest)]
  | .reachedHome => []
  | .receiveEmote emote cooldown => [("emote", .word emote), ("cooldown", .window cooldown)]
  | .hasAura spell count recurring =>
    [("spell", .word spell), ("count", .word count), ("repeat", .window recurring)]
  | .targetBuffed spell count recurring =>
    [("spell", .word spell), ("count", .word count), ("repeat", .window recurring)]
  | .reset => []
  | .icLos noHostile maxDist cooldown =>
    [("no_hostile", .flag noHostile), ("max_dist", .word maxDist), ("cooldown", .window cooldown)]
  | .passengerBoarded recurring => [("repeat", .window recurring)]
  | .passengerRemoved recurring => [("repeat", .window recurring)]
  | .charmed onRemove => [("on_remove", .flag onRemove)]
  | .charmedTarget => []
  | .spellHitTarget spell school cooldown =>
    [("spell", .word spell), ("school", .word school), ("cooldown", .window cooldown)]
  | .damaged damage => [("damage", .windows damage)]
  | .damagedTarget damage => [("damage", .windows damage)]
  | .movementInform motionType point =>
    [("motion_type", .word motionType), ("point", .word point)]
  | .summonDespawned creature cooldown =>
    [("creature", .word creature), ("cooldown", .window cooldown)]
  | .corpseRemoved => []
  | .aiInit => []
  | .dataSet id value cooldown =>
    [("id", .word id), ("value", .word value), ("cooldown", .window cooldown)]
  | .waypointStart point path => [("point", .word point), ("path", .word path)]
  | .waypointReached point path => [("point", .word point), ("path", .word path)]
  | .transportAddPlayer => []
  | .transportAddCreature creature => [("creature", .word creature)]
  | .transportRemovePlayer => []
  | .transportRelocate point => [("point", .word point)]
  | .instancePlayerEnter team cooldown => [("team", .word team), ("cooldown", .window cooldown)]
  | .areaTriggerOnTrigger trigger => [("trigger", .word trigger)]
  | .questAccepted => []
  | .questObjCompletion => []
  | .questCompletion => []
  | .questRewarded => []
  | .questFail => []
  | .textOver textGroup creature =>
    [("text_group", .word textGroup), ("creature", .word creature)]
  | .receiveHeal heal => [("heal", .windows heal)]
  | .justSummoned => []
  | .waypointPaused point path => [("point", .word point), ("path", .word path)]
  | .waypointResumed point path => [("point", .word point), ("path", .word path)]
  | .waypointStopped point path => [("point", .word point), ("path", .word path)]
  | .waypointEnded point path => [("point", .word point), ("path", .word path)]
  | .timedEventTriggered id => [("id", .word id)]
  | .update timer => [("timer", .windows timer)]
  | .link => []
  | .gossipSelect menu option => [("menu", .word menu), ("option", .word option)]
  | .justCreated => []
  | .gossipHello => []
  | .followCompleted => []
  | .dummyEffect spell effectIndex =>
    [("spell", .word spell), ("effect_index", .word effectIndex)]
  | .isBehindTarget cooldown => [("cooldown", .window cooldown)]
  | .gameEventStart gameEvent => [("game_event", .word gameEvent)]
  | .gameEventEnd gameEvent => [("game_event", .word gameEvent)]
  | .goStateChanged state => [("state", .word state)]
  | .goEventInform eventId => [("event_id", .word eventId)]
  | .actionDone eventId => [("event_id", .word eventId)]
  | .onSpellClick => []
  | .friendlyHealthPct minHpPct maxHpPct recurring =>
    [("min_hp_pct", .word minHpPct), ("max_hp_pct", .word maxHpPct),
     ("repeat", .window recurring)]
  | .distanceCreature guid entry distance recurring =>
    [("guid", .word guid), ("entry", .word entry), ("distance", .word distance),
     ("repeat", .word recurring)]
  | .distanceGameObject guid entry distance recurring =>
    [("guid", .word guid), ("entry", .word entry), ("distance", .word distance),
     ("repeat", .word recurring)]
  | .counterSet counter value cooldown =>
    [("counter", .word counter), ("value", .word value), ("cooldown", .window cooldown)]

/-- The windows of an event that have to be ordered. -/
def orderedWindows : Event → List Window
  | .updateIc timer | .updateOoc timer | .update timer => timer.toList
  | .healthPct pct | .manaPct pct | .targetHealthPct pct | .targetManaPct pct => pct.toList
  | .range bounds => bounds.toList
  | .damaged damage | .damagedTarget damage => damage.toList
  | .receiveHeal heal => heal.toList
  | .kill cooldown _ _ | .isBehindTarget cooldown => [cooldown]
  | .spellHit _ _ cooldown | .spellHitTarget _ _ cooldown => [cooldown]
  | .oocLos _ _ cooldown | .icLos _ _ cooldown => [cooldown]
  | .summonedUnit _ cooldown | .summonDespawned _ cooldown => [cooldown]
  | .receiveEmote _ cooldown | .instancePlayerEnter _ cooldown => [cooldown]
  | .dataSet _ _ cooldown | .counterSet _ _ cooldown => [cooldown]
  | .victimCasting recurring _ | .friendlyIsCc _ recurring => [recurring]
  | .friendlyHealth _ _ recurring | .friendlyMissingBuff _ _ recurring => [recurring]
  | .hasAura _ _ recurring | .targetBuffed _ _ recurring => [recurring]
  | .passengerBoarded recurring | .passengerRemoved recurring => [recurring]
  | .friendlyHealthPct _ _ recurring => [recurring]
  | _ => []

/-- The fields of an event that are percentages. -/
def percentages : Event → List UInt32
  | .healthPct pct | .manaPct pct | .targetHealthPct pct | .targetManaPct pct =>
    [pct.initial.min, pct.initial.max]
  | .friendlyHealthPct minHpPct maxHpPct _ => [minHpPct, maxHpPct]
  | _ => []

end Event

end AiScript
