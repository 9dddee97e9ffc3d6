import AiScript.Check.Condition

/-!
# The event of a row

First come the modifiers that every event has, then the windows and percentages of the event, and
then what its own kind asks for. A timed action list runs on an out-of-combat timer, whatever kind
of event its rows name, so only its windows are looked at.
-/

namespace AiScript

/-- The greatest motion type that a rule can wait for. -/
def Event.greatestMotionType : UInt32 := 16

/-- The greatest number of an effect slot. -/
def Event.greatestEffectSlot : UInt32 := 2

/-- The greatest id that a rule waiting for a finished action can name. -/
def Event.greatestActionEvent : UInt32 := 1003

/-- What the modifiers of a row's event have to meet. -/
def Row.headerConditions (row : Row) (source : Source) (event : Event.Kind) : List Condition :=
  [ ⟨source == .timedActionList || event.allowedSources.meets source.toSet,
      .eventNotAllowed event source⟩,
    ⟨(PhaseMask.ofBits? row.phaseMask).isSome, .invalidPhaseMask row.phaseMask⟩,
    ⟨row.flags ≤ EventFlags.all.bits, .invalidFlags row.flags⟩,
    ⟨row.chance ≤ 100, .chanceOutOfRange row.chance⟩,
    ⟨row.link == 0 || row.link != row.id, .selfLink row.id⟩ ]

namespace Event

/-- What the kind of an event asks for, apart from ordered windows and percentages. -/
def kindConditions (catalog : Catalog) (source : Source) (owner : Int32) (target : Target.Kind)
    (event : Event) : List Condition :=
  match event with
  | .spellHit spell school _ | .spellHitTarget spell school _ =>
    if spell = 0 then []
    else
      let mask := ((catalog.spells.find? spell).map Spell.schoolMask).getD 0
      [ catalog.spellKnown spell,
        ⟨school == 0 || school &&& mask == mask, .schoolMismatch spell school⟩ ]
  | .respawn condition map area =>
    match RespawnCondition.ofCode? condition with
    | some .map => [.refersTo .map map (catalog.maps.contains map)]
    | some .area => [.refersTo .area area (catalog.areas.contains area)]
    | _ => []
  | .friendlyHealth _ radius _ => [.nonZero .radius radius]
  | .friendlyMissingBuff spell radius _ => [catalog.spellKnown spell, .nonZero .radius radius]
  | .kill _ _ creature | .summonedUnit creature _ | .summonDespawned creature _
  | .transportAddCreature creature => [catalog.creatureKnownOrNone creature]
  | .victimCasting _ spell => [.mayReferTo .spell spell (catalog.spells.contains spell)]
  | .acceptedQuest quest | .rewardQuest quest => [catalog.questKnownOrNone quest]
  | .receiveEmote emote _ => [.mayReferTo .textEmote emote (catalog.textEmotes.contains emote)]
  | .hasAura spell _ _ | .targetBuffed spell _ _ => [catalog.spellKnown spell]
  | .movementInform motionType _ => [.atMost .motionType motionType greatestMotionType]
  | .areaTriggerOnTrigger trigger =>
    [.mayReferTo .areaTrigger trigger (catalog.areaTriggers.contains trigger)]
  | .textOver textGroup _ => catalog.textKnown source owner event target textGroup
  | .dummyEffect spell effectIndex =>
    [catalog.spellKnown spell, .atMost .effectIndex effectIndex greatestEffectSlot]
  | .gameEventStart gameEvent | .gameEventEnd gameEvent => catalog.gameEventUsable gameEvent
  | .actionDone eventId => [.atMost .eventId eventId greatestActionEvent]
  | .friendlyHealthPct .. =>
    match target with
    | .creatureRange | .creatureGuid | .creatureDistance | .closestCreature | .closestPlayer
    | .playerRange | .playerDistance => []
    | other => [⟨false, .incompatibleTarget other⟩]
  | .distanceCreature guid entry _ _ =>
    Condition.exactlyOne .creature guid entry ++
      if guid != 0 then
        [.refersTo .creatureSpawn guid (catalog.creatures.spawns.contains guid)]
      else [catalog.creatureKnown entry]
  | .distanceGameObject guid entry _ _ =>
    Condition.exactlyOne .gameObject guid entry ++
      if guid != 0 then
        [.refersTo .gameObjectSpawn guid (catalog.gameObjects.spawns.contains guid)]
      else [catalog.gameObjectKnown entry]
  | .counterSet counter value _ => [.nonZero .counterId counter, .nonZero .counterValue value]
  | _ => []

/-- What an event has to meet. -/
def conditions (catalog : Catalog) (source : Source) (owner : Int32) (target : Target.Kind)
    (event : Event) : List Condition :=
  event.orderedWindows.map Condition.ordered ++ event.percentages.map Condition.percentage
    ++ event.kindConditions catalog source owner target

end Event

/-- The event that a row stands for. The rows of a timed action list all stand for a timer. -/
def Row.event (row : Row) (source : Source) (kind : Event.Kind) : Event :=
  if source = .timedActionList then .updateOoc (Event.windows row.eventSlots)
  else .decode kind row.eventSlots

/-- What the event of a row has to meet, modifiers included. -/
def Row.eventConditions (row : Row) (catalog : Catalog) (source : Source) (kind : Event.Kind)
    (target : Target.Kind) : List Condition :=
  row.headerConditions source kind ++
    (row.event source kind).conditions catalog source row.owner target

end AiScript
