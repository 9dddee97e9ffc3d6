import AiScript.Check.Run

/-!
# The action of a row

What each kind of action asks of its fields, of the catalog and of the waypoint paths. On the way,
warnings are raised about actions that are redundant because a spell already does the same, and
about spells that give their caster credit for a kill.
-/

namespace AiScript

namespace Action

/-- The greatest way of summoning; the least one is 1. -/
def greatestSummonType : UInt32 := 8

/-- States of sheathed weapons are numbered below this. -/
def sheathStateEnd : UInt32 := 3

/-- The greatest way of reacting to others. -/
def greatestReactState : UInt32 := 2

/-- AI templates are numbered below this. -/
def aiTemplateEnd : UInt32 := 6

/-- Kinds of power are numbered below this. -/
def powerTypeEnd : UInt32 := 5

/-- The implicit target of a spell effect that is the caster. -/
def casterTarget : UInt32 := 1

end Action

/-- The flag of quests that are fulfilled by exploring or by an event. -/
def Quest.explorationOrEvent : UInt32 := 2

/-- What a catalog and the waypoint paths have to offer for an action to be sound. The event and the
kind of target tell who will speak the texts. -/
def Action.conditions (catalog : Catalog) (waypoints : Waypoints) (source : Source) (owner : Int32)
    (event : Event) (target : Target.Kind) (action : Action) : List Condition :=
  match action with
  | .talk textGroup _ _ | .simpleTalk textGroup =>
    catalog.textKnown source owner event target textGroup
  | .setFaction faction => [.mayReferTo .faction faction (catalog.factions.contains faction)]
  | .morphToEntryOrModel creature model | .mountToEntryOrModel creature model =>
    [ catalog.creatureKnownOrNone creature,
      ⟨model == 0 || creature == 0, .bothAlternatives .appearance⟩,
      .mayReferTo .displayModel model (catalog.displayModels.contains model) ]
  | .sound soundId _ => [.refersTo .sound soundId (catalog.sounds.contains soundId)]
  | .playEmote emote | .setEmoteState emote =>
    [.refersTo .emote emote (catalog.emotes.contains emote)]
  | .failQuest quest | .addQuest quest => [.nonZero .quest quest, catalog.questKnown quest]
  | .activateTaxi path => [.refersTo .taxiPath path (catalog.taxiPaths.contains path)]
  | .randomEmote emotes =>
    emotes.toList.map fun emote => .mayReferTo .emote emote (catalog.emotes.contains emote)
  | .randomSound sounds _ =>
    sounds.toList.map fun sound => .mayReferTo .sound sound (catalog.sounds.contains sound)
  | .cast spell _ _ | .addAura spell | .invokerCast spell _ _ => [catalog.spellKnown spell]
  | .callAreaExploredOrEventHappens quest | .callGroupEventHappens quest =>
    [ catalog.questKnown quest,
      ⟨(catalog.quests.find? quest).any fun found =>
        found.specialFlags &&& Quest.explorationOrEvent != 0, .questWithoutEvent quest⟩ ]
  | .setEventPhase phase => [.phase phase]
  | .incEventPhase inc dec =>
    let step := if inc < dec then dec else inc
    [ ⟨inc != 0 || dec != 0, .zeroQuantity .phaseStep⟩,
      ⟨step ≤ PhaseMask.phaseEnd, .phaseOutOfRange step⟩ ]
  | .removeAurasFromSpell spell _ => [.mayReferTo .spell spell (catalog.spells.contains spell)]
  | .randomPhase phases => phases.toList.map .phase
  | .randomPhaseRange min max => [.phase min, .phase max, .ordered ⟨min, max⟩]
  | .summonCreature creature summonType _ _ _ =>
    [ catalog.creatureKnown creature,
      ⟨1 ≤ summonType && summonType ≤ greatestSummonType,
        .invalidQuantity .summonType summonType⟩ ]
  | .callKilledMonster creature =>
    [ catalog.creatureKnown creature,
      ⟨target != .position, .incompatibleTarget .position⟩ ]
  | .updateTemplate creature _ => [catalog.creatureKnown creature]
  | .setSheath sheath => [⟨sheath < sheathStateEnd, .invalidQuantity .sheathState sheath⟩]
  | .setReactState state => [.atMost .reactState state greatestReactState]
  | .summonGameObject entry _ => [catalog.gameObjectKnown entry]
  | .addItem item count | .removeItem item count =>
    [.refersTo .item item (catalog.items.contains item), .nonZero .itemCount count]
  | .teleport map => [.refersTo .map map (catalog.maps.contains map)]
  | .setCounter counter value _ => [.nonZero .counterId counter, .nonZero .counterValue value]
  | .installAiTemplate template _ =>
    [⟨template < aiTemplateEnd, .invalidQuantity .aiTemplate template⟩]
  | .waypointStop _ quest _ => [catalog.questKnownOrNone quest]
  | .waypointStart _ path _ quest _ reactState =>
    [ .refersTo .waypointPath path (waypoints.containsPath path),
      catalog.questKnownOrNone quest,
      .atMost .reactState reactState greatestReactState ]
  | .createTimedEvent _ timer recurring chance =>
    [.ordered timer, .ordered recurring, .percentage chance]
  | .callRandomRangeTimedActionList first last => [.ordered ⟨first, last⟩]
  | .setInvincibilityHpLevel _ percent => [.percentage percent]
  | .setPower powerType _ | .addPower powerType _ | .removePower powerType _ =>
    [⟨powerType < powerTypeEnd, .invalidQuantity .powerType powerType⟩]
  | .gameEventStop gameEvent | .gameEventStart gameEvent =>
    ⟨1 ≤ gameEvent, .invalidQuantity .gameEvent gameEvent⟩ :: catalog.gameEventUsable gameEvent
  | .equip entry _ _ =>
    if source = .creature then
      [.mayReferTo .equipment entry (catalog.equipment.contains entry)]
    else []
  | _ => []

/-- One warning for each effect slot that already produces an entity. -/
def SpellIndex.redundancies (index : SpellIndex) (helper : Helper) (entity : UInt32) :
    List Warning :=
  (index.lookup helper entity).map fun slot => .redundantEffect helper entity slot

/-- One warning for each effect slot of a spell that gives its caster credit for a kill. -/
def Spell.casterCredits (spell : Spell) : List Warning :=
  (spell.slots.filter fun slot =>
    slot.2.effect == Helper.killCredit.effectCode
      && slot.2.implicitTargetA == Action.casterTarget).map fun slot =>
    .killCreditTargetsCaster slot.1

/-- Warn of an action that spells make redundant, if such warnings are asked for. -/
def Check.noteRedundant (world : Surroundings) (helper : Helper) (entity : UInt32) : Check Unit :=
  if world.warnRedundant then warn (world.index.redundancies helper entity) else pure ()

/-- Check an action. Once what it acts on is known, it is noted whether the action is redundant, and
the conditions that are left come after that. Of actions that call for no warning, the conditions
are tried in order. -/
def Action.check (world : Surroundings) (source : Source) (owner : Int32) (event : Event)
    (target : Target.Kind) (action : Action) : Check Unit :=
  let catalog := world.catalog
  match action with
  | .cast spell _ _ =>
    match catalog.spells.find? spell with
    | none => throw (.missingReference .spell spell)
    | some found => Check.warn found.casterCredits
  | .summonCreature creature summonType _ _ _ => do
    Check.require (catalog.creatureKnown creature)
    Check.noteRedundant world .summonCreature creature
    Check.require ⟨1 ≤ summonType && summonType ≤ greatestSummonType,
      .invalidQuantity .summonType summonType⟩
  | .callKilledMonster creature => do
    Check.require (catalog.creatureKnown creature)
    Check.noteRedundant world .killCredit creature
    Check.require ⟨target != .position, .incompatibleTarget .position⟩
  | .summonGameObject entry _ => do
    Check.require (catalog.gameObjectKnown entry)
    Check.noteRedundant world .summonGameObject entry
    return ()
  | .addItem item count => do
    Check.require (.refersTo .item item (catalog.items.contains item))
    Check.noteRedundant world .createItem item
    Check.require (.nonZero .itemCount count)
  | _ => Check.requireAll (action.conditions catalog world.waypoints source owner event target)

end AiScript
