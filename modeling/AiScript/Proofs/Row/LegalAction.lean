import AiScript.Proofs.Catalog.Growth
import AiScript.Proofs.Row.Bounds

/-!
# Which actions are accepted

The stored slots of an action are legal or not by the kind of the action. What that means is said
here slot by slot, without the fields that the slots are read into and without the conditions that
the fields have to meet; and a row passes the action stage exactly if its slots are legal. A kind
that is not named leaves its slots free.
-/

namespace AiScript

namespace Catalog

/-- A creature has a text of a group. Groups are numbered by one byte, and 0 is no creature. -/
def Speaks (catalog : Catalog) (creature group : UInt32) : Prop :=
  creature ≠ 0 ∧ group ≤ 255 ∧ catalog.creatureTexts.contains ⟨creature, group.toUInt8⟩ = true

/-- The creature that an owner key stands for: of a negative key that of the placed instance. -/
def IsOwner (catalog : Catalog) (key : Int32) (creature : UInt32) : Prop :=
  if key < 0 then
    ∃ spawn, catalog.creatures.spawns.find? (Owner.keyNumber key) = some spawn ∧
      spawn.entry = creature
  else Owner.keyNumber key = creature

/-- A quest is fulfilled by exploring or by an event. -/
def ExplorationQuest (catalog : Catalog) (id : UInt32) : Prop :=
  ∃ quest, catalog.quests.find? id = some quest ∧ quest.specialFlags &&& 2 ≠ 0

/-- A game event has a length or is a world event. -/
def UsableGameEvent (catalog : Catalog) (id : UInt32) : Prop :=
  ∃ event, catalog.gameEvents.find? id = some event ∧ (0 < event.length ∨ event.worldEvent = true)

end Catalog

namespace Row

/-- The text that a row has a creature speak is one of that creature. Only rules of creatures are
asked for it, and not if the target is some other creature that is picked later. -/
def HasText (catalog : Catalog) (row : Row) (kinds : RowKinds) (group : UInt32) : Prop :=
  kinds.source ≠ .creature ∨
    (kinds.event = .textOver ∧
      ∃ creature, row.eventSlots[1]? = some creature ∧ catalog.Speaks creature group) ∨
    (kinds.event ≠ .textOver ∧
      (kinds.target = .creatureRange ∨ kinds.target = .creatureDistance ∨
        kinds.target = .closestCreature ∨
        ∃ creature, catalog.IsOwner row.owner creature ∧ catalog.Speaks creature group))

/-- The numbers `a1` to `a6` are what a kind of action asks of the six slots of a row. -/
def LegalActionSlots (catalog : Catalog) (waypoints : Waypoints) (row : Row) (kinds : RowKinds)
    (a1 a2 a3 a4 a5 a6 : UInt32) : Prop :=
  match kinds.action with
  | .talk | .simpleTalk => row.HasText catalog kinds a1
  | .setFaction => a1 = 0 ∨ catalog.factions.contains a1
  | .morphToEntryOrModel | .mountToEntryOrModel =>
    (a1 = 0 ∨ catalog.creatures.templates.contains a1) ∧
      (a2 = 0 ∨ a1 = 0 ∧ catalog.displayModels.contains a2)
  | .sound => catalog.sounds.contains a1
  | .playEmote | .setEmoteState => catalog.emotes.contains a1
  | .activateTaxi => catalog.taxiPaths.contains a1
  | .teleport => catalog.maps.contains a1
  | .failQuest | .addQuest => a1 ≠ 0 ∧ catalog.quests.contains a1
  | .randomEmote =>
    ∀ emote ∈ [a1, a2, a3, a4, a5, a6], emote ≠ 0 → catalog.emotes.contains emote
  | .randomSound => ∀ sound ∈ [a1, a2, a3, a4, a5], sound ≠ 0 → catalog.sounds.contains sound
  | .cast | .addAura | .invokerCast => catalog.spells.contains a1
  | .removeAurasFromSpell => a1 = 0 ∨ catalog.spells.contains a1
  | .callAreaExploredOrEventHappens | .callGroupEventHappens => catalog.ExplorationQuest a1
  | .setEventPhase => a1 < 7
  | .incEventPhase => ¬ (a1 = 0 ∧ a2 = 0) ∧ a1 ≤ 7 ∧ a2 ≤ 7
  | .randomPhase => ∀ phase ∈ [a1, a2, a3, a4, a5, a6], phase < 7
  | .randomPhaseRange => a1 < 7 ∧ a2 < 7 ∧ a1 ≤ a2
  | .summonCreature => catalog.creatures.templates.contains a1 ∧ 1 ≤ a2 ∧ a2 ≤ 8
  | .callKilledMonster => catalog.creatures.templates.contains a1 ∧ kinds.target ≠ .position
  | .updateTemplate => catalog.creatures.templates.contains a1
  | .summonGameObject => catalog.gameObjects.templates.contains a1
  | .setSheath => a1 < 3
  | .setReactState => a1 ≤ 2
  | .addItem | .removeItem => catalog.items.contains a1 ∧ a2 ≠ 0
  | .setCounter => a1 ≠ 0 ∧ a2 ≠ 0
  | .installAiTemplate => a1 < 6
  | .waypointStop => a2 = 0 ∨ catalog.quests.contains a2
  | .waypointStart =>
    waypoints.containsPath a2 ∧ (a4 = 0 ∨ catalog.quests.contains a4) ∧ a6 ≤ 2
  | .createTimedEvent => a2 ≤ a3 ∧ a4 ≤ a5 ∧ a6 ≤ 100
  | .callRandomRangeTimedActionList => a1 ≤ a2
  | .setInvincibilityHpLevel => a2 ≤ 100
  | .setPower | .addPower | .removePower => a1 < 5
  | .gameEventStop | .gameEventStart => 1 ≤ a1 ∧ catalog.UsableGameEvent a1
  | .equip => kinds.source = .creature → a1 = 0 ∨ catalog.equipment.contains a1
  | _ => True

/-- The action slots of a row are legal for the kind of the action. -/
def HasLegalAction (catalog : Catalog) (waypoints : Waypoints) (row : Row) (kinds : RowKinds) :
    Prop :=
  ∃ a1 a2 a3 a4 a5 a6, row.actionSlots.toList = [a1, a2, a3, a4, a5, a6] ∧
    row.LegalActionSlots catalog waypoints kinds a1 a2 a3 a4 a5 a6

end Row

namespace Condition

variable {what : Reference} {quantity : Quantity} {id value greatest : UInt32} {known : Bool}

@[simp] theorem refersTo_holds : (refersTo what id known).holds = known := rfl

@[simp] theorem mayReferTo_holds :
    (mayReferTo what id known).holds = true ↔ id = 0 ∨ known = true := by
  simp [mayReferTo]

@[simp] theorem nonZero_holds : (nonZero quantity value).holds = true ↔ value ≠ 0 := by
  simp [nonZero]

@[simp] theorem atMost_holds :
    (atMost quantity value greatest).holds = true ↔ value ≤ greatest := by
  simp [atMost]

@[simp] theorem met_nil : Met [] := fun _ hnone => absurd hnone List.not_mem_nil

@[simp] theorem met_singleton_iff (condition : Condition) :
    Met [condition] ↔ condition.holds = true := List.forall_mem_singleton

/-- The conditions on the items of a list are met if each item meets its own. -/
theorem met_map_iff {α : Type} (items : List α) (condition : α → Condition) :
    Met (items.map condition) ↔ ∀ item ∈ items, (condition item).holds = true :=
  List.forall_mem_map

end Condition

/-- The action slots of a row are six numbers. -/
theorem Row.exists_actionSlots (row : Row) :
    ∃ a1 a2 a3 a4 a5 a6, row.actionSlots.toList = [a1, a2, a3, a4, a5, a6] := by
  obtain ⟨⟨slots⟩, hsize⟩ := row.actionSlots
  match slots, hsize with
  | [a1, a2, a3, a4, a5, a6], _ => exact ⟨a1, a2, a3, a4, a5, a6, rfl⟩

namespace Catalog

variable (catalog : Catalog)

@[simp] theorem spellKnown_holds (id : UInt32) :
    (catalog.spellKnown id).holds = catalog.spells.contains id := rfl

@[simp] theorem creatureKnown_holds (entry : UInt32) :
    (catalog.creatureKnown entry).holds = catalog.creatures.templates.contains entry := rfl

@[simp] theorem creatureKnownOrNone_holds (entry : UInt32) :
    (catalog.creatureKnownOrNone entry).holds = true ↔
      entry = 0 ∨ catalog.creatures.templates.contains entry = true :=
  Condition.mayReferTo_holds

@[simp] theorem gameObjectKnown_holds (entry : UInt32) :
    (catalog.gameObjectKnown entry).holds = catalog.gameObjects.templates.contains entry := rfl

@[simp] theorem gameObjectKnownOrNone_holds (entry : UInt32) :
    (catalog.gameObjectKnownOrNone entry).holds = true ↔
      entry = 0 ∨ catalog.gameObjects.templates.contains entry = true :=
  Condition.mayReferTo_holds

@[simp] theorem questKnown_holds (id : UInt32) :
    (catalog.questKnown id).holds = catalog.quests.contains id := rfl

@[simp] theorem questKnownOrNone_holds (id : UInt32) :
    (catalog.questKnownOrNone id).holds = true ↔ id = 0 ∨ catalog.quests.contains id = true :=
  Condition.mayReferTo_holds

/-- What is asked of a speaker is that it has the text. -/
theorem speaks_iff (creature group : UInt32) :
    (creature != 0 && catalog.hasCreatureText creature group) = true ↔
      catalog.Speaks creature group := by
  have hgroup : group < 256 ↔ group ≤ 255 := by
    rw [UInt32.lt_iff_toNat_lt, UInt32.le_iff_toNat_le]
    exact Nat.lt_succ_iff
  rw [hasCreatureText, Bool.and_eq_true, Bool.and_eq_true, bne_iff_ne, decide_eq_true_eq, hgroup,
    Speaks]

/-- The creature of an owner key is the one that the key is looked up as. -/
theorem isOwner_iff (key : Int32) (creature : UInt32) :
    catalog.IsOwner key creature ↔ catalog.creatures.entryOf? (.ofKey key) = some creature := by
  rw [IsOwner, Owner.ofKey]
  split
  · exact Option.map_eq_some_iff.symm
  · exact Option.some_inj.symm

/-- An owner that speaks has to be found, and to have the text. -/
theorem met_ownerSpeaks_iff (key : Int32) (group : UInt32) :
    let creature := catalog.creatures.entryOf? (.ofKey key)
    Condition.Met
        [.refersTo .creatureSpawn (Owner.keyNumber key) creature.isSome,
          .refersTo .creatureText group
            (creature.getD 0 != 0 && catalog.hasCreatureText (creature.getD 0) group)] ↔
      ∃ creature, catalog.IsOwner key creature ∧ catalog.Speaks creature group := by
  simp only [Condition.met_cons_iff, Condition.met_nil, and_true, Condition.refersTo_holds,
    speaks_iff, isOwner_iff]
  cases catalog.creatures.entryOf? (.ofKey key) with
  | none => simp
  | some creature => simp

/-- An event that is no finished text leaves the text to the owner, unless the target is another
creature. -/
theorem textKnown_of_ne {kind : Event.Kind} (h : kind ≠ .textOver) (slots : EventSlots)
    (key : Int32) (target : Target.Kind) (group : UInt32) :
    Condition.Met (catalog.textKnown .creature key (.decode kind slots) target group) ↔
      target = .creatureRange ∨ target = .creatureDistance ∨ target = .closestCreature ∨
        ∃ creature, catalog.IsOwner key creature ∧ catalog.Speaks creature group := by
  have hevent : catalog.textKnown .creature key (.decode kind slots) target group =
      catalog.textKnown .creature key .aggro target group := by
    cases kind
    case textOver => exact absurd rfl h
    all_goals rfl
  rw [hevent]
  cases target
  case creatureRange | creatureDistance | closestCreature =>
    exact iff_of_true Condition.met_nil (by simp)
  all_goals
    simp only [reduceCtorEq, false_or]
    exact catalog.met_ownerSpeaks_iff key group

/-- A quest that is fulfilled by exploring or by an event is known, and its flags say so. -/
theorem explorationQuest_iff (id : UInt32) :
    catalog.ExplorationQuest id ↔ catalog.quests.contains id = true ∧
      ((catalog.quests.find? id).any fun found =>
        found.specialFlags &&& Quest.explorationOrEvent != 0) = true := by
  rw [ExplorationQuest, Registry.contains]
  cases catalog.quests.find? id with
  | none => simp
  | some quest => simp [Quest.explorationOrEvent]

/-- A game event that has a length or is a world event can be used. -/
theorem met_gameEventUsable_iff (id : UInt32) :
    Condition.Met (catalog.gameEventUsable id) ↔ catalog.UsableGameEvent id := by
  rw [gameEventUsable, UsableGameEvent, Registry.contains, Condition.met_cons_iff,
    Condition.met_singleton_iff]
  cases catalog.gameEvents.find? id with
  | none => simp
  | some event => simp [GameEvent.isValid]

end Catalog

namespace Row

/-- The conditions on a text say that it is one of the creature that will speak it. -/
theorem met_textKnown_iff (row : Row) (catalog : Catalog) (kinds : RowKinds) (group : UInt32) :
    Condition.Met (catalog.textKnown kinds.source row.owner (row.event kinds.source kinds.event)
        kinds.target group) ↔ row.HasText catalog kinds group := by
  by_cases hsource : kinds.source = .creature
  · have hevent : row.event kinds.source kinds.event = .decode kinds.event row.eventSlots := by
      rw [Row.event, hsource, if_neg nofun]
    rw [hevent, hsource, HasText]
    by_cases hkind : kinds.event = .textOver
    · have hspeaker : catalog.textKnown .creature row.owner (.decode kinds.event row.eventSlots)
          kinds.target group = [.refersTo .creatureText group
            (row.eventSlots[1] != 0 && catalog.hasCreatureText row.eventSlots[1] group)] := by
        rw [hkind]
        rfl
      rw [hspeaker, Condition.met_singleton_iff, Condition.refersTo_holds, Catalog.speaks_iff]
      simp [hsource, hkind]
    · rw [catalog.textKnown_of_ne hkind]
      simp [hsource, hkind]
  · have hnone : catalog.textKnown kinds.source row.owner (row.event kinds.source kinds.event)
        kinds.target group = [] := by
      unfold Catalog.textKnown
      exact if_pos (bne_iff_ne.mpr hsource)
    rw [hnone]
    exact iff_of_true Condition.met_nil (.inl hsource)

/-- An action meets its conditions exactly if the slots that it is read from are legal. -/
theorem met_actionConditions_iff (row : Row) (catalog : Catalog) (waypoints : Waypoints)
    (kinds : RowKinds) {a1 a2 a3 a4 a5 a6 : UInt32}
    (hslots : row.actionSlots.toList = [a1, a2, a3, a4, a5, a6]) :
    Condition.Met ((row.action kinds).conditions catalog waypoints kinds.source row.owner
        (row.event kinds.source kinds.event) kinds.target) ↔
      row.LegalActionSlots catalog waypoints kinds a1 a2 a3 a4 a5 a6 := by
  have hvector : row.actionSlots = #v[a1, a2, a3, a4, a5, a6] := Vector.toList_inj.mp hslots
  have htext := row.met_textKnown_iff catalog kinds
  rw [Row.action, hvector]
  obtain ⟨source, event, action, target⟩ := kinds
  unfold LegalActionSlots
  cases action
  case talk | simpleTalk => exact htext a1
  case morphToEntryOrModel | mountToEntryOrModel =>
    simp [Action.decode, Action.conditions, or_and_left]
  case randomEmote | randomSound =>
    apply (Condition.met_map_iff _ _).trans
    simp only [Condition.mayReferTo_holds, or_iff_not_imp_left]
    rfl
  case randomPhase =>
    apply (Condition.met_map_iff _ _).trans
    simp only [Condition.phase_holds]
    rfl
  case callAreaExploredOrEventHappens | callGroupEventHappens =>
    apply Iff.trans ?_ (catalog.explorationQuest_iff _).symm
    simp [Action.decode, Action.conditions]
  case incEventPhase =>
    apply Condition.met_cons_iff.trans
    simp only [Condition.met_singleton_iff, decide_eq_true_eq, Bool.or_eq_true, bne_iff_ne,
      Action.greaterStep_le_iff]
    exact and_congr_left' Decidable.not_and_iff_or_not.symm
  case gameEventStop | gameEventStart =>
    simp [Action.decode, Action.conditions, catalog.met_gameEventUsable_iff]
  case equip =>
    by_cases hsource : source = .creature
    · simp [Action.decode, Action.conditions, hsource]
    · simp [Action.decode, Action.conditions, hsource]
  case setFaction | sound | playEmote | setEmoteState | activateTaxi | teleport | addItem |
      removeItem | failQuest | addQuest | waypointStop | cast | addAura | invokerCast |
      removeAurasFromSpell | callKilledMonster | updateTemplate | summonGameObject |
      setCounter | setEventPhase | randomPhaseRange | createTimedEvent |
      setInvincibilityHpLevel | callRandomRangeTimedActionList =>
    simp [Action.decode, Action.conditions]
  case summonCreature | waypointStart =>
    simp only [Action.decode, Action.conditions, Condition.met_cons_iff, Condition.met_nil,
      and_true, catalog.creatureKnown_holds, catalog.questKnownOrNone_holds,
      Condition.refersTo_holds, Condition.atMost_holds, Bool.and_eq_true, decide_eq_true_eq]
    rfl
  case setSheath | setReactState | installAiTemplate | setPower | addPower | removePower =>
    simp only [Action.decode, Action.conditions, Condition.met_singleton_iff, decide_eq_true_eq,
      Condition.atMost_holds]
    rfl
  all_goals exact iff_of_true Condition.met_nil trivial

end Row

end AiScript
