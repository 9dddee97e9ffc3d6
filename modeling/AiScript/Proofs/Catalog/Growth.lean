import AiScript.Check.Row
import AiScript.Proofs.Catalog.Registry

/-!
# Larger catalogs

A catalog is within a larger one if that knows all that it knows, and says the same of it. No
condition asks that something be unknown, so what is met against a catalog is met against a larger
one. Where a condition looks at a record, another before it asks that there be one, and then it is
the same record. There is one lemma for each stage at which a row is examined.
-/

namespace AiScript

namespace Condition

/-- Every condition of a list holds. -/
def Met (conditions : List Condition) : Prop := ∀ condition ∈ conditions, condition.holds = true

variable {first first' : Condition} {rest rest' : List Condition}

/-- A list is met if its first condition holds and the rest is met. -/
@[simp] theorem met_cons_iff : Met (first :: rest) ↔ first.holds = true ∧ Met rest :=
  List.forall_mem_cons

/-- One list follows from another, condition by condition. -/
theorem Met.cons_imp (hfirst : first.holds = true → first'.holds = true)
    (hrest : Met rest → Met rest') (h : Met (first :: rest)) : Met (first' :: rest') := by
  rw [met_cons_iff] at h ⊢
  exact h.imp hfirst hrest

/-- A list of one condition follows from another. -/
theorem Met.single_imp (hfirst : first.holds = true → first'.holds = true) (h : Met [first]) :
    Met [first'] :=
  h.cons_imp hfirst fun hnone => hnone

/-- One list follows from another, part by part. -/
theorem Met.append_imp {front front' : List Condition} (hfront : Met front → Met front')
    (hrest : Met rest → Met rest') (h : Met (front ++ rest)) : Met (front' ++ rest') := by
  rw [Met, List.forall_mem_append] at h ⊢
  exact h.imp hfront hrest

/-- A list follows from another that is made of the same things. -/
theorem Met.map_imp {α : Type} {items : List α} {condition condition' : α → Condition}
    (heach : ∀ item, (condition item).holds = true → (condition' item).holds = true)
    (h : Met (items.map condition)) : Met (items.map condition') := by
  rw [Met, List.forall_mem_map] at h ⊢
  exact fun item hitem => heach item (h item hitem)

/-- What need not be named is known if it is named, and the more so if more is known. -/
theorem mayReferTo_imp {what : Reference} {id : UInt32} {known known' : Bool}
    (h : known = true → known' = true) (hholds : (mayReferTo what id known).holds = true) :
    (mayReferTo what id known').holds = true := by
  simp only [mayReferTo, Bool.or_eq_true] at hholds ⊢
  exact hholds.imp_right h

end Condition

/-- Whatever a population has, the larger one has too. -/
structure Population.Within (population larger : Population) : Prop where
  templates : population.templates.Within larger.templates
  spawns : population.spawns.Within larger.spawns

/-- Whatever a catalog knows, the larger one knows too, and it says the same of it. -/
structure Catalog.Within (catalog larger : Catalog) : Prop where
  spells : catalog.spells.Within larger.spells
  creatures : catalog.creatures.Within larger.creatures
  gameObjects : catalog.gameObjects.Within larger.gameObjects
  quests : catalog.quests.Within larger.quests
  gameEvents : catalog.gameEvents.Within larger.gameEvents
  creatureTexts : ∀ {text}, catalog.creatureTexts.contains text = true →
    larger.creatureTexts.contains text = true
  factions : ∀ {id}, catalog.factions.contains id = true → larger.factions.contains id = true
  maps : ∀ {id}, catalog.maps.contains id = true → larger.maps.contains id = true
  areas : ∀ {id}, catalog.areas.contains id = true → larger.areas.contains id = true
  areaTriggers : ∀ {id}, catalog.areaTriggers.contains id = true →
    larger.areaTriggers.contains id = true
  sounds : ∀ {id}, catalog.sounds.contains id = true → larger.sounds.contains id = true
  emotes : ∀ {id}, catalog.emotes.contains id = true → larger.emotes.contains id = true
  textEmotes : ∀ {id}, catalog.textEmotes.contains id = true → larger.textEmotes.contains id = true
  items : ∀ {id}, catalog.items.contains id = true → larger.items.contains id = true
  equipment : ∀ {id}, catalog.equipment.contains id = true → larger.equipment.contains id = true
  taxiPaths : ∀ {id}, catalog.taxiPaths.contains id = true → larger.taxiPaths.contains id = true
  displayModels : ∀ {id}, catalog.displayModels.contains id = true →
    larger.displayModels.contains id = true

/-- Whatever paths there are, there are among more waypoints too. -/
def Waypoints.Within (waypoints larger : Waypoints) : Prop :=
  ∀ path, waypoints.containsPath path = true → larger.containsPath path = true

/-- An owner that is found is of the same template in a larger population. -/
theorem Population.Within.entryOf? {population larger : Population}
    (h : population.Within larger) {owner : Owner} {entry : UInt32}
    (hentry : population.entryOf? owner = some entry) : larger.entryOf? owner = some entry := by
  cases owner with
  | template number => exact hentry
  | spawn guid =>
    obtain ⟨spawn, hfound, hspawn⟩ := Option.map_eq_some_iff.mp hentry
    exact Option.map_eq_some_iff.mpr ⟨spawn, h.spawns guid spawn hfound, hspawn⟩

namespace Catalog.Within

open Condition (Met)

/-- A catalog is no larger than itself. -/
theorem refl (catalog : Catalog) : catalog.Within catalog where
  spells := .refl _
  creatures := ⟨.refl _, .refl _⟩
  gameObjects := ⟨.refl _, .refl _⟩
  quests := .refl _
  gameEvents := .refl _
  creatureTexts := fun htext => htext
  factions := fun hid => hid
  maps := fun hid => hid
  areas := fun hid => hid
  areaTriggers := fun hid => hid
  sounds := fun hid => hid
  emotes := fun hid => hid
  textEmotes := fun hid => hid
  items := fun hid => hid
  equipment := fun hid => hid
  taxiPaths := fun hid => hid
  displayModels := fun hid => hid

variable {catalog larger : Catalog} (h : catalog.Within larger)

include h

/-- A game event can still be used. -/
theorem gameEventUsable {id : UInt32} (hmet : Met (catalog.gameEventUsable id)) :
    Met (larger.gameEventUsable id) :=
  hmet.cons_imp h.gameEvents.contains (Met.single_imp h.gameEvents.any)

/-- The speaker of a text is the same in a larger catalog, and still has the text. -/
theorem textKnown {source : Source} {owner : Int32} {event : Event} {target : Target.Kind}
    {group : UInt32} (hmet : Met (catalog.textKnown source owner event target group)) :
    Met (larger.textKnown source owner event target group) := by
  have hspeaker {speaker : UInt32}
      (hknown : (speaker != 0 && catalog.hasCreatureText speaker group) = true) :
      (speaker != 0 && larger.hasCreatureText speaker group) = true := by
    simp only [Catalog.hasCreatureText, Bool.and_eq_true] at hknown ⊢
    exact ⟨hknown.1, hknown.2.1, h.creatureTexts hknown.2.2⟩
  revert hmet
  unfold Catalog.textKnown
  dsimp only
  split
  · exact fun hmet => hmet
  split
  · exact Met.single_imp hspeaker
  split
  case h_4 =>
    -- the owner speaks, and the first condition says that there is one
    intro hmet
    obtain ⟨howner, hknown⟩ := Condition.met_cons_iff.mp hmet
    obtain ⟨entry, hentry⟩ := Option.isSome_iff_exists.mp howner
    have hentry' := h.creatures.entryOf? hentry
    rw [hentry] at hmet
    rw [hentry']
    exact hmet.cons_imp (fun hsome => hsome) (Met.single_imp hspeaker)
  all_goals exact fun hmet => hmet

end Catalog.Within

open Condition (Met mayReferTo_imp)

variable {catalog larger : Catalog}

/-- An owner that is driven is driven in a larger population. -/
theorem Population.Within.drives {population larger : Population} (h : population.Within larger)
    {spawn template : Reference} {driver : String} {owner : Owner}
    (hmet : Met (population.drives spawn template driver owner)) :
    Met (larger.drives spawn template driver owner) := by
  cases hentry : population.entryOf? owner with
  | none =>
    -- without an entry there is no template to find
    unfold Population.drives at hmet
    rw [Met, List.forall_mem_append, hentry] at hmet
    exact absurd (hmet.2 _ List.mem_cons_self) Bool.false_ne_true
  | some entry =>
    have hentry' := h.entryOf? hentry
    unfold Population.drives at hmet ⊢
    simp only [hentry, hentry', Option.bind_some] at hmet ⊢
    exact hmet.append_imp (fun hspawn => hspawn)
      fun htemplate => htemplate.cons_imp h.templates.contains (Met.single_imp h.templates.any)

/-- The owner of a rule still meets what it has to. -/
theorem Catalog.Within.ownerConditions (h : catalog.Within larger) {source : Source} {key : Int32}
    (hmet : Met (catalog.ownerConditions source key)) :
    Met (larger.ownerConditions source key) := by
  cases source with
  | creature => exact h.creatures.drives hmet
  | gameObject => exact h.gameObjects.drives hmet
  | areaTrigger => exact hmet.cons_imp (fun hsign => hsign) (Met.single_imp h.areaTriggers)
  | timedActionList => exact hmet

/-- The target of a rule still meets what it has to. -/
theorem Target.Selection.conditions_mono (h : catalog.Within larger) {action : Action.Kind}
    {selection : Target.Selection} (hmet : Met (selection.conditions catalog action)) :
    Met (selection.conditions larger action) := by
  revert hmet
  unfold conditions
  split
  · exact fun hmet => hmet
  cases selection
  case creatureRange | creatureDistance | creatureGuid =>
    exact Met.single_imp (mayReferTo_imp h.creatures.templates.contains)
  case gameObjectRange | gameObjectDistance | gameObjectGuid =>
    exact Met.single_imp (mayReferTo_imp h.gameObjects.templates.contains)
  all_goals exact fun hmet => hmet

namespace Event

variable {source : Source} {owner : Int32} {target : Target.Kind} {event : Event}

/-- What the kind of an event asks for is still met. -/
theorem kindConditions_mono (h : catalog.Within larger)
    (hmet : Met (event.kindConditions catalog source owner target)) :
    Met (event.kindConditions larger source owner target) := by
  revert hmet
  cases event
  case spellHit spell school cooldown | spellHitTarget spell school cooldown =>
    by_cases hnone : spell = 0
    · simp only [kindConditions, if_pos hnone, imp_self]
    simp only [kindConditions, if_neg hnone]
    intro hmet
    -- the mask is that of the same spell
    rw [h.spells.find?_eq (Condition.met_cons_iff.mp hmet).1]
    exact hmet.cons_imp h.spells.contains fun hrest => hrest
  case respawn condition map area =>
    simp only [kindConditions]
    split
    · exact Met.single_imp h.maps
    · exact Met.single_imp h.areas
    · exact fun hmet => hmet
  case friendlyMissingBuff => exact fun hmet => hmet.cons_imp h.spells.contains fun hrest => hrest
  case kill | summonedUnit | summonDespawned | transportAddCreature =>
    exact Met.single_imp (mayReferTo_imp h.creatures.templates.contains)
  case victimCasting => exact Met.single_imp (mayReferTo_imp h.spells.contains)
  case acceptedQuest | rewardQuest => exact Met.single_imp (mayReferTo_imp h.quests.contains)
  case receiveEmote => exact Met.single_imp (mayReferTo_imp h.textEmotes)
  case hasAura | targetBuffed => exact Met.single_imp h.spells.contains
  case areaTriggerOnTrigger => exact Met.single_imp (mayReferTo_imp h.areaTriggers)
  case textOver =>
    simp only [kindConditions]
    exact h.textKnown
  case dummyEffect => exact fun hmet => hmet.cons_imp h.spells.contains fun hrest => hrest
  case gameEventStart | gameEventEnd => exact h.gameEventUsable
  case distanceCreature guid entry distance recurring =>
    refine Met.append_imp (fun hmet => hmet) ?_
    split
    · exact Met.single_imp h.creatures.spawns.contains
    · exact Met.single_imp h.creatures.templates.contains
  case distanceGameObject guid entry distance recurring =>
    refine Met.append_imp (fun hmet => hmet) ?_
    split
    · exact Met.single_imp h.gameObjects.spawns.contains
    · exact Met.single_imp h.gameObjects.templates.contains
  all_goals exact fun hmet => hmet

/-- The event of a rule still meets what it has to. -/
theorem conditions_mono (h : catalog.Within larger)
    (hmet : Met (event.conditions catalog source owner target)) :
    Met (event.conditions larger source owner target) :=
  hmet.append_imp (fun hordered => hordered) (kindConditions_mono h)

end Event

/-- The action of a rule still meets what it has to. -/
theorem Action.conditions_mono {waypoints more : Waypoints} (h : catalog.Within larger)
    (hpaths : waypoints.Within more) {source : Source} {owner : Int32} {event : Event}
    {target : Target.Kind} {action : Action}
    (hmet : Met (action.conditions catalog waypoints source owner event target)) :
    Met (action.conditions larger more source owner event target) := by
  revert hmet
  cases action
  case talk | simpleTalk => exact h.textKnown
  case setFaction => exact Met.single_imp (mayReferTo_imp h.factions)
  case morphToEntryOrModel | mountToEntryOrModel =>
    exact fun hmet => hmet.cons_imp (mayReferTo_imp h.creatures.templates.contains) fun hrest =>
      hrest.cons_imp (fun hone => hone) (Met.single_imp (mayReferTo_imp h.displayModels))
  case sound => exact Met.single_imp h.sounds
  case playEmote | setEmoteState => exact Met.single_imp h.emotes
  case failQuest | addQuest =>
    exact fun hmet => hmet.cons_imp (fun hgiven => hgiven) (Met.single_imp h.quests.contains)
  case activateTaxi => exact Met.single_imp h.taxiPaths
  case randomEmote => exact Met.map_imp fun emote => mayReferTo_imp h.emotes
  case randomSound => exact Met.map_imp fun emote => mayReferTo_imp h.sounds
  case cast | addAura | invokerCast => exact Met.single_imp h.spells.contains
  case callAreaExploredOrEventHappens | callGroupEventHappens =>
    exact fun hmet => hmet.cons_imp h.quests.contains (Met.single_imp h.quests.any)
  case removeAurasFromSpell => exact Met.single_imp (mayReferTo_imp h.spells.contains)
  case summonCreature | callKilledMonster | updateTemplate =>
    exact fun hmet => hmet.cons_imp h.creatures.templates.contains fun hrest => hrest
  case summonGameObject => exact Met.single_imp h.gameObjects.templates.contains
  case addItem | removeItem => exact fun hmet => hmet.cons_imp h.items fun hrest => hrest
  case teleport => exact Met.single_imp h.maps
  case waypointStop => exact Met.single_imp (mayReferTo_imp h.quests.contains)
  case waypointStart =>
    exact fun hmet => hmet.cons_imp (hpaths _) fun hrest =>
      hrest.cons_imp (mayReferTo_imp h.quests.contains) fun hstate => hstate
  case gameEventStop | gameEventStart =>
    exact fun hmet => hmet.cons_imp (fun hpositive => hpositive) h.gameEventUsable
  case equip =>
    simp only [conditions]
    split
    · exact Met.single_imp (mayReferTo_imp h.equipment)
    · exact fun hmet => hmet
  all_goals exact fun hmet => hmet

end AiScript
