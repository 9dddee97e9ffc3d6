import AiScript.Proofs.Row.Decoding
import AiScript.Proofs.Row.Speaker
import AiScript.Proofs.Row.Stages

/-!
# Which stage gives which reason

A reason is read off the first broken condition, so what a stage can say is what stands in its list
of conditions. Two reasons are singled out. That an id is taken is nothing that a row can be found
to be at fault for by itself, and no stage says it. That a placed creature is missing could be said
of the owner when a text is looked for; but the owner has been found by then, and so it is only ever
said of the creature whose distance an event waits for.
-/

namespace AiScript

/-- Does a reason say neither that an id is taken nor that a placed creature is missing? -/
def Rejection.isUsual : Rejection → Bool
  | .duplicateId _ | .missingReference .creatureSpawn _ => false
  | _ => true

namespace Condition

/-- No condition is broken for an unusual reason. -/
def Usual (conditions : List Condition) : Prop :=
  ∀ condition ∈ conditions, condition.holds = false → condition.otherwise.isUsual = true

variable {conditions : List Condition} {reason : Rejection}

/-- Conditions that are there for usual reasons are broken for usual reasons. -/
theorem usual_of_all (h : (conditions.all fun condition => condition.otherwise.isUsual) = true) :
    Usual conditions :=
  fun condition hcondition _ => List.all_eq_true.mp h condition hcondition

/-- Conditions on the items of a list are usual if each is there for a usual reason. -/
theorem usual_map {α : Type} {condition : α → Condition}
    (h : ∀ item, (condition item).otherwise.isUsual = true) (items : List α) :
    Usual (items.map condition) :=
  List.forall_mem_map.mpr fun item _ _ => h item

/-- Conditions are usual if those in front and those behind are. -/
theorem Usual.append {front rest : List Condition} (hfront : Usual front) (hrest : Usual rest) :
    Usual (front ++ rest) :=
  List.forall_mem_append.mpr ⟨hfront, hrest⟩

/-- Where usual conditions come first, either the reason is usual or the others are not met. -/
theorem Usual.isUsual_or {front rest : List Condition} (hfront : Usual front)
    (h : verdict (front ++ rest) = .error reason) :
    reason.isUsual = true ∨ verdict rest = .error reason := by
  induction front with
  | nil => exact .inr h
  | cons condition front ih =>
    obtain ⟨hcondition, hfront⟩ := List.forall_mem_cons.mp hfront
    rw [List.cons_append, verdict] at h
    by_cases hholds : condition.holds = true
    · rw [if_pos hholds] at h
      exact ih hfront h
    · rw [if_neg hholds] at h
      cases h
      exact .inl (hcondition (Bool.eq_false_iff.mpr hholds))

/-- Usual conditions are not met for a usual reason. -/
theorem Usual.isUsual (h : Usual conditions) (hverdict : verdict conditions = .error reason) :
    reason.isUsual = true := by
  rw [← List.append_nil conditions] at hverdict
  obtain husual | hnone := h.isUsual_or hverdict
  · exact husual
  · cases hnone

end Condition

open Condition (Usual usual_of_all usual_map)

/-- A code that is that of no source is reported for a usual reason. -/
theorem Source.isUsual_of_decode_eq_error {code : UInt8} {reason : Rejection}
    (h : decode code = .error reason) : reason.isUsual = true := by
  rw [decode] at h
  split at h
  · cases h
  · split at h <;> cases h <;> rfl

/-- What is asked of an owner is asked for usual reasons. -/
theorem Catalog.usual_ownerConditions (catalog : Catalog) (source : Source) (key : Int32) :
    Usual (catalog.ownerConditions source key) := by
  have hdrives : ∀ (population : Population) (owner : Owner) (spawn template : Reference)
      (driver : String), Usual (population.drives spawn template driver owner) := by
    intro population owner spawn template driver
    cases owner <;> exact usual_of_all rfl
  cases source with
  | creature => exact hdrives catalog.creatures (.ofKey key) _ _ _
  | gameObject => exact hdrives catalog.gameObjects (.ofKey key) _ _ _
  | areaTrigger => exact usual_of_all rfl
  | timedActionList => exact usual_of_all rfl

/-- What is asked of a target is asked for usual reasons. -/
theorem Target.Selection.usual_conditions (catalog : Catalog) (action : Action.Kind)
    (selection : Selection) : Usual (selection.conditions catalog action) := by
  unfold conditions
  split
  · exact usual_of_all rfl
  · cases selection <;> exact usual_of_all rfl

/-- What is asked of the modifiers of an event is asked for usual reasons. -/
theorem Row.usual_headerConditions (row : Row) (source : Source) (event : Event.Kind) :
    Usual (row.headerConditions source event) :=
  usual_of_all rfl

namespace Catalog

variable {catalog : Catalog} {source : Source} {key : Int32}

/-- Where the owner is found, a text is not missing for want of a speaker. -/
theorem usual_textKnown (howner : source = .creature → ∃ creature, catalog.IsOwner key creature)
    (event : Event) (target : Target.Kind) (group : UInt32) :
    Usual (catalog.textKnown source key event target group) := by
  by_cases hsource : source = .creature
  · obtain ⟨creature, hcreature⟩ := howner hsource
    rw [hsource]
    by_cases hevent : event.kind = .textOver
    · cases event <;> cases hevent
      exact usual_of_all rfl
    · by_cases htarget : target ∈ Target.Kind.pickedCreatures
      · rw [textKnown_eq_aggro hevent]
        cases target
        case creatureRange | creatureDistance | closestCreature => exact usual_of_all rfl
        all_goals exact absurd htarget (by decide)
      · rw [textKnown_of_isOwner hcreature hevent htarget]
        exact List.forall_mem_cons.mpr ⟨nofun, usual_of_all rfl⟩
  · unfold textKnown
    rw [if_pos (bne_iff_ne.mpr hsource)]
    exact usual_of_all rfl

end Catalog

namespace Event

variable {catalog : Catalog} {source : Source} {key : Int32} {target : Target.Kind}

/-- What is asked of an event is asked for usual reasons, unless it waits for the distance of a
placed creature. -/
theorem usual_kindConditions {event : Event} (h : event.kind ≠ .distanceCreature) :
    Usual (event.kindConditions catalog source key target) := by
  cases event
  case distanceCreature => exact absurd rfl h
  case spellHit spell school _ | spellHitTarget spell school _ =>
    rw [kindConditions]
    split <;> exact usual_of_all rfl
  case respawn condition map area =>
    rw [kindConditions]
    split <;> exact usual_of_all rfl
  case textOver =>
    cases source <;> exact usual_of_all rfl
  case friendlyHealthPct =>
    cases target <;> exact usual_of_all rfl
  case distanceGameObject guid entry _ _ =>
    rw [kindConditions]
    split <;> exact usual_of_all rfl
  all_goals exact usual_of_all rfl

/-- Of an event that waits for the distance of a creature, a placed creature can be missing. -/
theorem reason_of_distanceCreature {guid entry distance recurring : UInt32} {reason : Rejection}
    (h : Condition.verdict ((distanceCreature guid entry distance recurring).kindConditions catalog
      source key target) = .error reason) :
    reason.isUsual = true ∨ (guid ≠ 0 ∧ reason = .missingReference .creatureSpawn guid) := by
  have hgiven : Usual (Condition.exactlyOne .creature guid entry) := usual_of_all rfl
  have hentry : Usual [catalog.creatureKnown entry] := usual_of_all rfl
  obtain husual | hknown := hgiven.isUsual_or h
  · exact .inl husual
  split at hknown
  next hguid =>
    rw [Condition.verdict] at hknown
    split at hknown
    · cases hknown
    · exact .inr ⟨bne_iff_ne.mp hguid, (Except.error.inj hknown).symm⟩
  next => exact .inl (hentry.isUsual hknown)

end Event

/-- What is asked of an action is asked for usual reasons, where the owner is found. -/
theorem Action.usual_conditions {catalog : Catalog} {waypoints : Waypoints} {source : Source}
    {key : Int32} (howner : source = .creature → ∃ creature, catalog.IsOwner key creature)
    (event : Event) (target : Target.Kind) (action : Action) :
    Usual (action.conditions catalog waypoints source key event target) := by
  cases action
  case talk group _ _ | simpleTalk group => exact Catalog.usual_textKnown howner event target group
  case randomEmote | randomSound | randomPhase => exact usual_map (fun _ => rfl) _
  case equip =>
    rw [conditions]
    split <;> exact usual_of_all rfl
  all_goals exact usual_of_all rfl

namespace Row

variable {row : Row} {world : Surroundings} {stage : Stage} {reason : Rejection}

/-- The owner stage gives usual reasons. -/
theorem isUsual_of_ownedSource_eq_error {catalog : Catalog}
    (h : row.ownedSource catalog = .error reason) : reason.isUsual = true := by
  obtain hsource | ⟨source, -, hrest⟩ := (bind_eq_error_iff _ _ _).mp h
  · exact Source.isUsual_of_decode_eq_error hsource
  obtain howner | ⟨_, -, hfound⟩ := (bind_eq_error_iff _ _ _).mp hrest
  · exact (catalog.usual_ownerConditions source row.owner).isUsual howner
  · cases hfound

/-- A code that is that of no kind is reported for a usual reason. -/
theorem isUsual_of_kinds_eq_error {source : Source} (h : row.kinds source = .error reason) :
    reason.isUsual = true := by
  rw [kinds] at h
  split at h
  · cases h
    rfl
  · split at h
    · cases h
      rfl
    · split at h <;> cases h
      rfl

/-- The event stage gives usual reasons, unless the row waits for the distance of a placed creature
that is missing. -/
theorem reason_of_eventVerdict {catalog : Catalog} {kinds : RowKinds}
    (h : row.eventVerdict catalog kinds = .error reason) :
    reason.isUsual = true ∨ (kinds.event = .distanceCreature ∧ ∃ guid ≠ 0,
      row.eventSlots[0]? = some guid ∧ reason = .missingReference .creatureSpawn guid) := by
  let event := row.event kinds.source kinds.event
  have hfront : Usual (row.headerConditions kinds.source kinds.event ++
      (event.orderedWindows.map Condition.ordered ++ event.percentages.map Condition.percentage)) :=
    (row.usual_headerConditions kinds.source kinds.event).append
      ((usual_map (fun _ => rfl) _).append (usual_map (fun _ => rfl) _))
  rw [eventVerdict, eventConditions, Event.conditions, ← List.append_assoc] at h
  obtain husual | hkind := hfront.isUsual_or h
  · exact .inl husual
  by_cases hdistance : event.kind = .distanceCreature
  · have hnamed := hdistance
    rw [kind_event] at hnamed
    split at hnamed
    · cases hnamed
    next hsource =>
      have hevent : event = .decode .distanceCreature row.eventSlots := by
        rw [← hnamed]
        exact if_neg hsource
      rw [show row.event kinds.source kinds.event = event from rfl, hevent] at hkind
      obtain husual | ⟨hguid, hreason⟩ := Event.reason_of_distanceCreature hkind
      · exact .inl husual
      · exact .inr ⟨hnamed, _, hguid, Vector.getElem?_eq_getElem (by decide), hreason⟩
  · exact .inl ((Event.usual_kindConditions hdistance).isUsual hkind)

/-- Every stage gives usual reasons, but for the event stage of a row that waits for the distance of
a placed creature, which may be missing. -/
theorem RejectedAt.isUsual_or (h : row.RejectedAt world stage reason) :
    reason.isUsual = true ∨
      (stage = .event ∧ row.eventCode = Event.Kind.distanceCreature.code ∧ ∃ guid ≠ 0,
        row.eventSlots[0]? = some guid ∧ reason = .missingReference .creatureSpawn guid) := by
  cases h with
  | owner howner => exact .inl (isUsual_of_ownedSource_eq_error howner)
  | kinds _ hkinds => exact .inl (isUsual_of_kinds_eq_error hkinds)
  | target _ htarget =>
    exact .inl ((Target.Selection.usual_conditions _ _ _).isUsual htarget)
  | event hidentified _ hevent =>
    obtain husual | ⟨hkind, hmissing⟩ := reason_of_eventVerdict hevent
    · exact .inl husual
    · have hcode := (names_of_identify hidentified).event_code
      rw [hkind] at hcode
      exact .inr ⟨rfl, hcode.symm, hmissing⟩
  | action hidentified _ _ haction =>
    have howner := exists_isOwner_of_identify hidentified
    rw [Row.actionVerdict_eq] at haction
    exact .inl ((Action.usual_conditions (fun hsource => (howner hsource).imp fun _ => And.left)
      _ _ _).isUsual haction)

/-- No stage finds an id to be taken. -/
theorem RejectedAt.ne_duplicateId (h : row.RejectedAt world stage reason) (id : UInt16) :
    reason ≠ .duplicateId id := by
  rintro rfl
  obtain husual | ⟨-, -, guid, -, -, hreason⟩ := h.isUsual_or
  · cases husual
  · cases hreason

end Row

end AiScript
