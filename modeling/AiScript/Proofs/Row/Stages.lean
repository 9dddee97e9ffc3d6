import AiScript.Proofs.Row.Examination

/-!
# Stages do not look ahead

A row that is rejected is rejected at one stage, the first that finds fault with it. What a stage
finds depends on the fields that this stage and those before it read, and on nothing else: rows that
agree on these fields are rejected at the same stage for the same reason, whatever the rest of them
holds. That a stage may look at what an earlier one has read, such as the event stage at the kind of
the target, is why agreement goes by the stages up to one and not by that stage alone.
-/

namespace AiScript

/-- The stages of an examination, in their order. -/
inductive Stage where
  | owner | kinds | target | event | action
deriving DecidableEq

/-- Two steps fail exactly if the first fails, or the second does on what the first gives. -/
theorem bind_eq_error_iff {ε α β : Type} (first : Except ε α) (next : α → Except ε β)
    (reason : ε) :
    first >>= next = .error reason ↔
      first = .error reason ∨ ∃ found, first = .ok found ∧ next found = .error reason := by
  cases first <;> simp [bind, Except.bind]

namespace Row

/-- A row passes the stages before one, which rejects it. -/
inductive RejectedAt (row : Row) (world : Surroundings) : Stage → Rejection → Prop where
  | owner {reason : Rejection} (rejected : row.ownedSource world.catalog = .error reason) :
    RejectedAt row world .owner reason
  | kinds {reason : Rejection} {source : Source}
      (owned : row.ownedSource world.catalog = .ok source)
      (rejected : row.kinds source = .error reason) :
    RejectedAt row world .kinds reason
  | target {reason : Rejection} {kinds : RowKinds}
      (identified : row.identify world.catalog = .ok kinds)
      (rejected : row.targetVerdict world.catalog kinds = .error reason) :
    RejectedAt row world .target reason
  | event {reason : Rejection} {kinds : RowKinds}
      (identified : row.identify world.catalog = .ok kinds)
      (target : row.targetVerdict world.catalog kinds = .ok ())
      (rejected : row.eventVerdict world.catalog kinds = .error reason) :
    RejectedAt row world .event reason
  | action {reason : Rejection} {kinds : RowKinds}
      (identified : row.identify world.catalog = .ok kinds)
      (target : row.targetVerdict world.catalog kinds = .ok ())
      (event : row.eventVerdict world.catalog kinds = .ok ())
      (rejected : row.actionVerdict world.catalog world.waypoints kinds = .error reason) :
    RejectedAt row world .action reason

/-- The owner stage reads the same of two rows. -/
structure SameOwner (a b : Row) : Prop where
  sourceCode : a.sourceCode = b.sourceCode
  owner : a.owner = b.owner

/-- The stages up to the target read the same of two rows. The position is no part of it. -/
structure SameTarget (a b : Row) : Prop extends SameOwner a b where
  eventCode : a.eventCode = b.eventCode
  actionCode : a.actionCode = b.actionCode
  targetCode : a.targetCode = b.targetCode
  targetSlots : a.targetSlots = b.targetSlots

/-- The stages up to the event read the same of two rows. -/
structure SameEvent (a b : Row) : Prop extends SameTarget a b where
  id : a.id = b.id
  link : a.link = b.link
  phaseMask : a.phaseMask = b.phaseMask
  chance : a.chance = b.chance
  flags : a.flags = b.flags
  eventSlots : a.eventSlots = b.eventSlots

/-- All stages read the same of two rows. -/
structure SameAction (a b : Row) : Prop extends SameEvent a b where
  actionSlots : a.actionSlots = b.actionSlots

/-- Two rows agree on what a stage and those before it read. -/
def AgreesUpTo (a b : Row) : Stage → Prop
  | .owner => a.SameOwner b
  | .kinds | .target => a.SameTarget b
  | .event => a.SameEvent b
  | .action => a.SameAction b

variable {a b : Row} {world : Surroundings} {stage : Stage} {reason : Rejection}

/-- An identified row has passed the stages before the target. -/
theorem identify_eq_error_iff (row : Row) (world : Surroundings) (reason : Rejection) :
    row.identify world.catalog = .error reason ↔
      row.RejectedAt world .owner reason ∨ row.RejectedAt world .kinds reason := by
  rw [identify, bind_eq_error_iff]
  constructor
  · rintro (howner | ⟨source, howned, hkinds⟩)
    · exact .inl (.owner howner)
    · exact .inr (.kinds howned hkinds)
  · rintro (hrejected | hrejected)
    · cases hrejected with
      | owner howner => exact .inl howner
    · cases hrejected with
      | kinds howned hkinds => exact .inr ⟨_, howned, hkinds⟩

/-- A row comes out with a reason exactly if some stage rejects it for that reason. -/
theorem examine_result_eq_error_iff (row : Row) (world : Surroundings) (reason : Rejection) :
    (row.examine world).result = .error reason ↔ ∃ stage, row.RejectedAt world stage reason := by
  rw [examine_result, bind_eq_error_iff, identify_eq_error_iff]
  constructor
  · rintro ((howner | hkinds) | ⟨kinds, hidentified, hstages⟩)
    · exact ⟨.owner, howner⟩
    · exact ⟨.kinds, hkinds⟩
    · obtain htarget | ⟨_, htarget, hstages⟩ := (bind_eq_error_iff _ _ _).mp hstages
      · exact ⟨.target, .target hidentified htarget⟩
      obtain hevent | ⟨_, hevent, hstages⟩ := (bind_eq_error_iff _ _ _).mp hstages
      · exact ⟨.event, .event hidentified htarget hevent⟩
      obtain haction | ⟨_, -, hrule⟩ := (bind_eq_error_iff _ _ _).mp hstages
      · exact ⟨.action, .action hidentified htarget hevent haction⟩
      · cases hrule
  · rintro ⟨stage, hrejected⟩
    cases hrejected with
    | owner howner => exact .inl (.inl (.owner howner))
    | kinds howned hkinds => exact .inl (.inr (.kinds howned hkinds))
    | target hidentified htarget =>
      refine .inr ⟨_, hidentified, ?_⟩
      rw [htarget]
      rfl
    | event hidentified htarget hevent =>
      refine .inr ⟨_, hidentified, ?_⟩
      rw [htarget, hevent]
      rfl
    | action hidentified htarget hevent haction =>
      refine .inr ⟨_, hidentified, ?_⟩
      rw [htarget, hevent, haction]
      rfl

/-- The owner stage reads the source code and the owner. -/
theorem ownedSource_congr (h : a.SameOwner b) (catalog : Catalog) :
    a.ownedSource catalog = b.ownedSource catalog := by
  rw [ownedSource, h.sourceCode, h.owner, ownedSource]

/-- The kinds are read off three codes. -/
theorem kinds_congr (h : a.SameTarget b) (source : Source) : a.kinds source = b.kinds source := by
  rw [kinds, h.eventCode, h.actionCode, h.targetCode, kinds]

/-- The stages before the target read nothing but codes and the owner. -/
theorem identify_congr (h : a.SameTarget b) (catalog : Catalog) :
    a.identify catalog = b.identify catalog := by
  have hkinds : a.kinds = b.kinds := funext (kinds_congr h)
  rw [identify, ownedSource_congr h.toSameOwner, hkinds, identify]

/-- The target stage reads the slots of the target, and not the position. -/
theorem targetVerdict_congr (h : a.SameTarget b) (catalog : Catalog) (kinds : RowKinds) :
    a.targetVerdict catalog kinds = b.targetVerdict catalog kinds := by
  have hselection : (a.target kinds).selection = (b.target kinds).selection :=
    congrArg (Target.Selection.decode kinds.target) h.targetSlots
  rw [targetVerdict, hselection, targetVerdict]

/-- The event of a row is read off its event slots. -/
theorem event_congr (h : a.SameEvent b) (source : Source) (kind : Event.Kind) :
    a.event source kind = b.event source kind := by
  rw [event, h.eventSlots, event]

/-- The event stage reads the modifiers, the ids and the slots of the event, and the owner, who may
have to speak. -/
theorem eventVerdict_congr (h : a.SameEvent b) (catalog : Catalog) (kinds : RowKinds) :
    a.eventVerdict catalog kinds = b.eventVerdict catalog kinds := by
  have hheader : a.headerConditions kinds.source kinds.event =
      b.headerConditions kinds.source kinds.event := by
    rw [headerConditions, h.phaseMask, h.flags, h.chance, h.link, h.id, headerConditions]
  rw [eventVerdict, eventConditions, hheader, event_congr h, h.owner, eventVerdict,
    eventConditions]

/-- The action stage reads the slots of the action, and what the event stage has read. -/
theorem actionVerdict_congr (h : a.SameAction b) (catalog : Catalog) (waypoints : Waypoints)
    (kinds : RowKinds) :
    a.actionVerdict catalog waypoints kinds = b.actionVerdict catalog waypoints kinds := by
  rw [actionVerdict_eq, action, h.actionSlots, event_congr h.toSameEvent, h.owner,
    actionVerdict_eq, action]

/-- Rows that agree up to the stage that rejects one of them are both rejected there, for the same
reason. -/
theorem RejectedAt.congr (hrejected : a.RejectedAt world stage reason)
    (h : a.AgreesUpTo b stage) : b.RejectedAt world stage reason := by
  cases hrejected with
  | owner howner =>
    rw [ownedSource_congr h] at howner
    exact .owner howner
  | kinds howned hkinds =>
    rw [ownedSource_congr h.toSameOwner] at howned
    rw [kinds_congr h] at hkinds
    exact .kinds howned hkinds
  | target hidentified htarget =>
    rw [identify_congr h] at hidentified
    rw [targetVerdict_congr h] at htarget
    exact .target hidentified htarget
  | event hidentified htarget hevent =>
    rw [identify_congr h.toSameTarget] at hidentified
    rw [targetVerdict_congr h.toSameTarget] at htarget
    rw [eventVerdict_congr h] at hevent
    exact .event hidentified htarget hevent
  | action hidentified htarget hevent haction =>
    rw [identify_congr h.toSameTarget] at hidentified
    rw [targetVerdict_congr h.toSameTarget] at htarget
    rw [eventVerdict_congr h.toSameEvent] at hevent
    rw [actionVerdict_congr h] at haction
    exact .action hidentified htarget hevent haction

end Row

end AiScript
