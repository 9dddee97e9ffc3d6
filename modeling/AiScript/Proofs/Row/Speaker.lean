import AiScript.Proofs.Catalog.Owners
import AiScript.Proofs.Row.LegalAction

/-!
# The creature that speaks for a row

A text needs a speaker, and unless the event names one it is the row's owner. The owner is looked up
twice: by the stage that asks whether it follows rules at all, and again when a text is looked for.
Both looks find the same creature, so by then it cannot be missing. This needs nothing of the
catalog; a catalog whose spawns have no templates is as good as any other.
-/

namespace AiScript

/-- The targets that are some other creature, which is picked when the rule runs. -/
def Target.Kind.pickedCreatures : List Target.Kind :=
  [.creatureRange, .creatureDistance, .closestCreature]

/-- The group of the text that an action has someone speak. -/
def Action.textGroup? : Action → Option UInt32
  | .talk textGroup _ _ | .simpleTalk textGroup => some textGroup
  | _ => none

/-- All that is asked of an action that speaks is its text. -/
theorem Action.conditions_of_textGroup? {action : Action} {group : UInt32}
    (h : action.textGroup? = some group) (catalog : Catalog) (waypoints : Waypoints)
    (source : Source) (key : Int32) (event : Event) (target : Target.Kind) :
    action.conditions catalog waypoints source key event target =
      catalog.textKnown source key event target group := by
  cases action
  case talk | simpleTalk =>
    rw [← Option.some.inj h]
    rfl
  all_goals cases h

namespace Catalog

/-- The template of a creature is known, and it names the driver of creatures that follow rules. -/
def FollowsRules (catalog : Catalog) (creature : UInt32) : Prop :=
  ∃ template, catalog.creatures.templates.find? creature = some template ∧
    template.aiName = "SmartAI"

variable {catalog : Catalog} {key : Int32} {creature other : UInt32}

/-- An owner key stands for one creature at most. -/
theorem IsOwner.unique (h : catalog.IsOwner key creature) (hother : catalog.IsOwner key other) :
    creature = other := by
  rw [isOwner_iff] at h hother
  exact Option.some.inj (h.symm.trans hother)

/-- A key that is not negative is the number of its creature. -/
theorem IsOwner.toNat_eq (h : catalog.IsOwner key creature) (hkey : 0 ≤ key) :
    (creature.toNat : Int) = key.toInt := by
  have hnonneg : 0 ≤ key.toInt := Int32.le_iff_toInt_le.mp hkey
  rw [IsOwner, if_neg (Int32.not_lt.mpr hkey)] at h
  rw [← h, Owner.toNat_keyNumber, Int.natAbs_of_nonneg hnonneg]

/-- Events that name no speaker are all alike to a text check. -/
theorem textKnown_eq_aggro {event : Event} (h : event.kind ≠ .textOver) (target : Target.Kind)
    (group : UInt32) :
    catalog.textKnown .creature key event target group =
      catalog.textKnown .creature key .aggro target group := by
  cases event
  case textOver => exact absurd rfl h
  all_goals rfl

/-- Where the owner speaks, its creature is found, and a text is looked for among the texts of that
creature. -/
theorem textKnown_of_isOwner (h : catalog.IsOwner key creature) {event : Event}
    (hevent : event.kind ≠ .textOver) {target : Target.Kind}
    (htarget : target ∉ Target.Kind.pickedCreatures) (group : UInt32) :
    catalog.textKnown .creature key event target group =
      [ .refersTo .creatureSpawn (Owner.keyNumber key) true,
        .refersTo .creatureText group
          (creature != 0 && catalog.hasCreatureText creature group) ] := by
  rw [isOwner_iff] at h
  rw [textKnown_eq_aggro hevent]
  cases target
  case creatureRange | creatureDistance | closestCreature => exact absurd (by decide) htarget
  all_goals
    unfold textKnown
    rw [h]
    rfl

/-- The owner stage accepts a creature's key exactly if it stands for one that follows rules. -/
theorem met_ownerConditions_iff (catalog : Catalog) (key : Int32) :
    Condition.Met (catalog.ownerConditions .creature key) ↔
      ∃ creature, catalog.IsOwner key creature ∧ catalog.FollowsRules creature := by
  simp only [isOwner_iff, FollowsRules]
  change Condition.Met (catalog.creatures.drives .creatureSpawn .creatureTemplate creatureDriver
    (.ofKey key)) ↔ _
  have hfollows : ∀ found : Option Template,
      (found.isSome = true ∧ (found.any fun record => record.aiName == creatureDriver) = true) ↔
        ∃ template, found = some template ∧ template.aiName = "SmartAI" := by
    intro found
    cases found <;> simp [creatureDriver]
  cases Owner.ofKey key with
  | template entry =>
    simp [Population.drives, Population.entryOf?, Condition.met_cons_iff, hfollows]
  | spawn guid =>
    cases hentry : catalog.creatures.entryOf? (.spawn guid) with
    | none => simp [Population.drives, hentry, Condition.met_cons_iff]
    | some entry => simp [Population.drives, hentry, Condition.met_cons_iff, hfollows]

end Catalog

namespace Row

variable {row : Row} {catalog : Catalog} {kinds : RowKinds}

/-- A creature's row that is identified has an owner that follows rules. -/
theorem exists_isOwner_of_identify (h : row.identify catalog = .ok kinds)
    (hsource : kinds.source = .creature) :
    ∃ creature, catalog.IsOwner row.owner creature ∧ catalog.FollowsRules creature := by
  obtain ⟨source, howned, hkinds⟩ := (identify_eq_ok_iff row catalog kinds).mp h
  have hverdict := ((ownedSource_eq_ok_iff row catalog source).mp howned).2
  rw [← ((kinds_eq_ok_iff row source kinds).mp hkinds).1, hsource,
    Condition.verdict_eq_ok_iff] at hverdict
  exact (catalog.met_ownerConditions_iff row.owner).mp hverdict

/-- A row that passes and speaks has the text. -/
theorem hasText_of_passes {world : Surroundings} {group : UInt32}
    (h : row.Passes world kinds) (hgroup : (row.action kinds).textGroup? = some group) :
    row.HasText world.catalog kinds group := by
  have haction := conditions_of_passes h
  rw [Action.conditions_of_textGroup? hgroup] at haction
  exact (row.met_textKnown_iff world.catalog kinds group).mp haction

/-- A creature's row that passes and leaves the speaking to its owner has a text of the creature
that the owner stage has accepted. -/
theorem exists_speaker_of_passes {world : Surroundings} {group : UInt32}
    (h : row.Passes world kinds) (hgroup : (row.action kinds).textGroup? = some group)
    (hsource : kinds.source = .creature) (hevent : kinds.event ≠ .textOver)
    (htarget : kinds.target ∉ Target.Kind.pickedCreatures) :
    ∃ creature, world.catalog.IsOwner row.owner creature ∧ world.catalog.FollowsRules creature ∧
      world.catalog.Speaks creature group := by
  obtain ⟨creature, howner, hfollows⟩ := exists_isOwner_of_identify h.identified hsource
  simp only [Target.Kind.pickedCreatures, List.mem_cons, List.not_mem_nil, or_false, not_or]
    at htarget
  obtain ⟨hrange, hdistance, hclosest⟩ := htarget
  obtain hother | ⟨hover, -⟩ | ⟨-, hspeaks⟩ := hasText_of_passes h hgroup
  · exact absurd hsource hother
  · exact absurd hover hevent
  obtain hrange' | hdistance' | hclosest' | ⟨speaker, hspeaker, hspeaks⟩ := hspeaks
  · exact absurd hrange' hrange
  · exact absurd hdistance' hdistance
  · exact absurd hclosest' hclosest
  · rw [hspeaker.unique howner] at hspeaks
    exact ⟨creature, howner, hfollows, hspeaks⟩

end Row

end AiScript
