import AiScript.Proofs.Row.Speaker
import AiScript.Proofs.Stores.Rejections

/-!
# A text check finds its speaker

A creature's rule that has its owner speak is checked against the texts of the creature that the
owner stands for, which is looked up for that a second time. A row that comes so far has an owner,
so the second look finds it, whatever the catalog is like. That a placed creature is missing is
therefore reported of one kind of row only, and a rule that a load keeps can speak.
-/

namespace AiScript

/-- A rule of a creature that has its owner speak if it speaks at all. -/
structure Rule.OwnerSpeaks (rule : Rule) : Prop where
  source : rule.source = .creature
  event : rule.eventKind ≠ .textOver
  target : rule.target.kind ∉ Target.Kind.pickedCreatures

namespace Row

variable {row : Row} {world : Surroundings}

/-- Of all rows, only one that waits for the distance of a placed creature is at fault for a missing
one. -/
theorem distanceCreature_of_examine {what : Reference} {id : UInt32}
    (h : (row.examine world).result = .error (.missingReference what id))
    (hwhat : what.name = "creature guid") :
    row.eventCode = Event.Kind.distanceCreature.code ∧ row.eventSlots[0]? = some id ∧ id ≠ 0 := by
  obtain ⟨stage, hrejected⟩ := (examine_result_eq_error_iff row world _).mp h
  obtain husual | ⟨-, hcode, guid, hguid, hslot, hreason⟩ := hrejected.isUsual_or
  · cases what
    case creatureSpawn => cases husual
    all_goals exact absurd hwhat (by decide)
  · cases hreason
    exact ⟨hcode, hslot, hguid⟩

/-- The rule of a row that passes has a text of the creature that its owner stands for. -/
theorem exists_speaker_of_ownerSpeaks {kinds : RowKinds} {group : UInt32}
    (h : row.Passes world kinds) (hspeaks : (row.rule kinds).OwnerSpeaks)
    (hgroup : (row.rule kinds).action.textGroup? = some group) :
    ∃ creature, world.catalog.IsOwner row.owner creature ∧ world.catalog.FollowsRules creature ∧
      world.catalog.Speaks creature group := by
  have hsource : kinds.source = .creature := hspeaks.source
  have hevent : (row.event kinds.source kinds.event).kind ≠ .textOver := hspeaks.event
  have htarget : (row.target kinds).kind ∉ Target.Kind.pickedCreatures := hspeaks.target
  rw [kind_event, hsource, if_neg nofun] at hevent
  rw [target, Target.kind_decode] at htarget
  exact exists_speaker_of_passes h hgroup hsource hevent htarget

end Row

namespace Stores

/-- The owner of a creature's row that is identified is a creature that follows rules; that of a key
which is not negative has the key for its number. It is found again where a text is looked for, and
the text has to be one of its own. So a load rejects a row for want of a placed creature only if the
row waits for the distance of that creature; and where a kept rule has its owner speak, the text is
one of the creature that the owner stage has accepted. -/
theorem loadRules_speakers (stores : Stores) (rows : List Row) (options : LoadOptions) :
    let world := stores.surroundings options
    let catalog := stores.catalog
    let loaded := stores.loadRules rows options
    (∀ (row : Row) (kinds : RowKinds), row.identify catalog = .ok kinds →
      kinds.source = .creature →
      ∃ creature, catalog.creatures.entryOf? (.ofKey row.owner) = some creature ∧
        catalog.IsOwner row.owner creature ∧ catalog.FollowsRules creature ∧
        (0 ≤ row.owner → (creature.toNat : Int) = row.owner.toInt) ∧
        ∀ (event : Event) (target : Target.Kind) (group : UInt32), event.kind ≠ .textOver →
          target ∉ Target.Kind.pickedCreatures →
          catalog.textKnown .creature row.owner event target group =
            [ .refersTo .creatureSpawn (Owner.keyNumber row.owner) true,
              .refersTo .creatureText group
                (creature != 0 && catalog.hasCreatureText creature group) ]) ∧
    (∀ settled ∈ Row.settlements world (Row.sorted rows), ∀ what id,
      settled.fate = .error (.missingReference what id) → what.name = "creature guid" →
      settled.row.eventCode = Event.Kind.distanceCreature.code ∧
        settled.row.eventSlots[0]? = some id ∧ id ≠ 0) ∧
    (∀ diagnostic ∈ loaded.2.1.rejected, ∀ what id,
      diagnostic.reason = .missingReference what id → what.name = "creature guid" →
      diagnostic.row.eventCode = Event.Kind.distanceCreature.code ∧ id ≠ 0) ∧
    ∀ entry ∈ loaded.1.table.chains, ∀ rule ∈ entry.2, rule.OwnerSpeaks →
      ∀ group, rule.action.textGroup? = some group →
      ∃ creature, catalog.IsOwner rule.owner creature ∧ catalog.FollowsRules creature ∧
        catalog.Speaks creature group := by
  intro world catalog loaded
  have hmissing : ∀ settled ∈ Row.settlements world (Row.sorted rows), ∀ what id,
      settled.fate = .error (.missingReference what id) → what.name = "creature guid" →
      settled.row.eventCode = Event.Kind.distanceCreature.code ∧
        settled.row.eventSlots[0]? = some id ∧ id ≠ 0 := by
    intro settled hsettled what id hreason hwhat
    obtain ⟨earlier, hfate⟩ := Row.exists_fate_of_mem_settlements hsettled
    obtain hfault | ⟨htaken, -⟩ := Row.fault_or_taken_of_fate (hfate.trans hreason)
    · exact Row.distanceCreature_of_examine hfault hwhat
    · cases htaken
  refine ⟨fun row kinds hidentify hsource => ?_, hmissing, ?_, ?_⟩
  · obtain ⟨creature, howner, hfollows⟩ := Row.exists_isOwner_of_identify hidentify hsource
    exact ⟨creature, (catalog.isOwner_iff row.owner creature).mp howner, howner, hfollows,
      howner.toNat_eq, fun _ _ group hevent htarget =>
        Catalog.textKnown_of_isOwner howner hevent htarget group⟩
  · intro diagnostic hdiagnostic what id hreason hwhat
    rw [loadRules_rejected, Row.mem_rejections_iff] at hdiagnostic
    obtain ⟨settled, hsettled, hfate, hcontext⟩ := hdiagnostic
    rw [hreason] at hfate
    obtain ⟨hcode, -, hguid⟩ := hmissing settled hsettled what id hfate hwhat
    rw [← hcontext]
    exact ⟨hcode, hguid⟩
  · intro entry hentry rule hrule hspeaks group hgroup
    rw [eq_ofRules_of_mem_chains hentry, Chain.ofRules, List.mem_filter] at hrule
    obtain ⟨row, -, hrow⟩ := Row.exists_row_of_mem_keptRules hrule.1
    obtain ⟨kinds, hpasses, rfl⟩ := Row.passes_of_rule? hrow
    exact Row.exists_speaker_of_ownerSpeaks hpasses hspeaks hgroup

/-- Stores with one creature that follows rules, a placed instance of it, and a text of it. -/
def talkativeStores : Stores where
  catalog :=
    { creatures := ⟨.ofList [⟨7, "SmartAI"⟩], .ofList [⟨5, 7⟩]⟩
      creatureTexts := .ofList [(⟨7, 2⟩ : CreatureText)] }

/-- A row that has the placed creature say its text. -/
def talkingRow : Row :=
  { owner := -5, id := 1, actionCode := 1, actionSlots := #v[2, 0, 0, 0, 0, 0], targetCode := 1 }

/-- A row that waits for the distance of a placed creature that there is not. -/
def lookingRow : Row :=
  { owner := -5, id := 2, eventCode := 75, eventSlots := #v[99, 0, 0, 0, 0], actionCode := 24 }

/-- The first row is kept, and its creature has the text; the second is rejected. -/
theorem loadRules_speakers_talkingRow :
    let world := talkativeStores.surroundings {}
    let catalog := talkativeStores.catalog
    (talkingRow.rule? world).isSome ∧
    (∃ creature, catalog.IsOwner (-5) creature ∧ catalog.FollowsRules creature ∧
      catalog.Speaks creature 2) ∧
    (lookingRow.examine world).result = .error (.missingReference .creatureSpawn 99) := by
  intro world catalog
  let rule := talkingRow.rule ⟨.creature, .updateIc, .talk, .selfUnit⟩
  have hrule : talkingRow.rule? world = some rule := rfl
  have hentry : (rule.chainKey, [rule]) ∈
      (talkativeStores.loadRules [talkingRow]).1.table.chains :=
    (Table.mem_chains_iff _ _ _).mpr (chain?_loadRules_singleton hrule)
  have hspeaks : rule.OwnerSpeaks := ⟨rfl, nofun, by decide⟩
  have hspeaker := (loadRules_speakers talkativeStores [talkingRow] {}).2.2.2 _ hentry rule
    List.mem_cons_self hspeaks 2 rfl
  exact ⟨by rw [hrule]; rfl, hspeaker, rfl⟩

end Stores

end AiScript
