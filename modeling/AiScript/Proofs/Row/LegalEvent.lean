import AiScript.Proofs.Row.LegalAction

/-!
# Which targets and events are accepted

The stored slots of a target are legal or not by its kind, and so are those of an event, where it
depends on the kind which slots are a window and have to be ordered. Rows of timed action lists
stand for a timer whatever kind they name, and are asked for its two windows only. What is legal is
said slot by slot, and a row passes both stages exactly if all of it is.
-/

namespace AiScript

/-- The windows among the slots of an event are ordered. Kinds differ in where their windows are. -/
def Event.Kind.HasOrderedSlots (e1 e2 e3 e4 : UInt32) : Kind → Prop
  | .updateIc | .updateOoc | .update | .healthPct | .manaPct | .targetHealthPct | .targetManaPct
  | .range | .damaged | .damagedTarget | .receiveHeal => e1 ≤ e2 ∧ e3 ≤ e4
  | .kill | .victimCasting | .passengerBoarded | .passengerRemoved | .isBehindTarget => e1 ≤ e2
  | .friendlyIsCc | .summonedUnit | .summonDespawned | .receiveEmote | .instancePlayerEnter =>
    e2 ≤ e3
  | .spellHit | .spellHitTarget | .oocLos | .icLos | .friendlyHealth | .friendlyMissingBuff
  | .hasAura | .targetBuffed | .dataSet | .friendlyHealthPct | .counterSet => e3 ≤ e4
  | _ => True

/-- The percentages among the slots of an event are at most 100. -/
def Event.Kind.HasPercentages (e1 e2 : UInt32) : Kind → Prop
  | .healthPct | .manaPct | .targetHealthPct | .targetManaPct | .friendlyHealthPct =>
    e1 ≤ 100 ∧ e2 ≤ 100
  | _ => True

namespace Row

/-- The numbers `t1` and `t2` are what a kind of target asks of the first two slots of a row; the
third is free. Actions that install an AI template pick their own targets. -/
def LegalTargetSlots (catalog : Catalog) (kinds : RowKinds) (t1 t2 : UInt32) : Prop :=
  kinds.action = .installAiTemplate ∨
    match kinds.target with
    | .creatureRange | .creatureDistance =>
      t1 = 0 ∨ catalog.creatures.templates.contains t1
    | .gameObjectRange | .gameObjectDistance =>
      t1 = 0 ∨ catalog.gameObjects.templates.contains t1
    | .creatureGuid => t2 = 0 ∨ catalog.creatures.templates.contains t2
    | .gameObjectGuid => t2 = 0 ∨ catalog.gameObjects.templates.contains t2
    | .playerDistance | .closestPlayer => t1 ≠ 0
    | _ => True

/-- The target slots of a row are legal for the kind of the target. -/
def HasLegalTarget (catalog : Catalog) (row : Row) (kinds : RowKinds) : Prop :=
  ∃ t1 t2 t3, row.targetSlots.toList = [t1, t2, t3] ∧ LegalTargetSlots catalog kinds t1 t2

/-- The modifiers that a row has with every kind of event are legal. -/
structure HasLegalHeader (row : Row) : Prop where
  phases : row.phaseMask ≤ 0x3F
  flags : row.flags ≤ 0x9F
  chance : row.chance ≤ 100
  link : row.link = 0 ∨ row.link ≠ row.id

/-- What the slots of an event refer to is there, and the limits of its kind are kept. -/
def LegalParameters (catalog : Catalog) (kinds : RowKinds) (e1 e2 e3 e4 : UInt32) : Prop :=
  match kinds.event with
  | .spellHit | .spellHitTarget =>
    e1 = 0 ∨ ∃ spell, catalog.spells.find? e1 = some spell ∧
      (e2 = 0 ∨ e2 &&& spell.schoolMask = spell.schoolMask)
  | .respawn =>
    (e1 = 1 → catalog.maps.contains e2) ∧ (e1 = 2 → catalog.areas.contains e3)
  | .friendlyHealth => e2 ≠ 0
  | .friendlyMissingBuff => catalog.spells.contains e1 ∧ e2 ≠ 0
  | .kill => e4 = 0 ∨ catalog.creatures.templates.contains e4
  | .summonedUnit | .summonDespawned | .transportAddCreature =>
    e1 = 0 ∨ catalog.creatures.templates.contains e1
  | .victimCasting => e3 = 0 ∨ catalog.spells.contains e3
  | .acceptedQuest | .rewardQuest => e1 = 0 ∨ catalog.quests.contains e1
  | .receiveEmote => e1 = 0 ∨ catalog.textEmotes.contains e1
  | .hasAura | .targetBuffed => catalog.spells.contains e1
  | .movementInform => e1 ≤ 16
  | .areaTriggerOnTrigger => e1 = 0 ∨ catalog.areaTriggers.contains e1
  | .textOver => kinds.source = .creature → catalog.Speaks e2 e1
  | .dummyEffect => catalog.spells.contains e1 ∧ e2 ≤ 2
  | .gameEventStart | .gameEventEnd => catalog.UsableGameEvent e1
  | .actionDone => e1 ≤ 1003
  | .friendlyHealthPct =>
    kinds.target ∈ [.creatureRange, .creatureGuid, .creatureDistance, .closestCreature,
      .closestPlayer, .playerRange, .playerDistance]
  | .distanceCreature =>
    (e1 ≠ 0 ∧ e2 = 0 ∧ catalog.creatures.spawns.contains e1) ∨
      (e1 = 0 ∧ e2 ≠ 0 ∧ catalog.creatures.templates.contains e2)
  | .distanceGameObject =>
    (e1 ≠ 0 ∧ e2 = 0 ∧ catalog.gameObjects.spawns.contains e1) ∨
      (e1 = 0 ∧ e2 ≠ 0 ∧ catalog.gameObjects.templates.contains e2)
  | .counterSet => e1 ≠ 0 ∧ e2 ≠ 0
  | _ => True

/-- The numbers `e1` to `e4` are what the kind of an event asks of the first four slots of a row.
The fifth is free. Those of a timed action list are two windows, and any other source has to be
allowed for the kind of the event. -/
def LegalEventSlots (catalog : Catalog) (kinds : RowKinds) (e1 e2 e3 e4 : UInt32) : Prop :=
  if kinds.source = .timedActionList then e1 ≤ e2 ∧ e3 ≤ e4
  else
    kinds.event.allowedSources.meets kinds.source.toSet ∧
      kinds.event.HasOrderedSlots e1 e2 e3 e4 ∧ kinds.event.HasPercentages e1 e2 ∧
        LegalParameters catalog kinds e1 e2 e3 e4

/-- The event slots of a row are legal for the kind of the event and the source. -/
def HasLegalEvent (catalog : Catalog) (row : Row) (kinds : RowKinds) : Prop :=
  ∃ e1 e2 e3 e4 e5, row.eventSlots.toList = [e1, e2, e3, e4, e5] ∧
    LegalEventSlots catalog kinds e1 e2 e3 e4

end Row

/-- A mask of known phases is at most the mask of all of them. -/
theorem PhaseMask.isSome_ofBits?_iff (bits : UInt8) :
    (ofBits? bits).isSome = true ↔ bits ≤ 0x3F := by
  rw [UInt8.le_iff_toNat_le]
  constructor
  · intro hknown
    have hlt : bits.toNat < 2 ^ 6 := by
      apply Nat.lt_pow_two_of_testBit
      intro bit hbit
      by_contra hset
      rw [Bool.not_eq_false] at hset
      exact absurd (bit_lt_of_ofBits? hknown hset) (Nat.not_lt.mpr hbit)
    exact Nat.le_of_lt_succ hlt
  · intro hle
    have hother : ∀ bit < 6, Nat.testBit 0xC0 bit = false := by decide
    have hzero : bits &&& ~~~all.bits = 0 := by
      rw [← UInt8.toNat_inj, UInt8.toNat_and]
      apply Nat.eq_of_testBit_eq
      intro bit
      change (bits.toNat &&& 0xC0).testBit bit = Nat.testBit 0 bit
      rw [Nat.testBit_and, Nat.zero_testBit, Bool.and_eq_false_iff]
      by_cases hbit : bit < 6
      · exact .inr (hother bit hbit)
      · apply Or.inl
        apply Nat.testBit_lt_two_pow
        exact Nat.lt_of_le_of_lt hle (Nat.pow_le_pow_right Nat.two_pos (Nat.not_lt.mp hbit))
    rw [ofBits?, if_pos hzero, Option.isSome_some]

/-- One of two alternatives is given and found exactly if it is the first that is, or the second. -/
theorem Condition.met_exactlyOne_iff (which : Alternatives) (first second : UInt32)
    (ofFirst ofSecond : Condition) :
    Met (exactlyOne which first second ++ if first != 0 then [ofFirst] else [ofSecond]) ↔
      (first ≠ 0 ∧ second = 0 ∧ ofFirst.holds = true) ∨
        (first = 0 ∧ second ≠ 0 ∧ ofSecond.holds = true) := by
  rw [exactlyOne, List.cons_append, List.cons_append, List.nil_append, met_cons_iff, met_cons_iff]
  by_cases hfirst : first = 0
  · simp [hfirst]
  · simp [hfirst]

/-- A spell that is named is known, and a school that is named covers those of the spell. -/
theorem Catalog.met_spellSchool_iff (catalog : Catalog) (id school : UInt32) :
    Condition.Met
        (if id = 0 then []
        else
          let mask := ((catalog.spells.find? id).map Spell.schoolMask).getD 0
          [ catalog.spellKnown id,
            ⟨school == 0 || school &&& mask == mask, .schoolMismatch id school⟩ ]) ↔
      id = 0 ∨ ∃ spell, catalog.spells.find? id = some spell ∧
        (school = 0 ∨ school &&& spell.schoolMask = spell.schoolMask) := by
  by_cases hid : id = 0
  · simp [hid]
  · rw [if_neg hid, Condition.met_cons_iff, Condition.met_singleton_iff, spellKnown_holds,
      Registry.contains]
    cases catalog.spells.find? id with
    | none => simp [hid]
    | some spell => simp [hid]

namespace Event

/-- A respawn condition has the code that it is looked up by. -/
theorem RespawnCondition.ofCode?_eq_some_iff (code : UInt32) (condition : RespawnCondition) :
    ofCode? code = some condition ↔ code = condition.code := by
  constructor
  · intro hfound
    rw [eq_comm]
    simpa using List.find?_some hfound
  · intro hcode
    rw [hcode]
    cases condition <;> rfl

/-- A respawn in a map or in an area names one that is known. -/
theorem met_respawn_iff (catalog : Catalog) (source : Source) (owner : Int32)
    (target : Target.Kind) (condition map area : UInt32) :
    Condition.Met ((respawn condition map area).kindConditions catalog source owner target) ↔
      (condition = 1 → catalog.maps.contains map = true) ∧
        (condition = 2 → catalog.areas.contains area = true) := by
  have hmap := RespawnCondition.ofCode?_eq_some_iff condition .map
  have harea := RespawnCondition.ofCode?_eq_some_iff condition .area
  simp only [RespawnCondition.code] at hmap harea
  rw [kindConditions]
  split
  next hfound => simp [hmap.mp hfound]
  next hfound => simp [harea.mp hfound]
  next hnomap hnoarea =>
    apply iff_of_true Condition.met_nil
    exact ⟨fun h => absurd (hmap.mpr h) hnomap, fun h => absurd (harea.mpr h) hnoarea⟩

/-- The windows of an event are ordered exactly if its slots are. -/
theorem forall_orderedWindows_iff (kind : Kind) (e1 e2 e3 e4 e5 : UInt32) :
    (∀ window ∈ (decode kind #v[e1, e2, e3, e4, e5]).orderedWindows, window.min ≤ window.max) ↔
      kind.HasOrderedSlots e1 e2 e3 e4 := by
  unfold Kind.HasOrderedSlots
  cases kind
  all_goals simp [decode, orderedWindows, windows, WindowPair.toList]

/-- The percentages of an event are at most 100 exactly if those of its slots are. -/
theorem forall_percentages_iff (kind : Kind) (e1 e2 e3 e4 e5 : UInt32) :
    (∀ value ∈ (decode kind #v[e1, e2, e3, e4, e5]).percentages, value ≤ 100) ↔
      kind.HasPercentages e1 e2 := by
  unfold Kind.HasPercentages
  cases kind
  all_goals simp [decode, percentages, windows]

end Event

namespace Row

/-- The target slots of a row are three numbers. -/
theorem exists_targetSlots (row : Row) : ∃ t1 t2 t3, row.targetSlots.toList = [t1, t2, t3] :=
  List.length_eq_three.mp row.targetSlots.length_toList

/-- The event slots of a row are five numbers. -/
theorem exists_eventSlots (row : Row) :
    ∃ e1 e2 e3 e4 e5, row.eventSlots.toList = [e1, e2, e3, e4, e5] := by
  obtain ⟨⟨slots⟩, hsize⟩ := row.eventSlots
  match slots, hsize with
  | [e1, e2, e3, e4, e5], _ => exact ⟨e1, e2, e3, e4, e5, rfl⟩

/-- A target meets its conditions exactly if the slots that it is read from are legal. -/
theorem met_targetConditions_iff (row : Row) (catalog : Catalog) (kinds : RowKinds)
    {t1 t2 t3 : UInt32} (hslots : row.targetSlots.toList = [t1, t2, t3]) :
    Condition.Met ((row.target kinds).selection.conditions catalog kinds.action) ↔
      LegalTargetSlots catalog kinds t1 t2 := by
  have hvector : row.targetSlots = #v[t1, t2, t3] := Vector.toList_inj.mp hslots
  rw [Row.target, hvector]
  obtain ⟨source, event, action, target⟩ := kinds
  unfold Target.Selection.conditions LegalTargetSlots
  by_cases haction : action = .installAiTemplate
  · rw [if_pos haction]
    exact iff_of_true Condition.met_nil (.inl haction)
  · simp only [haction, if_false, false_or]
    cases target
    all_goals simp [Target.decode, Target.Selection.decode, Target.Selection.ofSlots]

/-- The modifiers of a row meet their conditions exactly if they are legal and the source may use
the event. -/
theorem met_headerConditions_iff (row : Row) (source : Source) (event : Event.Kind) :
    Condition.Met (row.headerConditions source event) ↔
      (source = .timedActionList ∨ event.allowedSources.meets source.toSet = true) ∧
        row.HasLegalHeader := by
  have hflags : EventFlags.all.bits = 0x9F := rfl
  simp only [headerConditions, Condition.met_cons_iff, Condition.met_nil, and_true,
    Bool.or_eq_true, beq_iff_eq, bne_iff_ne, decide_eq_true_eq, PhaseMask.isSome_ofBits?_iff,
    hflags]
  apply and_congr_right'
  exact ⟨fun h => ⟨h.1, h.2.1, h.2.2.1, h.2.2.2⟩, fun h => ⟨h.phases, h.flags, h.chance, h.link⟩⟩

/-- What the kind of an event asks for is met exactly if the parameters in its slots are legal. -/
theorem met_kindConditions_iff (row : Row) (catalog : Catalog) (kinds : RowKinds)
    (hsource : kinds.source ≠ .timedActionList) {e1 e2 e3 e4 e5 : UInt32}
    (hslots : row.eventSlots.toList = [e1, e2, e3, e4, e5]) :
    Condition.Met ((row.event kinds.source kinds.event).kindConditions catalog kinds.source
        row.owner kinds.target) ↔ LegalParameters catalog kinds e1 e2 e3 e4 := by
  have hvector : row.eventSlots = #v[e1, e2, e3, e4, e5] := Vector.toList_inj.mp hslots
  have htext := row.met_textKnown_iff catalog kinds e1
  rw [Row.event, if_neg hsource, hvector] at htext ⊢
  obtain ⟨source, event, action, target⟩ := kinds
  unfold LegalParameters
  cases event
  case spellHit | spellHitTarget => exact catalog.met_spellSchool_iff e1 e2
  case respawn => exact Event.met_respawn_iff catalog source row.owner target e1 e2 e3
  case textOver =>
    apply htext.trans
    simp [HasText, hvector, or_iff_not_imp_left]
  case friendlyHealthPct =>
    cases target
    all_goals simp [Event.decode, Event.kindConditions]
  case distanceCreature => exact Condition.met_exactlyOne_iff .creature e1 e2 _ _
  case distanceGameObject => exact Condition.met_exactlyOne_iff .gameObject e1 e2 _ _
  case gameEventStart | gameEventEnd => exact catalog.met_gameEventUsable_iff e1
  case kill | summonedUnit | summonDespawned | transportAddCreature | victimCasting | hasAura |
      targetBuffed | friendlyMissingBuff | friendlyHealth | acceptedQuest | rewardQuest |
      receiveEmote | areaTriggerOnTrigger | counterSet =>
    simp [Event.decode, Event.kindConditions]
  case movementInform | actionDone | dummyEffect =>
    simp only [Event.decode, Event.kindConditions, Condition.met_cons_iff, Condition.met_nil,
      and_true, Condition.atMost_holds]
    rfl
  all_goals exact iff_of_true Condition.met_nil trivial

/-- An event meets its conditions if its windows are ordered, its percentages are no more than 100,
and the conditions of its kind are met. -/
theorem met_eventConditions_iff (catalog : Catalog) (source : Source) (owner : Int32)
    (target : Target.Kind) (event : Event) :
    Condition.Met (event.conditions catalog source owner target) ↔
      (∀ window ∈ event.orderedWindows, window.min ≤ window.max) ∧
        (∀ value ∈ event.percentages, value ≤ 100) ∧
          Condition.Met (event.kindConditions catalog source owner target) := by
  simp only [Event.conditions, Condition.Met, List.forall_mem_append, List.forall_mem_map,
    Condition.ordered_holds, Condition.percentage_holds, and_assoc]

/-- The event of a row meets its conditions, and the source may use it, exactly if the slots that it
is read from are legal. The timer of a timed action list is read from the same slots. -/
theorem met_event_iff (row : Row) (catalog : Catalog) (kinds : RowKinds)
    {e1 e2 e3 e4 e5 : UInt32} (hslots : row.eventSlots.toList = [e1, e2, e3, e4, e5]) :
    ((kinds.source = .timedActionList ∨
          kinds.event.allowedSources.meets kinds.source.toSet = true) ∧
        Condition.Met ((row.event kinds.source kinds.event).conditions catalog kinds.source
          row.owner kinds.target)) ↔
      LegalEventSlots catalog kinds e1 e2 e3 e4 := by
  have hvector : row.eventSlots = #v[e1, e2, e3, e4, e5] := Vector.toList_inj.mp hslots
  rw [met_eventConditions_iff, LegalEventSlots]
  by_cases hsource : kinds.source = .timedActionList
  · rw [if_pos hsource, and_iff_right (.inl hsource), Row.event, if_pos hsource, hvector]
    simp [Event.orderedWindows, Event.percentages, Event.kindConditions, Event.windows,
      WindowPair.toList]
  · rw [if_neg hsource, or_iff_right hsource,
      row.met_kindConditions_iff catalog kinds hsource hslots, Row.event, if_neg hsource, hvector,
      Event.forall_orderedWindows_iff, Event.forall_percentages_iff]

/-- The target stage accepts exactly the rows whose target slots are legal. -/
theorem targetVerdict_eq_ok_iff (row : Row) (catalog : Catalog) (kinds : RowKinds) :
    row.targetVerdict catalog kinds = .ok () ↔ row.HasLegalTarget catalog kinds := by
  rw [targetVerdict, Condition.verdict_eq_ok_iff]
  constructor
  · intro hmet
    obtain ⟨t1, t2, t3, hslots⟩ := row.exists_targetSlots
    exact ⟨t1, t2, t3, hslots, (row.met_targetConditions_iff catalog kinds hslots).mp hmet⟩
  · intro hlegal
    obtain ⟨t1, t2, t3, hslots, hlegal⟩ := hlegal
    exact (row.met_targetConditions_iff catalog kinds hslots).mpr hlegal

/-- The event stage accepts exactly the rows whose header and event slots are legal. -/
theorem eventVerdict_eq_ok_iff (row : Row) (catalog : Catalog) (kinds : RowKinds) :
    row.eventVerdict catalog kinds = .ok () ↔
      row.HasLegalHeader ∧ row.HasLegalEvent catalog kinds := by
  have hparts : row.eventVerdict catalog kinds = .ok () ↔
      Condition.Met (row.headerConditions kinds.source kinds.event) ∧
        Condition.Met ((row.event kinds.source kinds.event).conditions catalog kinds.source
          row.owner kinds.target) := by
    rw [eventVerdict, Condition.verdict_eq_ok_iff, eventConditions, List.forall_mem_append]
    rfl
  rw [hparts, met_headerConditions_iff]
  constructor
  · intro hmet
    obtain ⟨⟨hallowed, hheader⟩, hevent⟩ := hmet
    obtain ⟨e1, e2, e3, e4, e5, hslots⟩ := row.exists_eventSlots
    exact ⟨hheader, e1, e2, e3, e4, e5, hslots,
      (row.met_event_iff catalog kinds hslots).mp ⟨hallowed, hevent⟩⟩
  · intro hlegal
    obtain ⟨hheader, e1, e2, e3, e4, e5, hslots, hslotsLegal⟩ := hlegal
    obtain ⟨hallowed, hevent⟩ := (row.met_event_iff catalog kinds hslots).mpr hslotsLegal
    exact ⟨⟨hallowed, hheader⟩, hevent⟩

/-- The target and event stages accept exactly the legal rows, slot by slot: the target slots are
legal for the kind of the target, the modifiers keep their limits, and the event slots are legal for
the kind of the event and its source. -/
theorem targetVerdict_and_eventVerdict_eq_ok_iff (row : Row) (catalog : Catalog)
    (kinds : RowKinds) :
    (row.targetVerdict catalog kinds = .ok () ∧ row.eventVerdict catalog kinds = .ok ()) ↔
      row.HasLegalTarget catalog kinds ∧ row.HasLegalHeader ∧ row.HasLegalEvent catalog kinds := by
  rw [targetVerdict_eq_ok_iff, eventVerdict_eq_ok_iff]

end Row

end AiScript
