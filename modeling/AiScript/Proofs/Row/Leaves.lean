import AiScript.Proofs.Row.Decoding
import AiScript.Proofs.Row.LegalEvent
import Mathlib.Data.List.Forall2

/-!
# Slots survive decoding

A payload is made of numbers and truth values, which are its leaves; windows and lists come apart
into theirs. Whatever the kind, the leaves in the order of their fields are spelled by the slots in
front, one slot for each: none is skipped, repeated or swapped with another. Nothing else is in a
payload, as the kind and the leaves are enough to decode it again. So a rule carries what its row
says, and the one thing that a row says in vain is the kind of event in a timed action list.
-/

namespace AiScript

/-- A value of a payload that one slot spells. -/
inductive Leaf where
  | number (value : UInt32)
  | truth (value : Bool)
deriving DecidableEq

namespace Leaf

/-- A leaf says what a slot does: the same number, or whether the slot is any but zero. -/
def Reads : Leaf → UInt32 → Prop
  | .number value, slot => value = slot
  | .truth value, slot => value = true ↔ slot ≠ 0

/-- The leaf of the same sort that a slot spells. -/
def reread : Leaf → UInt32 → Leaf
  | .number _, slot => .number slot
  | .truth _, slot => .truth (slot != 0)

/-- A slot that spells a leaf. -/
def slot : Leaf → UInt32
  | .number value => value
  | .truth value => if value then 1 else 0

/-- Slots that spell leaves, with zeros behind. -/
def slots (size : Nat) (leaves : List Leaf) : Vector UInt32 size :=
  .ofFn fun place => (leaves[place]?.map slot).getD 0

end Leaf

/-- The leaves of a field. -/
def Field.leaves : Field → List Leaf
  | .word value => [.number value]
  | .flag value => [.truth value]
  | .window value => [.number value.min, .number value.max]
  | .windows value => value.toList.flatMap fun window => [.number window.min, .number window.max]
  | .words values => values.map .number

/-- The leaves of named fields, field by field. -/
def Field.leavesOf (fields : List (String × Field)) : List Leaf :=
  fields.flatMap fun field => field.2.leaves

/-- The leaves of an event. -/
def Event.leaves (event : Event) : List Leaf := Field.leavesOf event.fields

/-- The leaves of an action. -/
def Action.leaves (action : Action) : List Leaf := Field.leavesOf action.fields

/-- The leaves of a selection. -/
def Target.Selection.leaves (selection : Selection) : List Leaf := Field.leavesOf selection.fields

/-- Leaves are spelled by the slots in front, one slot for each, in their order. -/
def SpelledBy (leaves : List Leaf) (slots : List UInt32) : Prop :=
  List.Forall₂ Leaf.Reads leaves (slots.take leaves.length)

/-- A leaf says what the slot does that it is read from. -/
theorem Leaf.reads_reread (leaf : Leaf) (slot : UInt32) : (leaf.reread slot).Reads slot := by
  cases leaf with
  | number value => rfl
  | truth value => exact bne_iff_ne

/-- Leaves that come out the same when they are read from the slots again are spelled by these. -/
theorem SpelledBy.of_reread {leaves : List Leaf} {slots : List UInt32}
    (h : leaves = List.zipWith Leaf.reread leaves slots) : SpelledBy leaves slots := by
  induction leaves generalizing slots with
  | nil => exact .nil
  | cons leaf rest ih =>
    cases slots with
    | nil => cases h
    | cons slot others =>
      rw [List.zipWith_cons_cons, List.cons.injEq] at h
      refine .cons ?_ (ih h.2)
      rw [h.1]
      exact leaf.reads_reread slot

/-- Slots are what is read at each place. -/
theorem exists_eq_ofFn {size : Nat} (slots : Vector UInt32 size) :
    ∃ read : Fin size → UInt32, slots = .ofFn read :=
  ⟨fun place => slots[place], by ext place hplace; simp⟩

namespace Event

/-- The leaves of what is decoded are spelled by the slots. -/
theorem spelledBy_decode (kind : Kind) (slots : EventSlots) :
    SpelledBy (decode kind slots).leaves slots.toList := by
  obtain ⟨read, rfl⟩ := exists_eq_ofFn slots
  apply SpelledBy.of_reread
  cases kind <;> rfl

/-- The kind and the leaves are enough to decode an event again. -/
theorem decode_leaves (event : Event) :
    decode event.kind (Leaf.slots 5 event.leaves) = event := by
  cases event
  case kill _ truth _ | oocLos truth _ _ | icLos truth _ _ | charmed truth =>
    cases truth <;> rfl
  all_goals rfl

end Event

namespace Action

/-- The leaves of what is decoded are spelled by the slots. -/
theorem spelledBy_decode (kind : Kind) (slots : ActionSlots) :
    SpelledBy (decode kind slots).leaves slots.toList := by
  obtain ⟨read, rfl⟩ := exists_eq_ofFn slots
  apply SpelledBy.of_reread
  cases kind <;> rfl

/-- The kind and the leaves are enough to decode an action again. -/
theorem decode_leaves (action : Action) :
    decode action.kind (Leaf.slots 6 action.leaves) = action := by
  cases action
  case autoAttack truth | allowCombatMovement truth | fleeForAssist truth | setVisibility truth |
      setActive truth | setRun truth | setFly truth | setSwim truth | setHealthRegen truth |
      setRoot truth | sound _ truth | updateTemplate _ truth | callForHelp _ truth |
      summonCreatureGroup _ truth | talk _ _ truth | waypointStop _ _ truth |
      setCounter _ _ truth | callTimedActionList _ _ truth | summonCreature _ _ _ _ truth =>
    cases truth <;> rfl
  case waypointStart first _ second _ _ _ | interruptSpell first _ second =>
    cases first <;> cases second <;> rfl
  case randomEmote values | randomPhase values | callRandomTimedActionList values |
      startClosestWaypoint values | installAiTemplate _ values | equip _ _ values |
      crossCast _ _ _ values =>
    obtain ⟨read, rfl⟩ := exists_eq_ofFn values
    rfl
  case randomSound values truth =>
    obtain ⟨read, rfl⟩ := exists_eq_ofFn values
    cases truth <;> rfl
  all_goals rfl

end Action

namespace Target

/-- The leaves of what is decoded are spelled by the slots. -/
theorem Selection.spelledBy_decode (kind : Kind) (slots : TargetSlots) :
    SpelledBy (decode kind slots).leaves slots.toList := by
  obtain ⟨read, rfl⟩ := exists_eq_ofFn slots
  apply SpelledBy.of_reread
  cases kind <;> rfl

/-- The kind and the leaves are enough to decode a selection again. -/
theorem Selection.decode_leaves (selection : Selection) :
    decode selection.kind (Leaf.slots 3 selection.leaves) = selection := by
  cases selection
  case closestCreature _ _ truth | closestEnemy _ truth | closestFriendly _ truth =>
    cases truth <;> rfl
  all_goals rfl

end Target

/-- A rule carries what its row says. Codes are read as kinds, and slots as the leaves of these. -/
structure Rule.Carries (rule : Rule) (row : Row) : Prop where
  owner : rule.owner = row.owner
  source : rule.source.code = row.sourceCode
  id : rule.id = row.id
  link : rule.link = row.link
  phaseMask : rule.trigger.phaseMask.bits = row.phaseMask
  chance : rule.trigger.chance = row.chance
  /-- Bits without a meaning are carried like any other. -/
  flags : rule.trigger.flags.bits = row.flags
  /-- The event, unless the row is of a timed action list. -/
  event : rule.source ≠ .timedActionList →
    Event.Kind.ofCode? row.eventCode = some rule.eventKind ∧
      SpelledBy rule.trigger.event.leaves row.eventSlots.toList
  /-- The timer of a timed action list, which is there whatever event the row names. -/
  timer : rule.source = .timedActionList →
    ∃ e1 e2 e3 e4 e5, row.eventSlots.toList = [e1, e2, e3, e4, e5] ∧
      rule.trigger.event = .updateOoc ⟨⟨e1, e2⟩, ⟨e3, e4⟩⟩
  action : Action.Kind.ofCode? row.actionCode = some rule.action.kind
  actionLeaves : SpelledBy rule.action.leaves row.actionSlots.toList
  target : Target.Kind.ofCode? row.targetCode = some rule.target.kind
  targetLeaves : SpelledBy rule.target.selection.leaves row.targetSlots.toList
  position : rule.target.position = row.position

namespace Row

variable {row : Row} {catalog : Catalog} {kinds : RowKinds}

/-- The rows of a timed action list stand for a timer with the windows of the first four slots. -/
theorem exists_timer (row : Row) {source : Source} (h : source = .timedActionList)
    (kind : Event.Kind) :
    ∃ e1 e2 e3 e4 e5, row.eventSlots.toList = [e1, e2, e3, e4, e5] ∧
      row.event source kind = .updateOoc ⟨⟨e1, e2⟩, ⟨e3, e4⟩⟩ := by
  obtain ⟨e1, e2, e3, e4, e5, hslots⟩ := row.exists_eventSlots
  have hvector : row.eventSlots = #v[e1, e2, e3, e4, e5] := Vector.toList_inj.mp hslots
  refine ⟨e1, e2, e3, e4, e5, hslots, ?_⟩
  rw [event, if_pos h, hvector]
  rfl

/-- Any other row stands for an event of the kind that it names, spelled by its slots. -/
theorem spelledBy_event (row : Row) {source : Source} (h : source ≠ .timedActionList)
    (kind : Event.Kind) :
    (row.event source kind).kind = kind ∧
      SpelledBy (row.event source kind).leaves row.eventSlots.toList := by
  rw [event, if_neg h]
  exact ⟨Event.kind_decode kind row.eventSlots, Event.spelledBy_decode kind row.eventSlots⟩

/-- The rule that an identified row spells carries what the row says. -/
theorem carries_rule (h : row.identify catalog = .ok kinds) : (row.rule kinds).Carries row := by
  obtain ⟨source, -, hkinds⟩ := (identify_eq_ok_iff row catalog kinds).mp h
  obtain ⟨-, hevent, haction, htarget⟩ := (kinds_eq_ok_iff row source kinds).mp hkinds
  exact
    { owner := rfl
      source := (names_of_identify h).source_code
      id := rfl
      link := rfl
      phaseMask := rfl
      chance := rfl
      flags := rfl
      event := fun hsource => by
        obtain ⟨hkind, hleaves⟩ := row.spelledBy_event hsource kinds.event
        exact ⟨hevent.trans (congrArg some hkind.symm), hleaves⟩
      timer := fun hsource => row.exists_timer hsource kinds.event
      action := haction.trans
        (congrArg some (Action.kind_decode kinds.action row.actionSlots).symm)
      actionLeaves := Action.spelledBy_decode kinds.action row.actionSlots
      target := htarget.trans
        (congrArg some (Target.kind_decode kinds.target row.targetSlots row.position).symm)
      targetLeaves := Target.Selection.spelledBy_decode kinds.target row.targetSlots
      position := rfl }

/-- Decoding keeps the kind, and spells the leaves by the slots in front; nothing but the kind and
the leaves is in what is decoded, and a position stays as it is. So the rule that a row comes out as
carries what the row says. -/
theorem decoding_faithful (world : Surroundings) :
    (∀ kind slots, (Event.decode kind slots).kind = kind ∧
      SpelledBy (Event.decode kind slots).leaves slots.toList) ∧
    (∀ kind slots, (Action.decode kind slots).kind = kind ∧
      SpelledBy (Action.decode kind slots).leaves slots.toList) ∧
    (∀ kind slots position, (Target.decode kind slots position).kind = kind ∧
      SpelledBy (Target.decode kind slots position).selection.leaves slots.toList ∧
      (Target.decode kind slots position).position = position) ∧
    (∀ event : Event, Event.decode event.kind (Leaf.slots 5 event.leaves) = event) ∧
    (∀ action : Action, Action.decode action.kind (Leaf.slots 6 action.leaves) = action) ∧
    (∀ target : Target,
      Target.decode target.kind (Leaf.slots 3 target.selection.leaves) target.position = target) ∧
    ∀ (row : Row) (rule : Rule), (row.examine world).result = .ok rule → rule.Carries row := by
  refine ⟨fun kind slots => ⟨Event.kind_decode kind slots, Event.spelledBy_decode kind slots⟩,
    fun kind slots => ⟨Action.kind_decode kind slots, Action.spelledBy_decode kind slots⟩,
    fun kind slots position => ⟨Target.kind_decode kind slots position,
      Target.Selection.spelledBy_decode kind slots, rfl⟩,
    Event.decode_leaves, Action.decode_leaves, ?_, ?_⟩
  · rintro ⟨selection, position⟩
    rw [Target.decode, Target.kind, Target.Selection.decode_leaves]
  · intro row rule hrule
    obtain ⟨kinds, hpasses, rfl⟩ := (examine_result_eq_ok_iff row world rule).mp hrule
    exact carries_rule hpasses.identified

/-- A row of a timed action list that names another event, has a flag without a meaning, and spells
a text. -/
def timedTalkRow : Row :=
  { owner := 7, sourceCode := 9, id := 1, eventCode := 4, flags := 32,
    eventSlots := #v[1, 2, 3, 4, 5], actionCode := 1, actionSlots := #v[6, 7, 8, 0, 0, 0],
    targetCode := 1 }

/-- Its rule is on a timer, and the last slot of the text counts as true. -/
theorem decoding_faithful_timedTalkRow :
    ∃ rule : Rule, (timedTalkRow.examine {}).result = .ok rule ∧ rule.Carries timedTalkRow ∧
      rule.action = .talk 6 7 true ∧ rule.trigger.event = .updateOoc ⟨⟨1, 2⟩, ⟨3, 4⟩⟩ ∧
      rule.trigger.flags.bits = 32 := by
  have hrule : (timedTalkRow.examine {}).result =
      .ok (timedTalkRow.rule ⟨.timedActionList, .aggro, .talk, .selfUnit⟩) := rfl
  obtain ⟨-, -, -, -, -, -, hcarries⟩ := decoding_faithful {}
  have hcarried := hcarries _ _ hrule
  obtain ⟨e1, e2, e3, e4, e5, hslots, htimer⟩ := hcarried.timer rfl
  cases hslots
  exact ⟨_, hrule, hcarried, rfl, htimer, hcarried.flags⟩

end Row

end AiScript
