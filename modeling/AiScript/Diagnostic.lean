import AiScript.Rule
import AiScript.SpellIndex
import AiScript.Waypoint

/-!
# Diagnostics

A rejection drops the row that it was raised for, and a warning does not. Both are causes first;
their texts, which go to the log and to the report, are functions of the cause. A diagnostic ties
either to the row that it is about.
-/

namespace AiScript

/-- What a row can refer to. -/
inductive Reference where
  | spell | creatureTemplate | creatureSpawn | gameObjectTemplate | gameObjectSpawn | quest
  | gameEvent | creatureText | faction | displayModel | sound | emote | textEmote | taxiPath | item
  | map | area | areaTrigger | waypointPath | equipment
deriving DecidableEq

/-- The name of a referent in messages. -/
def Reference.name : Reference → String
  | .spell => "spell" | .creatureTemplate => "creature entry" | .creatureSpawn => "creature guid"
  | .gameObjectTemplate => "gameobject entry" | .gameObjectSpawn => "gameobject guid"
  | .quest => "quest" | .gameEvent => "game event" | .creatureText => "creature text group"
  | .faction => "faction" | .displayModel => "display model" | .sound => "sound"
  | .emote => "emote" | .textEmote => "text emote" | .taxiPath => "taxi path" | .item => "item"
  | .map => "map" | .area => "area" | .areaTrigger => "area trigger"
  | .waypointPath => "waypoint path" | .equipment => "equipment"

/-- A number of a row that is limited by itself, without regard to the catalog. -/
inductive Quantity where
  | radius | motionType | effectIndex | eventId | counterId | counterValue | maxDistance | quest
  | itemCount | phaseStep | summonType | sheathState | reactState | aiTemplate | powerType
  | gameEvent
deriving DecidableEq

/-- The name of a quantity in messages. -/
def Quantity.name : Quantity → String
  | .radius => "radius" | .motionType => "motion type" | .effectIndex => "effect index"
  | .eventId => "event id" | .counterId => "counter id" | .counterValue => "counter value"
  | .maxDistance => "max distance" | .quest => "quest" | .itemCount => "item count"
  | .phaseStep => "phase increment and decrement" | .summonType => "summon type"
  | .sheathState => "sheath state" | .reactState => "react state"
  | .aiTemplate => "AI template id" | .powerType => "power type" | .gameEvent => "game event"

/-- Two numbers of a row of which at most one may be given. -/
inductive Alternatives where
  | creature | gameObject | appearance
deriving DecidableEq

/-- The name of a pair of alternatives in messages. -/
def Alternatives.name : Alternatives → String
  | .creature => "creature guid or entry" | .gameObject => "gameobject guid or entry"
  | .appearance => "creature entry and model id"

/-- Why a row is dropped. -/
inductive Rejection where
  | unknownSource (code : UInt8)
  | unimplementedSource (code : UInt8)
  | ownerNotFound (owner : Reference) (id : UInt32)
  | ownerWrongDriver (owner : Reference) (id : UInt32) (driver : String)
  | negativeOwner (source : Source) (owner : Int32)
  | unknownEvent (code : UInt8)
  | unknownAction (code : UInt8)
  | unknownTarget (code : UInt8)
  | eventNotAllowed (event : Event.Kind) (source : Source)
  | invalidPhaseMask (bits : UInt8)
  | invalidFlags (bits : UInt8)
  | chanceOutOfRange (chance : UInt8)
  | selfLink (id : UInt16)
  | duplicateId (id : UInt16)
  | missingReference (what : Reference) (id : UInt32)
  | reversedWindow (window : Window)
  | percentOutOfRange (value : UInt32)
  | phaseOutOfRange (phase : UInt32)
  | zeroQuantity (what : Quantity)
  | noAlternative (which : Alternatives)
  | bothAlternatives (which : Alternatives)
  | invalidQuantity (what : Quantity) (value : UInt32)
  | incompatibleTarget (kind : Target.Kind)
  | schoolMismatch (spell school : UInt32)
  | questWithoutEvent (quest : UInt32)
deriving DecidableEq

/-- A number in lower-case hexadecimal. -/
def hexadecimal (number : Nat) : String := "0x" ++ String.ofList (Nat.toDigits 16 number)

/-- The text of a rejection. -/
def Rejection.text : Rejection → String
  | .unknownSource code => s!"invalid source_type ({code})"
  | .unimplementedSource code => s!"not yet implemented source_type {code}"
  | .ownerNotFound owner id => s!"{owner.name} ({id}) does not exist"
  | .ownerWrongDriver owner id driver => s!"{owner.name} ({id}) is not using {driver}"
  | .negativeOwner source owner => s!"{source.name} owner key {owner} cannot be negative"
  | .unknownEvent code => s!"invalid event type ({code})"
  | .unknownAction code => s!"invalid action type ({code})"
  | .unknownTarget code => s!"invalid target type ({code})"
  | .eventNotAllowed event source =>
    s!"event type {event.name} can not be used for script type {source.name}"
  | .invalidPhaseMask bits => s!"invalid phase mask ({hexadecimal bits.toNat})"
  | .invalidFlags bits => s!"invalid event flags ({hexadecimal bits.toNat})"
  | .chanceOutOfRange chance => s!"event chance {chance} is above 100"
  | .selfLink id => s!"event {id} is linking self (infinite loop)"
  | .duplicateId id => s!"event id {id} is already used in this chain"
  | .missingReference what id => s!"uses non-existent {what.name} {id}"
  | .reversedWindow window => s!"min ({window.min}) is greater than max ({window.max})"
  | .percentOutOfRange value => s!"pct value {value} is above 100"
  | .phaseOutOfRange phase =>
    s!"attempts to use phase {phase}, phases stop at {PhaseMask.phaseEnd - 1}"
  | .zeroQuantity what => s!"{what.name} must not be zero"
  | .noAlternative which => s!"did not provide {which.name}"
  | .bothAlternatives which => s!"provided both halves of {which.name}"
  | .invalidQuantity what value => s!"uses invalid {what.name} {value}"
  | .incompatibleTarget kind => s!"uses incompatible target type {kind.name}"
  | .schoolMismatch spell school =>
    s!"uses spell {spell} with invalid school mask {hexadecimal school.toNat}"
  | .questWithoutEvent quest =>
    s!"special flags for quest {quest} do not include EXPLORATION_OR_EVENT"

/-- What is amiss with a row that is kept. -/
inductive Warning where
  | orientationOutOfRange (orientation : Single)
  | redundantEffect (helper : Helper) (entity : UInt32) (slot : EffectSlot)
  | killCreditTargetsCaster (slot : EffectSlot)
  | danglingLink (link : UInt16)
  | unreachableLinkEvent
deriving DecidableEq

/-- The text of a warning. -/
def Warning.text : Warning → String
  | .orientationOutOfRange orientation =>
    s!"has abs(target.o = {orientation.text}) > 2*PI (orientation is expressed in radians)"
  | .redundantEffect helper entity slot =>
    s!"there is a {helper.name} spell for entry {entity} (spell {slot.spell}, effect {slot.slot})"
  | .killCreditTargetsCaster slot =>
    s!"kill credit effect of spell {slot.spell} (effect {slot.slot}) targets the caster"
  | .danglingLink link => s!"link event {link} not found or invalid"
  | .unreachableLinkEvent => "link source event not found or invalid, event will never trigger"

/-- As much of a row as is needed to find it again in storage. -/
structure RowContext where
  owner : Int32
  sourceCode : UInt8
  id : UInt16
  link : UInt16
  eventCode : UInt8
  actionCode : UInt8
  targetCode : UInt8
deriving DecidableEq

namespace RowContext

/-- The text of a row context. -/
def text (context : RowContext) : String :=
  s!"Entry {context.owner} SourceType {context.sourceCode} Event {context.id} "
    ++ s!"(type {context.eventCode}) Action {context.actionCode} Target {context.targetCode}"

end RowContext

/-- The context of a row. -/
def Row.context (row : Row) : RowContext :=
  ⟨row.owner, row.sourceCode, row.id, row.link, row.eventCode, row.actionCode, row.targetCode⟩

/-- The context of a rule. -/
def Rule.context (rule : Rule) : RowContext :=
  ⟨rule.owner, rule.source.code, rule.id, rule.link, rule.eventKind.code, rule.action.kind.code,
    rule.target.kind.code⟩

/-- A reason, and the row that it is about. -/
structure Diagnostic (α : Type) where
  row : RowContext
  reason : α
deriving DecidableEq

/-- The text of a diagnostic, given the text of its reason. -/
def Diagnostic.text {α : Type} (reasonText : α → String) (diagnostic : Diagnostic α) : String :=
  s!"{diagnostic.row.text}: {reasonText diagnostic.reason}"

/-- The outcome of a rule load. -/
structure LoadReport where
  /-- The number of chains. -/
  entities : Nat := 0
  /-- The number of rows that were kept. -/
  rules : Nat := 0
  rejected : List (Diagnostic Rejection) := []
  warnings : List (Diagnostic Warning) := []

namespace LoadReport

/-- The ids of the rejected rows of an owner. -/
def rejectedIds (report : LoadReport) (owner : Int32) : List UInt16 :=
  (report.rejected.filter fun diagnostic => diagnostic.row.owner == owner).map fun diagnostic =>
    diagnostic.row.id

/-- Was a row of an owner rejected for a reason like this? -/
def wasRejectedFor (report : LoadReport) (owner : Int32) (id : UInt16)
    (like : Rejection → Bool) : Bool :=
  report.rejected.any fun diagnostic =>
    diagnostic.row.owner == owner && diagnostic.row.id == id && like diagnostic.reason

end LoadReport

/-- The text of a gap in a path. -/
def WaypointGap.text (gap : WaypointGap) : String :=
  s!"path entry {gap.path}, unexpected point id {gap.found}, expected {gap.expected}"

end AiScript
