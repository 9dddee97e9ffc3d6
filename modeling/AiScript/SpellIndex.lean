import AiScript.Catalog

/-!
# Spells that already do the work

Some spell effects summon a creature or a game object, grant credit for a kill, or create an item.
A rule whose action does the same to the same entity is redundant where such a spell exists. The
index lists, for each such effect and entity, the effect slots of the catalog that produce it.
-/

namespace AiScript

/-- A spell effect that an action can duplicate. -/
inductive Helper where
  | summonCreature | summonGameObject | killCredit | createItem
deriving DecidableEq

namespace Helper

/-- Every helper effect. -/
def all : List Helper := [.summonCreature, .summonGameObject, .killCredit, .createItem]

/-- The number of the effect in spell records. -/
def effectCode : Helper → UInt32
  | .summonCreature => 28 | .summonGameObject => 76 | .killCredit => 90 | .createItem => 24

/-- The name of a helper effect in messages. -/
def name : Helper → String
  | .summonCreature => "summon creature" | .summonGameObject => "summon gameobject"
  | .killCredit => "kill credit" | .createItem => "create item"

/-- The helper effect with a given number. -/
def ofEffectCode? (code : UInt32) : Option Helper :=
  all.find? fun helper => helper.effectCode == code

/-- The entity that an effect produces: the item type for created items, and the other value,
negative ones wrapped around, for all else. -/
def entity : Helper → SpellEffect → UInt32
  | .createItem, effect => effect.itemType
  | _, effect => effect.miscValue.toUInt32

end Helper

/-- One effect slot of one spell. -/
structure EffectSlot where
  spell : UInt32
  slot : UInt8
deriving DecidableEq

/-- The effect slots of a spell that are looked at, with their numbers. -/
def Spell.slots (spell : Spell) : List (EffectSlot × SpellEffect) :=
  (spell.effects.take Spell.slotCount).mapIdx fun number effect =>
    (⟨spell.id, UInt8.ofNat number⟩, effect)

/-- A helper effect, and the entity that it produces. -/
structure Helper.Product where
  helper : Helper
  entity : UInt32
deriving DecidableEq

/-- What an effect produces, if it is a helper effect. -/
def SpellEffect.product? (effect : SpellEffect) : Option Helper.Product :=
  (Helper.ofEffectCode? effect.effect).map fun helper => ⟨helper, helper.entity effect⟩

/-- Effect slots, by the entity that they produce. -/
abbrev SlotMap := Std.ExtTreeMap UInt32 (List EffectSlot)

/-- The effect slots of a catalog, by what they produce. There is a map for each helper effect. -/
structure SpellIndex where
  summonCreature : SlotMap := ∅
  summonGameObject : SlotMap := ∅
  killCredit : SlotMap := ∅
  createItem : SlotMap := ∅

namespace SpellIndex

/-- The index without entries. -/
def empty : SpellIndex := {}

/-- The map of a helper effect. -/
def map (index : SpellIndex) : Helper → SlotMap
  | .summonCreature => index.summonCreature
  | .summonGameObject => index.summonGameObject
  | .killCredit => index.killCredit
  | .createItem => index.createItem

/-- Change the map of a helper effect. -/
def modifyMap (index : SpellIndex) (change : SlotMap → SlotMap) : Helper → SpellIndex
  | .summonCreature => { index with summonCreature := change index.summonCreature }
  | .summonGameObject => { index with summonGameObject := change index.summonGameObject }
  | .killCredit => { index with killCredit := change index.killCredit }
  | .createItem => { index with createItem := change index.createItem }

/-- Add a slot behind those that produce the same. -/
def add (index : SpellIndex) (product : Helper.Product) (slot : EffectSlot) : SpellIndex :=
  index.modifyMap
    (fun slots => slots.alter product.entity fun listed => some (listed.getD [] ++ [slot]))
    product.helper

/-- Add a slot if its effect is a helper effect. -/
def addEffect (index : SpellIndex) (slot : EffectSlot × SpellEffect) : SpellIndex :=
  match slot.2.product? with
  | some product => index.add product slot.1
  | none => index

/-- Index every effect slot of a catalog, spell by spell in ascending order. -/
def build (catalog : Catalog) : SpellIndex :=
  (catalog.spells.toList.flatMap Spell.slots).foldl addEffect empty

/-- The slots that produce an entity, in the order in which they were added. -/
def lookup (index : SpellIndex) (helper : Helper) (entity : UInt32) : List EffectSlot :=
  (index.map helper)[entity]?.getD []

/-- The number of indexed slots, in all four maps. -/
def size (index : SpellIndex) : Nat :=
  ((Helper.all.flatMap fun helper => (index.map helper).values).map List.length).foldr (· + ·) 0

/-- Is nothing indexed? -/
def isEmpty (index : SpellIndex) : Bool := index.size = 0

end SpellIndex

end AiScript
