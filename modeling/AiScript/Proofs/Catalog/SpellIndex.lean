import AiScript.Proofs.Catalog.Registry
import AiScript.SpellIndex
import Mathlib.Data.List.Flatten

/-!
# What the spell index lists

The spell index goes through the spells by ascending id. It has a map for each helper effect, and
what it lists there for an entity are the effect slots that produce it, as they come. A scan of the
catalog that keeps no index finds the same (`lookup_build_eq_scan`). So the slots that are listed
for one catalog are among those that are listed for a larger one, in the same order.
-/

namespace AiScript

/-- Does an effect cover what an action would do to an entity? -/
def Helper.covers : Helper → UInt32 → SpellEffect → Bool
  | .summonCreature, entity, effect => effect.effect == 28 && effect.miscValue.toUInt32 == entity
  | .summonGameObject, entity, effect => effect.effect == 76 && effect.miscValue.toUInt32 == entity
  | .killCredit, entity, effect => effect.effect == 90 && effect.miscValue.toUInt32 == entity
  | .createItem, entity, effect => effect.effect == 24 && effect.itemType == entity

/-- The slots of a spell, out of the first three, whose effects pass a test. -/
def EffectSlot.scan (spell : UInt32) (effects : List SpellEffect) (test : SpellEffect → Bool) :
    List EffectSlot :=
  (List.range 3).filterMap fun number =>
    (effects[number]?.filter test).map fun _ => ⟨spell, UInt8.ofNat number⟩

/-- The slots of a catalog whose effects cover what an action would do to an entity, spell by
spell. -/
def Catalog.scan (catalog : Catalog) (helper : Helper) (entity : UInt32) : List EffectSlot :=
  catalog.spells.toList.flatMap fun spell =>
    EffectSlot.scan spell.id spell.effects (helper.covers entity)

/-- The slots of a catalog whose effects pass a test, spell by spell. -/
def Catalog.slotsWhere (catalog : Catalog) (test : SpellEffect → Bool) : List EffectSlot :=
  catalog.spells.toList.flatMap fun spell => EffectSlot.scan spell.id spell.effects test

/-- A code is read as the helper effect that has it. -/
theorem Helper.ofEffectCode?_eq_some_iff (code : UInt32) (helper : Helper) :
    ofEffectCode? code = some helper ↔ helper.effectCode = code := by
  constructor
  · intro hfound
    simpa using List.find?_some hfound
  · intro hcode
    subst hcode
    cases helper <;> rfl

/-- The first places of a list are looked at one by one. -/
private theorem filterMap_range_getElem? {α β : Type} (items : List α) (test : α → Bool)
    (name : Nat → β) (count : Nat) :
    ((List.range count).filterMap fun number =>
        (items[number]?.filter test).map fun _ => name number) =
      (((items.take count).mapIdx fun number item => (name number, item)).filter fun entry =>
        test entry.2).map Prod.fst := by
  induction count with
  | zero => rfl
  | succ count ih =>
    rw [List.range_succ, List.filterMap_append, ih, List.take_add_one, List.mapIdx_append,
      List.filter_append, List.map_append]
    congr 1
    cases hitem : items[count]? with
    | none => simp [hitem]
    | some item =>
      have hlength : (items.take count).length = count :=
        List.length_take_of_le (Nat.le_of_lt (List.getElem?_eq_some_iff.mp hitem).1)
      by_cases htest : test item = true <;> simp [hitem, hlength, htest]

/-- Scanning a spell gives those of its slots whose effects pass. -/
theorem EffectSlot.scan_eq_slots (spell : Spell) (test : SpellEffect → Bool) :
    scan spell.id spell.effects test =
      (spell.slots.filter fun slot => test slot.2).map Prod.fst :=
  filterMap_range_getElem? spell.effects test
    (fun number => (⟨spell.id, UInt8.ofNat number⟩ : EffectSlot)) 3

/-- Scanning a catalog gives those of the slots of its spells whose effects pass. -/
theorem Catalog.slotsWhere_eq_slots (catalog : Catalog) (test : SpellEffect → Bool) :
    catalog.slotsWhere test =
      ((catalog.spells.toList.flatMap Spell.slots).filter fun slot => test slot.2).map
        Prod.fst := by
  rw [slotsWhere, List.filter_flatMap, List.map_flatMap]
  exact List.flatMap_congr fun spell _ => EffectSlot.scan_eq_slots spell test

namespace SpellIndex

variable {helper : Helper} {entity : UInt32}

/-- Does a slot produce an entity by a helper effect? -/
def produces (helper : Helper) (entity : UInt32) (slot : EffectSlot × SpellEffect) : Bool :=
  slot.2.product? == some ⟨helper, entity⟩

/-- To change the map of one helper effect leaves the other maps alone. -/
theorem map_modifyMap (index : SpellIndex) (change : SlotMap → SlotMap) (helper other : Helper) :
    (index.modifyMap change helper).map other =
      if helper = other then change (index.map helper) else index.map other := by
  cases helper <;> cases other <;> rfl

/-- A slot is listed behind those that produce the same. -/
theorem lookup_add (index : SpellIndex) (product : Helper.Product) (slot : EffectSlot) :
    (index.add product slot).lookup helper entity =
      if product = ⟨helper, entity⟩ then index.lookup helper entity ++ [slot]
      else index.lookup helper entity := by
  obtain ⟨helper', entity'⟩ := product
  simp only [lookup, add, map_modifyMap, Helper.Product.mk.injEq]
  by_cases hhelper : helper' = helper
  · subst hhelper
    simp only [if_true, true_and, Std.ExtTreeMap.getElem?_alter,
      Std.LawfulEqCmp.compare_eq_iff_eq]
    split
    next hentity => rw [hentity, Option.getD_some]
    next => rfl
  · simp only [hhelper, if_false, false_and]

/-- A slot is listed if its effect is a helper effect. -/
theorem lookup_addEffect (index : SpellIndex) (slot : EffectSlot × SpellEffect) :
    (index.addEffect slot).lookup helper entity =
      index.lookup helper entity ++ if produces helper entity slot then [slot.1] else [] := by
  rw [addEffect, produces]
  cases hproduct : slot.2.product? with
  | none => exact (List.append_nil _).symm
  | some product =>
    dsimp only
    rw [lookup_add]
    by_cases hsame : product = ⟨helper, entity⟩
    · simp only [hsame, if_true, beq_self_eq_true]
    · have hother : (some product == some ⟨helper, entity⟩) = false := by
        rw [beq_eq_false_iff_ne, ne_eq, Option.some.injEq]
        exact hsame
      rw [if_neg hsame, hother, if_neg Bool.false_ne_true, List.append_nil]

/-- Slots that are added one after the other are listed as they come. -/
theorem lookup_foldl_addEffect (slots : List (EffectSlot × SpellEffect)) (index : SpellIndex) :
    (slots.foldl addEffect index).lookup helper entity =
      index.lookup helper entity ++ (slots.filter (produces helper entity)).map Prod.fst := by
  induction slots generalizing index with
  | nil => exact (List.append_nil _).symm
  | cons slot rest ih =>
    rw [List.foldl_cons, ih, lookup_addEffect, List.append_assoc, List.filter_cons]
    split <;> rfl

/-- For an entity, the slots of a catalog are listed that produce it, spell by spell. -/
theorem lookup_build (catalog : Catalog) (helper : Helper) (entity : UInt32) :
    (build catalog).lookup helper entity =
      ((catalog.spells.toList.flatMap Spell.slots).filter (produces helper entity)).map
        Prod.fst := by
  have hempty : empty.lookup helper entity = [] := by
    cases helper <;>
      simp only [lookup, map, empty, Std.ExtTreeMap.getElem?_empty, Option.getD_none]
  rw [build, lookup_foldl_addEffect, hempty, List.nil_append]

/-- An effect produces an entity by a helper effect exactly if it covers it. -/
theorem produces_eq_covers (slot : EffectSlot × SpellEffect) :
    produces helper entity slot = helper.covers entity slot.2 := by
  rw [produces, SpellEffect.product?, Bool.eq_iff_iff, beq_iff_eq, Option.map_eq_some_iff]
  simp only [Helper.ofEffectCode?_eq_some_iff, Helper.Product.mk.injEq]
  constructor
  · intro hproduct
    obtain ⟨found, hcode, rfl, hentity⟩ := hproduct
    cases found <;> simp_all [Helper.covers, Helper.effectCode, Helper.entity]
  · intro hcovers
    cases helper <;> simp_all [Helper.covers, Helper.effectCode, Helper.entity]

/-- For an entity, the index lists what a direct scan finds. -/
theorem lookup_build_eq_scan (catalog : Catalog) (helper : Helper) (entity : UInt32) :
    (build catalog).lookup helper entity = catalog.scan helper entity := by
  have hproduces : produces helper entity = fun slot => helper.covers entity slot.2 :=
    funext produces_eq_covers
  rw [lookup_build, hproduces, ← Catalog.slotsWhere_eq_slots]
  rfl

/-- The slots of a catalog are listed among those of a larger one. -/
theorem lookup_build_sublist {catalog larger : Catalog} (h : catalog.spells.Within larger.spells)
    (helper : Helper) (entity : UInt32) :
    ((build catalog).lookup helper entity).Sublist ((build larger).lookup helper entity) := by
  rw [lookup_build, lookup_build]
  exact ((h.toList_sublist.flatMap Spell.slots).filter _).map Prod.fst

end SpellIndex

end AiScript
