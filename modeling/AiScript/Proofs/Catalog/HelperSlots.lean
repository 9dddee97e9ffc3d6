import AiScript.Proofs.Catalog.SpellIndex
import AiScript.Proofs.Groups

/-!
# What the spell index holds

The helper slots of a catalog are those effect slots, out of the first three of each spell, whose
effects an action can duplicate. Each of them stands in the index under the one product that its
effect has, and there once; nothing else is in the index. So the index and a direct scan of the
catalog agree for each product, and the index is as large as there are helper slots.

Nothing is asked of the catalog. Spells may have more effects than are looked at, and values may be
negative; these are read as the numbers that they wrap around to.
-/

namespace AiScript

namespace EffectSlot

/-- Slots go by spell, then by number. -/
def ComesBefore (a b : EffectSlot) : Prop :=
  a.spell < b.spell ∨ a.spell = b.spell ∧ a.slot < b.slot

/-- No slot comes before itself. -/
theorem ne_of_comesBefore {a b : EffectSlot} (h : a.ComesBefore b) : a ≠ b := by
  rintro rfl
  rcases h with hspell | ⟨-, hslot⟩
  · exact UInt32.lt_irrefl _ hspell
  · exact UInt8.lt_irrefl _ hslot

variable {spell : UInt32} {effects : List SpellEffect} {test : SpellEffect → Bool}
  {slot : EffectSlot}

/-- The numbers that are looked at survive being stored in a byte. -/
theorem toNat_ofNat_of_lt {number : Nat} (h : number < 3) : (UInt8.ofNat number).toNat = number :=
  UInt8.toNat_ofNat_of_lt' (Nat.lt_trans h (by decide))

/-- A scan of a spell finds the slots below 3 whose effects pass. -/
theorem mem_scan_iff : slot ∈ scan spell effects test ↔ slot.spell = spell ∧ slot.slot < 3 ∧
    ∃ effect, effects[slot.slot.toNat]? = some effect ∧ test effect = true := by
  simp only [scan, List.mem_filterMap, List.mem_range, Option.map_eq_some_iff,
    Option.filter_eq_some_iff]
  constructor
  · rintro ⟨number, hnumber, effect, ⟨heffect, htest⟩, rfl⟩
    refine ⟨rfl, ?_, effect, ?_, htest⟩
    · rw [UInt8.lt_iff_toNat_lt, toNat_ofNat_of_lt hnumber]
      exact hnumber
    · rwa [toNat_ofNat_of_lt hnumber]
  · rintro ⟨rfl, hslot, effect, heffect, htest⟩
    refine ⟨slot.slot.toNat, UInt8.lt_iff_toNat_lt.mp hslot, effect, ⟨heffect, htest⟩, ?_⟩
    rw [UInt8.ofNat_toNat]

/-- A scan of a spell finds slots by ascending number. -/
theorem scan_ordered : (scan spell effects test).Pairwise ComesBefore := by
  have hlt : (List.range 3).Pairwise fun a b => a < 3 ∧ b < 3 ∧ a < b := by decide
  refine List.Pairwise.filterMap _ ?_ hlt
  rintro a b ⟨ha, hb, hab⟩ first hfirst second hsecond
  obtain ⟨-, -, rfl⟩ := Option.map_eq_some_iff.mp hfirst
  obtain ⟨-, -, rfl⟩ := Option.map_eq_some_iff.mp hsecond
  refine .inr ⟨rfl, ?_⟩
  rw [UInt8.lt_iff_toNat_lt, toNat_ofNat_of_lt ha, toNat_ofNat_of_lt hb]
  exact hab

end EffectSlot

namespace Catalog

/-- A spell of the catalog has an effect at a slot that is looked at. -/
def HasEffect (catalog : Catalog) (slot : EffectSlot) (effect : SpellEffect) : Prop :=
  slot.slot < 3 ∧ ∃ spell, catalog.spells.find? slot.spell = some spell ∧
    spell.effects[slot.slot.toNat]? = some effect

/-- The slots of a catalog whose effects an action can duplicate. -/
def helperSlots (catalog : Catalog) : List EffectSlot :=
  catalog.slotsWhere fun effect => effect.effect ∈ ([28, 76, 90, 24] : List UInt32)

variable {catalog : Catalog} {slot : EffectSlot} {test : SpellEffect → Bool}

/-- There is one effect at a slot. -/
theorem HasEffect.unique {a b : SpellEffect} (ha : catalog.HasEffect slot a)
    (hb : catalog.HasEffect slot b) : a = b := by
  obtain ⟨-, spell, hspell, ha⟩ := ha
  obtain ⟨-, other, hother, hb⟩ := hb
  rw [hspell, Option.some.injEq] at hother
  rwa [← hother, ha, Option.some.injEq] at hb

/-- The slots that pass are those with an effect that passes. -/
theorem mem_slotsWhere_iff :
    slot ∈ catalog.slotsWhere test ↔
      ∃ effect, catalog.HasEffect slot effect ∧ test effect = true := by
  simp only [slotsWhere, List.mem_flatMap, Registry.mem_toList_iff, EffectSlot.mem_scan_iff,
    HasEffect]
  constructor
  · rintro ⟨spell, hspell, hid, hslot, effect, heffect, htest⟩
    rw [← hid] at hspell
    exact ⟨effect, ⟨hslot, spell, hspell, heffect⟩, htest⟩
  · rintro ⟨effect, ⟨hslot, spell, hspell, heffect⟩, htest⟩
    have hid : spell.id = slot.spell := catalog.spells.keyed hspell
    exact ⟨spell, hid.symm ▸ hspell, hid.symm, hslot, effect, heffect, htest⟩

/-- The slots that pass come by spell, then by number. -/
theorem slotsWhere_ordered (catalog : Catalog) (test : SpellEffect → Bool) :
    (catalog.slotsWhere test).Pairwise EffectSlot.ComesBefore := by
  rw [slotsWhere, List.pairwise_flatMap]
  refine ⟨fun spell _ => EffectSlot.scan_ordered, ?_⟩
  refine catalog.spells.toList_ordered.imp fun {a b} hlt first hfirst second hsecond => .inl ?_
  rwa [(EffectSlot.mem_scan_iff.mp hfirst).1, (EffectSlot.mem_scan_iff.mp hsecond).1]

/-- No slot that passes is found twice. -/
theorem slotsWhere_nodup (catalog : Catalog) (test : SpellEffect → Bool) :
    (catalog.slotsWhere test).Nodup :=
  (catalog.slotsWhere_ordered test).imp EffectSlot.ne_of_comesBefore

end Catalog

/-- The number of the entity that an effect produces: the item type for created items, and for all
else the other value, counted from the end if it is negative. -/
def Helper.entityNumber : Helper → SpellEffect → Int
  | .createItem, effect => effect.itemType.toNat
  | _, effect => effect.miscValue.toInt % 2 ^ 32

/-- A signed word read as an unsigned one wraps around. -/
private theorem toNat_toUInt32 (value : Int32) :
    (value.toUInt32.toNat : Int) = value.toInt % 2 ^ 32 := by
  have hwrap := Int.bmod_emod (x := (value.toBitVec.toNat : Int)) (m := 2 ^ 32)
  have hlt := value.toBitVec.isLt
  rw [← Int32.toNat_toBitVec, ← Int32.toInt_toBitVec, BitVec.toInt_eq_toNat_bmod]
  omega

/-- The entity that an effect produces is the one with its number. -/
theorem Helper.toNat_entity (helper : Helper) (effect : SpellEffect) :
    ((helper.entity effect).toNat : Int) = helper.entityNumber effect := by
  cases helper with
  | createItem => rfl
  | summonCreature | summonGameObject | killCredit => exact toNat_toUInt32 effect.miscValue

namespace SpellEffect

/-- An effect has a product exactly if it has the code of the product's helper and its entity has
the number that the helper reads off the effect. -/
theorem product?_eq_some_iff {effect : SpellEffect} {helper : Helper} {entity : UInt32} :
    effect.product? = some ⟨helper, entity⟩ ↔
      effect.effect = helper.effectCode ∧ (entity.toNat : Int) = helper.entityNumber effect := by
  simp only [product?, Option.map_eq_some_iff, Helper.ofEffectCode?_eq_some_iff,
    Helper.Product.mk.injEq, ← helper.toNat_entity, Int.natCast_inj, UInt32.toNat_inj]
  constructor
  · rintro ⟨found, hcode, rfl, rfl⟩
    exact ⟨hcode.symm, rfl⟩
  · rintro ⟨hcode, rfl⟩
    exact ⟨helper, hcode.symm, rfl, rfl⟩

/-- An effect has a product exactly if its code is one of four. -/
theorem isSome_product? (effect : SpellEffect) :
    effect.product?.isSome = decide (effect.effect ∈ ([28, 76, 90, 24] : List UInt32)) := by
  rw [Bool.eq_iff_iff, product?, Option.isSome_map, Helper.ofEffectCode?, List.find?_isSome]
  simp [Helper.all, Helper.effectCode, @eq_comm _ _ effect.effect]

end SpellEffect

namespace SpellIndex

variable {catalog : Catalog} {helper : Helper} {entity : UInt32} {slot : EffectSlot}

/-- A slot is listed for a product exactly if its effect has that product. -/
theorem mem_lookup_build_iff : slot ∈ (build catalog).lookup helper entity ↔
    ∃ effect, catalog.HasEffect slot effect ∧ effect.product? = some ⟨helper, entity⟩ := by
  have hproduces : produces helper entity =
      fun entry => entry.2.product? == some ⟨helper, entity⟩ := rfl
  rw [lookup_build, hproduces,
    ← catalog.slotsWhere_eq_slots fun effect => effect.product? == some ⟨helper, entity⟩,
    Catalog.mem_slotsWhere_iff]
  simp only [beq_iff_eq]

/-- A slot that is listed for a product is listed for no other, and once. -/
theorem count_lookup_build {effect : SpellEffect} (h : catalog.HasEffect slot effect)
    (helper : Helper) (entity : UInt32) :
    ((build catalog).lookup helper entity).count slot =
      if effect.product? = some ⟨helper, entity⟩ then 1 else 0 := by
  have hnodup : ((build catalog).lookup helper entity).Nodup := by
    rw [lookup_build_eq_scan]
    exact catalog.slotsWhere_nodup _
  have hmem : slot ∈ (build catalog).lookup helper entity ↔
      effect.product? = some ⟨helper, entity⟩ := by
    rw [mem_lookup_build_iff]
    constructor
    · rintro ⟨other, hother, hproduct⟩
      rwa [h.unique hother]
    · intro hproduct
      exact ⟨effect, h, hproduct⟩
  rw [hnodup.count]
  exact if_congr hmem rfl rfl

/-- A slot is a helper slot exactly if it is listed for one product, once, and for no other. -/
theorem mem_helperSlots_iff : slot ∈ catalog.helperSlots ↔
    ∃ product : Helper.Product, ∀ helper entity,
      ((build catalog).lookup helper entity).count slot =
        if ⟨helper, entity⟩ = product then 1 else 0 := by
  rw [Catalog.helperSlots, Catalog.mem_slotsWhere_iff]
  constructor
  · rintro ⟨effect, heffect, hcode⟩
    rw [← effect.isSome_product?] at hcode
    obtain ⟨product, hproduct⟩ := Option.isSome_iff_exists.mp hcode
    refine ⟨product, fun helper entity => ?_⟩
    rw [count_lookup_build heffect, hproduct]
    simp only [Option.some.injEq, eq_comm]
  · rintro ⟨⟨helper, entity⟩, hcount⟩
    have hlisted : slot ∈ (build catalog).lookup helper entity := by
      rw [← List.count_pos_iff, hcount, if_pos rfl]
      exact Nat.one_pos
    obtain ⟨effect, heffect, hproduct⟩ := mem_lookup_build_iff.mp hlisted
    refine ⟨effect, heffect, ?_⟩
    rw [← effect.isSome_product?, hproduct, Option.isSome_some]

/-- Each product is of one helper effect. -/
private theorem sum_length_filter_helper (products : List Helper.Product) :
    (Helper.all.map fun helper =>
      (products.filter fun product => product.helper = helper).length).foldr (· + ·) 0 =
        products.length := by
  induction products with
  | nil => rfl
  | cons product rest ih =>
    simp only [Helper.all, List.map_cons, List.map_nil, List.foldr_cons, List.foldr_nil,
      List.filter_cons] at ih ⊢
    cases product.helper <;> simp <;> omega

/-- The map of a helper effect holds as many slots as there are with a product of that helper. -/
theorem sum_length_map_build (catalog : Catalog) (helper : Helper) :
    (((build catalog).map helper).values.map List.length).foldr (· + ·) 0 =
      (((catalog.spells.toList.flatMap Spell.slots).filterMap fun slot => slot.2.product?).filter
        fun product => product.helper = helper).length := by
  let products := (catalog.spells.toList.flatMap Spell.slots).filterMap fun slot => slot.2.product?
  let entities := (products.filter fun product => product.helper = helper).map Helper.Product.entity
  have hgroups : ∀ entity : UInt32,
      (((build catalog).map helper)[entity]?.getD []).length = entities.count entity := by
    intro entity
    have hcount : entities.count entity = products.count ⟨helper, entity⟩ := by
      rw [List.count, List.countP_map, List.countP_filter, List.count]
      refine List.countP_congr fun product _ => ?_
      cases product
      simp [and_comm]
    change ((build catalog).lookup helper entity).length = _
    rw [lookup_build, List.length_map, ← List.countP_eq_length_filter, hcount,
      List.count_filterMap]
    rfl
  have hsum := sum_length_of_groups _ hgroups
  rw [List.length_map] at hsum
  rw [← hsum, values_eq_map_toList, List.map_map]
  rfl

/-- The index holds as many slots as there are helper slots. -/
theorem size_build (catalog : Catalog) : (build catalog).size = catalog.helperSlots.length := by
  let slots := catalog.spells.toList.flatMap Spell.slots
  let products := slots.filterMap fun slot => slot.2.product?
  have hproducts : products.length = catalog.helperSlots.length := by
    rw [Catalog.helperSlots, Catalog.slotsWhere_eq_slots, List.length_map,
      ← List.countP_eq_length_filter, List.length_filterMap_eq_countP]
    simp only [SpellEffect.isSome_product?]
    rfl
  calc (build catalog).size
      = ((Helper.all.flatMap fun helper => ((build catalog).map helper).values).map
          List.length).sum := rfl
    _ = (Helper.all.map fun helper =>
          (((build catalog).map helper).values.map List.length).sum).sum := by
        rw [List.map_flatMap, List.flatMap_def, List.sum_flatten, List.map_map]
        rfl
    _ = (Helper.all.map fun helper =>
          (products.filter fun product => product.helper = helper).length).sum :=
        congrArg List.sum (List.map_congr_left fun helper _ => sum_length_map_build catalog helper)
    _ = products.length := sum_length_filter_helper products
    _ = catalog.helperSlots.length := hproducts

/-- The index equals a direct scan. Whatever the catalog holds, the index lists for a helper effect
and an entity what a scan of the spells finds, by ascending spell and then by slot. These are the
slots below 3 whose effect has the helper's code and that entity's number. The slots of the catalog
with one of the four codes are those that are listed for one product, once, and for no other; the
index has as many entries as there are such slots, and is empty if there are none. -/
theorem build_eq_scan (catalog : Catalog) :
    let index := build catalog
    (∀ helper entity,
      index.lookup helper entity = catalog.scan helper entity ∧
      (index.lookup helper entity).Pairwise EffectSlot.ComesBefore ∧
      ∀ slot, slot ∈ index.lookup helper entity ↔ slot.slot < 3 ∧ ∃ spell effect,
        catalog.spells.find? slot.spell = some spell ∧
        spell.effects[slot.slot.toNat]? = some effect ∧
        effect.effect = helper.effectCode ∧
        (entity.toNat : Int) = helper.entityNumber effect) ∧
    (∀ slot, slot ∈ catalog.helperSlots ↔ ∃ product : Helper.Product, ∀ helper entity,
      (index.lookup helper entity).count slot = if ⟨helper, entity⟩ = product then 1 else 0) ∧
    catalog.helperSlots.Pairwise EffectSlot.ComesBefore ∧
    index.size = catalog.helperSlots.length ∧
    (index.isEmpty = true ↔ catalog.helperSlots = []) := by
  intro index
  have hsize : index.size = catalog.helperSlots.length := size_build catalog
  refine ⟨fun helper entity => ⟨lookup_build_eq_scan catalog helper entity, ?_, fun slot => ?_⟩,
    fun slot => mem_helperSlots_iff, catalog.slotsWhere_ordered _, hsize, ?_⟩
  · rw [lookup_build_eq_scan]
    exact catalog.slotsWhere_ordered _
  · rw [mem_lookup_build_iff]
    simp only [Catalog.HasEffect, SpellEffect.product?_eq_some_iff]
    constructor
    · rintro ⟨effect, ⟨hslot, spell, hspell, heffect⟩, hproduct⟩
      exact ⟨hslot, spell, effect, hspell, heffect, hproduct⟩
    · rintro ⟨hslot, spell, effect, hspell, heffect, hproduct⟩
      exact ⟨effect, ⟨hslot, spell, hspell, heffect⟩, hproduct⟩
  · rw [isEmpty, decide_eq_true_eq, hsize, List.length_eq_zero_iff]

end SpellIndex

end AiScript
