import AiScript.Proofs.Catalog.SpellIndex
import AiScript.Proofs.Row.Examination

/-!
# The warnings that a row calls for

A sound row raises warnings for its orientation and for its action, in this order. They can be read
off the numbers of the row and the spells of the catalog: no index is needed for it, and it need not
be asked whether what the action acts on is known, since the row would not be sound otherwise.
-/

namespace AiScript

/-- Is an orientation farther from zero than a full turn? What is no number is not. -/
def Position.isBeyondTurn (position : Position) : Bool :=
  let magnitude := position.o.bits &&& 0x7FFFFFFF
  0x40C90FDB < magnitude && magnitude ≤ 0x7F800000

/-- Does an effect give the caster of its spell credit for a kill? -/
def SpellEffect.creditsCaster (effect : SpellEffect) : Bool :=
  effect.effect == 90 && effect.implicitTargetA == 1

/-- The warnings that a kind of action calls for, given its first slot. -/
def Action.Kind.dueWarnings (catalog : Catalog) (warnRedundant : Bool) (first : UInt32)
    (kind : Kind) : List Warning :=
  let covered (helper : Helper) : List Warning :=
    if warnRedundant then (catalog.scan helper first).map (.redundantEffect helper first) else []
  match kind with
  | .cast =>
    match catalog.spells.find? first with
    | none => []
    | some spell =>
      (EffectSlot.scan first spell.effects SpellEffect.creditsCaster).map .killCreditTargetsCaster
  | .summonCreature => covered .summonCreature
  | .summonGameObject => covered .summonGameObject
  | .callKilledMonster => covered .killCredit
  | .addItem => covered .createItem
  | _ => []

/-- The warnings that a row calls for. -/
def Row.dueWarnings (catalog : Catalog) (warnRedundant : Bool) (row : Row) : List Warning :=
  (if row.position.isBeyondTurn then [.orientationOutOfRange row.position.o] else []) ++
    match Action.Kind.ofCode? row.actionCode with
    | none => []
    | some kind => kind.dueWarnings catalog warnRedundant row.actionSlots.head

/-- A position raises the warning that it calls for. -/
theorem Position.warnings_eq (position : Position) :
    position.warnings =
      if position.isBeyondTurn then [.orientationOutOfRange position.o] else [] := by
  have hexceeds : position.o.absExceeds .fullTurn = position.isBeyondTurn := by
    have hturn : Single.fullTurn.isNaN = false := by decide
    have hnumber : (!position.o.isNaN) = decide (position.o.magnitude ≤ 0x7F800000) := by
      rw [Single.isNaN, ← decide_not, decide_eq_decide, UInt32.not_lt]
      rfl
    rw [Single.absExceeds, hturn, hnumber, isBeyondTurn, Bool.not_false, Bool.and_true,
      Bool.and_comm]
    rfl
  rw [warnings, hexceeds]

/-- The slots that give credit for a kill are found by a scan. -/
theorem Spell.casterCredits_eq (spell : Spell) :
    spell.casterCredits = (EffectSlot.scan spell.id spell.effects SpellEffect.creditsCaster).map
      .killCreditTargetsCaster := by
  rw [EffectSlot.scan_eq_slots, List.map_map]
  rfl

namespace Action

variable {catalog : Catalog} {waypoints : Waypoints} {source : Source} {owner : Int32}
  {event : Event} {target : Target.Kind}

/-- An action that meets its conditions raises the warnings that its kind calls for. -/
theorem warnings_decode (kind : Kind) (slots : ActionSlots) (warnRedundant : Bool)
    (h : ∀ condition ∈ (decode kind slots).conditions catalog waypoints source owner event target,
      condition.holds = true) :
    (decode kind slots).warnings catalog (.build catalog) warnRedundant =
      kind.dueWarnings catalog warnRedundant slots.head := by
  have hredundant (helper : Helper) {known : Bool} (hknown : known = true) :
      (if (warnRedundant && known) = true then
          (SpellIndex.build catalog).redundancies helper slots.head else []) =
        if warnRedundant = true then
          (catalog.scan helper slots.head).map (.redundantEffect helper slots.head) else [] := by
    rw [hknown, Bool.and_true, SpellIndex.redundancies, SpellIndex.lookup_build_eq_scan]
  -- what an action acts on is the first thing that it is checked for
  cases kind
  case cast =>
    change ((catalog.spells.find? slots.head).map Spell.casterCredits).getD [] = _
    rw [Kind.dueWarnings]
    cases hfound : catalog.spells.find? slots.head with
    | none => rfl
    | some spell =>
      have hid : spell.id = slots.head := catalog.spells.keyed hfound
      rw [Option.map_some, Option.getD_some, Spell.casterCredits_eq, hid]
  case summonCreature => exact hredundant .summonCreature (List.forall_mem_cons.mp h).1
  case callKilledMonster => exact hredundant .killCredit (List.forall_mem_cons.mp h).1
  case summonGameObject => exact hredundant .summonGameObject (List.forall_mem_cons.mp h).1
  case addItem => exact hredundant .createItem (List.forall_mem_cons.mp h).1
  all_goals rfl

end Action

namespace Row

variable {row : Row} {world : Surroundings} {kinds : RowKinds} {rule : Rule}

/-- A row that passes raises the warnings of its position and then those of its action. -/
theorem warnings_of_passes (h : row.Passes world kinds) :
    (row.examine world).warnings = row.position.warnings ++
      (row.action kinds).warnings world.catalog world.index world.warnRedundant := by
  simp only [examine_eq, h.identified, h.target, h.event]

/-- A sound row raises the warnings that it calls for, if the index is that of the catalog. -/
theorem warnings_of_rule? (hrule : row.rule? world = some rule)
    (hindex : world.index = .build world.catalog) :
    (row.examine world).warnings = row.dueWarnings world.catalog world.warnRedundant := by
  obtain ⟨kinds, hpasses, -⟩ := passes_of_rule? hrule
  have hkind := actionKind_of_identify hpasses.identified
  have hmet := conditions_of_passes hpasses
  rw [warnings_of_passes hpasses, dueWarnings, Position.warnings_eq, hkind, hindex, Row.action,
    Action.warnings_decode kinds.action row.actionSlots world.warnRedundant hmet]

end Row

end AiScript
