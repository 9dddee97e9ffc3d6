import AiScript.Proofs.Row.Examination
import Mathlib.Tactic.ByContra

/-!
# The numbers of a sound row

A sound row gives a rule whose numbers stay within their bounds: windows do not end before they
start, percentages end at 100, phases stop short of 7. Windows are looked for among the named fields
of a payload, so that none is missed that a field can hold; the check goes by kind instead, and the
two are shown to find the same. Rows of timed action lists are checked like all others.
-/

namespace AiScript

/-- The windows that a field holds. -/
def Field.windowsIn : Field → List Window
  | .window value => [value]
  | .windows value => value.toList
  | _ => []

/-- The windows that the fields of a payload hold. -/
def Field.windowsOf (fields : List (String × Field)) : List Window :=
  fields.flatMap fun field => field.2.windowsIn

/-- The numbers of an action that have bounds of their own stay within them. -/
def Action.WithinBounds : Action → Prop
  | .setEventPhase phase => phase < 7
  | .incEventPhase inc dec => inc ≤ 7 ∧ dec ≤ 7 ∧ ¬ (inc = 0 ∧ dec = 0)
  | .randomPhase phases => ∀ phase ∈ phases.toList, phase < 7
  | .randomPhaseRange min max => min < 7 ∧ max < 7 ∧ min ≤ max
  | .createTimedEvent _ _ _ chance => chance ≤ 100
  | .callRandomRangeTimedActionList first last => first ≤ last
  | .setInvincibilityHpLevel _ percent => percent ≤ 100
  | _ => True

/-- The numbers of a rule stay within their bounds. -/
structure Rule.WithinBounds (rule : Rule) : Prop where
  event_windows : ∀ window ∈ Field.windowsOf rule.trigger.event.fields, window.min ≤ window.max
  action_windows : ∀ window ∈ Field.windowsOf rule.action.fields, window.min ≤ window.max
  percentages : ∀ value ∈ rule.trigger.event.percentages, value ≤ 100
  chance : rule.trigger.chance ≤ 100
  action : rule.action.WithinBounds
  phases : ∀ bit, rule.trigger.phaseMask.bits.toNat.testBit bit = true → bit < 6
  flags : rule.trigger.flags.bits ≤ 0x9F
  link : rule.link = 0 ∨ rule.link ≠ rule.id

namespace Condition

@[simp] theorem ordered_holds (window : Window) :
    (ordered window).holds = true ↔ window.min ≤ window.max := by
  simp [ordered, Window.isOrdered]

@[simp] theorem percentage_holds (value : UInt32) :
    (percentage value).holds = true ↔ value ≤ 100 := by
  simp [percentage]

@[simp] theorem phase_holds (value : UInt32) : (phase value).holds = true ↔ value < 7 := by
  rw [phase, decide_eq_true_eq, PhaseMask.phaseEnd]

end Condition

/-- The windows that are checked are all that the fields of an event hold. -/
theorem Event.orderedWindows_eq_windowsOf (event : Event) :
    event.orderedWindows = Field.windowsOf event.fields := by
  cases event <;> rfl

/-- An event that meets its conditions has ordered windows, and percentages up to 100. -/
theorem Event.bounds_of_conditions {catalog : Catalog} {source : Source} {owner : Int32}
    {target : Target.Kind} {event : Event} (h : ∀ condition ∈
      event.conditions catalog source owner target, condition.holds = true) :
    (∀ window ∈ Field.windowsOf event.fields, window.min ≤ window.max) ∧
      ∀ value ∈ event.percentages, value ≤ 100 := by
  rw [conditions, List.forall_mem_append, List.forall_mem_append, List.forall_mem_map,
    List.forall_mem_map, orderedWindows_eq_windowsOf] at h
  obtain ⟨⟨hwindows, hpercentages⟩, -⟩ := h
  refine ⟨fun window hwindow => ?_, fun value hvalue => ?_⟩
  · exact (Condition.ordered_holds window).mp (hwindows window hwindow)
  · exact (Condition.percentage_holds value).mp (hpercentages value hvalue)

/-- A mask of known phases has no bit beyond theirs. -/
theorem PhaseMask.bit_lt_of_ofBits? {bits : UInt8} (h : (ofBits? bits).isSome = true) {bit : Nat}
    (hbit : bits.toNat.testBit bit = true) : bit < 6 := by
  have hupper : bits &&& ~~~all.bits = 0 := by
    by_contra hne
    simp [ofBits?, hne] at h
  have hnone : (bits.toNat &&& 0xC0).testBit bit = false := by
    have hzero : bits.toNat &&& 0xC0 = 0 := by
      have hcast := congrArg UInt8.toNat hupper
      rwa [UInt8.toNat_and] at hcast
    rw [hzero, Nat.zero_testBit]
  rw [Nat.testBit_and, hbit, Bool.true_and] at hnone
  by_contra hge
  have hout : ¬ bit < 8 := by
    intro hlt
    obtain rfl | rfl : bit = 6 ∨ bit = 7 := by omega
    all_goals exact absurd hnone (by decide)
  have hsmall : bits.toNat < 2 ^ bit := Nat.lt_of_lt_of_le bits.toNat_lt
    (Nat.pow_le_pow_right (by decide) (Nat.le_of_not_lt hout))
  rw [Nat.testBit_lt_two_pow hsmall] at hbit
  cases hbit

namespace Action

variable {catalog : Catalog} {waypoints : Waypoints} {source : Source} {owner : Int32}
  {event : Event} {target : Target.Kind} {action : Action}

/-- The greater of two steps is within a bound if both are. -/
theorem greaterStep_le_iff (inc dec bound : UInt32) :
    (if inc < dec then dec else inc) ≤ bound ↔ inc ≤ bound ∧ dec ≤ bound := by
  simp only [UInt32.lt_iff_toNat_lt, UInt32.le_iff_toNat_le]
  split <;> omega

/-- An action that meets its conditions has bounded numbers. -/
theorem withinBounds_of_conditions (h : ∀ condition ∈
      action.conditions catalog waypoints source owner event target, condition.holds = true) :
    action.WithinBounds := by
  cases action
  case setEventPhase phase => simpa [conditions, WithinBounds] using h
  case incEventPhase inc dec =>
    -- the greater of the two steps is the one that is checked
    simp only [conditions, List.forall_mem_cons, decide_eq_true_eq, greaterStep_le_iff] at h
    obtain ⟨hgiven, ⟨hinc, hdec⟩, -⟩ := h
    refine ⟨hinc, hdec, ?_⟩
    intro hzero
    obtain ⟨rfl, rfl⟩ := hzero
    exact absurd hgiven (by decide)
  case randomPhase phases => simpa [conditions, WithinBounds] using h
  case randomPhaseRange min max => simpa [conditions, WithinBounds] using h
  case createTimedEvent id timer recurring chance =>
    simp only [conditions, List.forall_mem_cons, Condition.percentage_holds] at h
    exact h.2.2.1
  case callRandomRangeTimedActionList first last => simpa [conditions, WithinBounds] using h
  case setInvincibilityHpLevel minHp percent => simpa [conditions, WithinBounds] using h
  all_goals trivial

/-- An action that meets its conditions has windows that do not end before they start. -/
theorem ordered_of_conditions (h : ∀ condition ∈
      action.conditions catalog waypoints source owner event target, condition.holds = true) :
    ∀ window ∈ Field.windowsOf action.fields, window.min ≤ window.max := by
  intro window hwindow
  cases action
  case createTimedEvent id timer recurring chance =>
    simp only [conditions, List.forall_mem_cons, Condition.ordered_holds] at h
    have hfields : Field.windowsOf (createTimedEvent id timer recurring chance).fields =
        [timer, recurring] := rfl
    rw [hfields, List.mem_cons, List.mem_singleton] at hwindow
    rcases hwindow with rfl | rfl
    · exact h.1
    · exact h.2.1
  all_goals exact absurd hwindow List.not_mem_nil

end Action

/-- A sound row gives a rule whose numbers stay within their bounds. -/
theorem Row.withinBounds_of_rule? {row : Row} {world : Surroundings} {rule : Rule}
    (h : row.rule? world = some rule) : rule.WithinBounds := by
  obtain ⟨kinds, hpasses, rfl⟩ := passes_of_rule? h
  have hevent := (Condition.verdict_eq_ok_iff _).mp hpasses.event
  have haction := conditions_of_passes hpasses
  rw [eventConditions, List.forall_mem_append] at hevent
  obtain ⟨hheader, hpayload⟩ := hevent
  simp only [headerConditions, List.forall_mem_cons, decide_eq_true_eq, Bool.or_eq_true, beq_iff_eq,
    bne_iff_ne] at hheader
  obtain ⟨-, hphases, hflags, hchance, hlink, -⟩ := hheader
  have hbounds := Event.bounds_of_conditions hpayload
  exact
    { event_windows := hbounds.1
      action_windows := Action.ordered_of_conditions haction
      percentages := hbounds.2
      chance := hchance
      action := Action.withinBounds_of_conditions haction
      phases := fun bit hbit => PhaseMask.bit_lt_of_ofBits? hphases hbit
      flags := hflags
      link := hlink }

end AiScript
