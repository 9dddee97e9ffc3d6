import AiScript.Event

/-!
# Triggers

A trigger is the event that a rule waits for together with the modifiers that go with every kind of
event: the phases in which the rule is active, its chance to fire, and flags.
-/

namespace AiScript

/-- The phases in which a rule is active, one bit each. No bit means every phase. -/
structure PhaseMask where
  bits : UInt8
deriving DecidableEq

/-- The mask of all six phases. -/
def PhaseMask.all : PhaseMask := ⟨0x3F⟩

/-- The mask with the given bits, unless one of them stands for no phase. -/
def PhaseMask.ofBits? (bits : UInt8) : Option PhaseMask :=
  if bits &&& ~~~all.bits = 0 then some ⟨bits⟩ else none

/-- Phases of a rule are numbered below this. -/
def PhaseMask.phaseEnd : UInt32 := 7

/-- Modifiers of an event. -/
structure EventFlags where
  bits : UInt8
deriving DecidableEq

namespace EventFlags

def notRepeatable : EventFlags := ⟨0x01⟩
def difficulty0 : EventFlags := ⟨0x02⟩
def difficulty1 : EventFlags := ⟨0x04⟩
def difficulty2 : EventFlags := ⟨0x08⟩
def difficulty3 : EventFlags := ⟨0x10⟩
def debugOnly : EventFlags := ⟨0x80⟩

instance : OrOp EventFlags := ⟨fun a b => ⟨a.bits ||| b.bits⟩⟩

/-- Every flag that has a meaning. -/
def all : EventFlags :=
  notRepeatable ||| difficulty0 ||| difficulty1 ||| difficulty2 ||| difficulty3 ||| debugOnly

/-- The flags with the given bits, unless one of them has no meaning. -/
def ofBits? (bits : UInt8) : Option EventFlags :=
  if bits &&& ~~~all.bits = 0 then some ⟨bits⟩ else none

end EventFlags

/-- What makes a rule fire. -/
structure Trigger where
  phaseMask : PhaseMask
  /-- The chance in percent that the rule fires when the event happens. -/
  chance : UInt8
  /-- Bits without a meaning are kept. -/
  flags : EventFlags
  event : Event

end AiScript
