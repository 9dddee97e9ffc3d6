import AiScript.Action
import AiScript.Event
import AiScript.Target

/-!
# Rule rows

A row is one rule as storage keeps it: numbers only, with the meaning of the parameter slots left
to the kinds that the row names. Rows may arrive in any order; they are worked on in storage order,
which brings the rows of one owner together and puts them in the order of their ids.
-/

namespace AiScript

/-- Whom an owner key stands for: a template, or one placed instance of a template. -/
inductive Owner where
  | template (entry : UInt32)
  | spawn (guid : UInt32)
deriving DecidableEq

/-- The absolute value of an owner key. It is no negative number even for the least key. -/
def Owner.keyNumber (key : Int32) : UInt32 := UInt32.ofNat key.toInt.natAbs

/-- A key that is not negative is a template's entry, and a negative one is the negated number of
a placed instance. -/
def Owner.ofKey (key : Int32) : Owner :=
  if key < 0 then .spawn (keyNumber key) else .template (keyNumber key)

/-- One stored rule. -/
structure Row where
  owner : Int32 := 0
  sourceCode : UInt8 := 0
  id : UInt16 := 0
  /-- The id of the rule that this one triggers, or 0. -/
  link : UInt16 := 0
  eventCode : UInt8 := 0
  phaseMask : UInt8 := 0
  chance : UInt8 := 100
  flags : UInt8 := 0
  eventSlots : EventSlots := .replicate 5 0
  actionCode : UInt8 := 0
  actionSlots : ActionSlots := .replicate 6 0
  targetCode : UInt8 := 0
  targetSlots : TargetSlots := .replicate 3 0
  position : Position := {}

namespace Row

/-- Rows go by owner, then source, then id, then link. -/
def storageOrder : Row → Row → Ordering :=
  compareLex (compareOn owner)
    (compareLex (compareOn sourceCode) (compareLex (compareOn id) (compareOn link)))

/-- Rows in storage order. Rows that it does not tell apart keep their places. -/
def sorted (rows : List Row) : List Row :=
  rows.mergeSort fun a b => (storageOrder a b).isLE

end Row

end AiScript
