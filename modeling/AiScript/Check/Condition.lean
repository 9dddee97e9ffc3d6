import AiScript.Diagnostic

/-!
# Conditions

What a row has to meet is written down as a list of conditions, each with the reason for which the
row is dropped if it is broken. Conditions are tried in order, and the first broken one decides.
-/

namespace AiScript

/-- Something that has to hold, and why a row is dropped otherwise. -/
structure Condition where
  holds : Bool
  otherwise : Rejection

namespace Condition

/-- Accept if every condition holds, or give the reason of the first that does not. -/
def verdict : List Condition → Except Rejection Unit
  | [] => .ok ()
  | condition :: rest =>
    if condition.holds then verdict rest else .error condition.otherwise

/-- A referent exists. -/
def refersTo (what : Reference) (id : UInt32) (known : Bool) : Condition :=
  ⟨known, .missingReference what id⟩

/-- A referent exists, unless its id is 0 and so names nothing. -/
def mayReferTo (what : Reference) (id : UInt32) (known : Bool) : Condition :=
  ⟨id == 0 || known, .missingReference what id⟩

/-- A window does not end before it starts. -/
def ordered (window : Window) : Condition := ⟨window.isOrdered, .reversedWindow window⟩

/-- A percentage is at most 100. -/
def percentage (value : UInt32) : Condition := ⟨value ≤ 100, .percentOutOfRange value⟩

/-- A phase is one of those that there are. -/
def phase (phase : UInt32) : Condition := ⟨phase < PhaseMask.phaseEnd, .phaseOutOfRange phase⟩

/-- A quantity is not zero. -/
def nonZero (what : Quantity) (value : UInt32) : Condition := ⟨value != 0, .zeroQuantity what⟩

/-- A quantity is at most its greatest value. -/
def atMost (what : Quantity) (value greatest : UInt32) : Condition :=
  ⟨value ≤ greatest, .invalidQuantity what value⟩

/-- Exactly one of two alternatives is given. -/
def exactlyOne (which : Alternatives) (first second : UInt32) : List Condition :=
  [ ⟨first != 0 || second != 0, .noAlternative which⟩,
    ⟨first == 0 || second == 0, .bothAlternatives which⟩ ]

end Condition

namespace Catalog

/-- A spell is known. -/
def spellKnown (catalog : Catalog) (id : UInt32) : Condition :=
  .refersTo .spell id (catalog.spells.contains id)

/-- A creature template is known. -/
def creatureKnown (catalog : Catalog) (entry : UInt32) : Condition :=
  .refersTo .creatureTemplate entry (catalog.creatures.templates.contains entry)

/-- A creature template is known, or none is named. -/
def creatureKnownOrNone (catalog : Catalog) (entry : UInt32) : Condition :=
  .mayReferTo .creatureTemplate entry (catalog.creatures.templates.contains entry)

/-- A game object template is known. -/
def gameObjectKnown (catalog : Catalog) (entry : UInt32) : Condition :=
  .refersTo .gameObjectTemplate entry (catalog.gameObjects.templates.contains entry)

/-- A game object template is known, or none is named. -/
def gameObjectKnownOrNone (catalog : Catalog) (entry : UInt32) : Condition :=
  .mayReferTo .gameObjectTemplate entry (catalog.gameObjects.templates.contains entry)

/-- A quest is known. -/
def questKnown (catalog : Catalog) (id : UInt32) : Condition :=
  .refersTo .quest id (catalog.quests.contains id)

/-- A quest is known, or none is named. -/
def questKnownOrNone (catalog : Catalog) (id : UInt32) : Condition :=
  .mayReferTo .quest id (catalog.quests.contains id)

/-- A game event is known, and it can be used. -/
def gameEventUsable (catalog : Catalog) (id : UInt32) : List Condition :=
  [ .refersTo .gameEvent id (catalog.gameEvents.contains id),
    ⟨(catalog.gameEvents.find? id).any GameEvent.isValid, .invalidQuantity .gameEvent id⟩ ]

/-- The creature that will speak a text has a text of that group.

Only creatures' rules are checked, and a target that picks some other creature when the rule runs is
left alone. The event of a finished text names its speaker; otherwise the rule's owner speaks. -/
def textKnown (catalog : Catalog) (source : Source) (owner : Int32) (event : Event)
    (target : Target.Kind) (group : UInt32) : List Condition :=
  let known (speaker : UInt32) : Condition :=
    .refersTo .creatureText group (speaker != 0 && catalog.hasCreatureText speaker group)
  if source != .creature then []
  else
    match event with
    | .textOver _ creature => [known creature]
    | _ =>
      match target with
      | .creatureRange | .creatureDistance | .closestCreature => []
      | _ =>
        let speaker := catalog.creatures.entryOf? (.ofKey owner)
        [ .refersTo .creatureSpawn (Owner.keyNumber owner) speaker.isSome,
          known (speaker.getD 0) ]

end Catalog

end AiScript
