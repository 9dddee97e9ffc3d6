import AiScript.Check.Condition

/-!
# The owner of a row

A row is worth reading on only if it names a source that is loaded, and an owner that exists and
that the rules drive. Creatures and game objects say on their templates what drives them; area
triggers only have to exist, and timed action lists have no owner to look up.
-/

namespace AiScript

/-- The driver name on the templates of creatures that follow rules. -/
def creatureDriver : String := "SmartAI"

/-- The driver name on the templates of game objects that follow rules. -/
def gameObjectDriver : String := "SmartGameObjectAI"

/-- The source with a code. -/
def Source.decode (code : UInt8) : Except Rejection Source :=
  match Source.ofCode? code with
  | some source => .ok source
  | none =>
    if Source.isUnimplemented code then .error (.unimplementedSource code)
    else .error (.unknownSource code)

/-- An owner exists, and its template names the driver that the rules are for. -/
def Population.drives (population : Population) (spawn template : Reference) (driver : String)
    (owner : Owner) : List Condition :=
  let entry := population.entryOf? owner
  let found := entry.bind population.templates.find?
  let ofSpawn : List Condition :=
    match owner with
    | .template _ => []
    | .spawn guid => [⟨entry.isSome, .ownerNotFound spawn guid⟩]
  ofSpawn ++
    [ ⟨found.isSome, .ownerNotFound template (entry.getD 0)⟩,
      ⟨found.any fun record => record.aiName == driver,
        .ownerWrongDriver template (entry.getD 0) driver⟩ ]

/-- What the owner of a rule has to meet. -/
def Catalog.ownerConditions (catalog : Catalog) (source : Source) (key : Int32) : List Condition :=
  match source with
  | .creature =>
    catalog.creatures.drives .creatureSpawn .creatureTemplate creatureDriver (.ofKey key)
  | .gameObject =>
    catalog.gameObjects.drives .gameObjectSpawn .gameObjectTemplate gameObjectDriver (.ofKey key)
  | .areaTrigger =>
    [ ⟨0 ≤ key, .negativeOwner source key⟩,
      ⟨catalog.areaTriggers.contains (Owner.keyNumber key),
        .ownerNotFound .areaTrigger (Owner.keyNumber key)⟩ ]
  | .timedActionList => []

end AiScript
