/-!
# Sources

The source of a rule is the sort of thing that owns it. Four sources are loaded; the numbers 3 to 8
belong to sources that are known but not loaded. Event kinds say by a set of bits which sources may
use them, and those sets also have bits for the sources that are not loaded.
-/

namespace AiScript

/-- The sort of thing that owns a rule. -/
inductive Source where
  | creature | gameObject | areaTrigger | timedActionList
deriving DecidableEq

namespace Source

/-- Every source, by ascending code. -/
def all : List Source := [.creature, .gameObject, .areaTrigger, .timedActionList]

/-- The number that storage uses for a source. -/
def code : Source → UInt8
  | .creature => 0 | .gameObject => 1 | .areaTrigger => 2 | .timedActionList => 9

/-- The name of a source in messages and answers. -/
def name : Source → String
  | .creature => "Creature" | .gameObject => "GameObject" | .areaTrigger => "AreaTrigger"
  | .timedActionList => "TimedActionList"

/-- The source with a given code. -/
def ofCode? (code : UInt8) : Option Source := all.find? fun source => source.code == code

/-- Does the code belong to a source that is known but not loaded? -/
def isUnimplemented (code : UInt8) : Bool := 3 ≤ code && code ≤ 8

end Source

/-- A set of sources, one bit each. -/
structure SourceSet where
  bits : UInt16
deriving DecidableEq

namespace SourceSet

def creature : SourceSet := ⟨0x001⟩
def gameObject : SourceSet := ⟨0x002⟩
def areaTrigger : SourceSet := ⟨0x004⟩
def worldEvent : SourceSet := ⟨0x008⟩
def gossip : SourceSet := ⟨0x010⟩
def quest : SourceSet := ⟨0x020⟩
def spell : SourceSet := ⟨0x040⟩
def transport : SourceSet := ⟨0x080⟩
def instanceMap : SourceSet := ⟨0x100⟩
def timedActionList : SourceSet := ⟨0x200⟩

/-- Every source, loaded or not. -/
def all : SourceSet := ⟨0x3FF⟩

instance : Union SourceSet := ⟨fun a b => ⟨a.bits ||| b.bits⟩⟩

instance : SDiff SourceSet := ⟨fun a b => ⟨a.bits &&& ~~~b.bits⟩⟩

/-- Do two sets have a source in common? -/
def meets (a b : SourceSet) : Bool := a.bits &&& b.bits != 0

end SourceSet

/-- The set of just this source. -/
def Source.toSet : Source → SourceSet
  | .creature => .creature
  | .gameObject => .gameObject
  | .areaTrigger => .areaTrigger
  | .timedActionList => .timedActionList

end AiScript
