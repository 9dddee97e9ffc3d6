import AiScript.Row
import AiScript.Source
import AiScript.Trigger

/-!
# Rules and chains

A rule is a row that has been decoded and found sound. The rules of one owner form a chain, in the
order of their ids, and inside a chain a rule may link to another, which then fires after it.
-/

namespace AiScript

/-- One rule. -/
structure Rule where
  owner : Int32
  source : Source
  id : UInt16
  /-- The id of the rule that this one triggers, or 0. -/
  link : UInt16
  trigger : Trigger
  action : Action
  target : Target

/-- The kind of event that a rule waits for. -/
def Rule.eventKind (rule : Rule) : Event.Kind := rule.trigger.event.kind

/-- The rules of one owner. -/
abbrev Chain := List Rule

namespace Chain

/-- The rule with an id. -/
def rule? (chain : Chain) (id : UInt16) : Option Rule := chain.find? fun rule => rule.id == id

/-- The first rule whose link is the given id. -/
def linkSource? (chain : Chain) (id : UInt16) : Option Rule :=
  chain.find? fun rule => rule.link == id

end Chain

/-- What tells one chain from another. -/
structure ChainKey where
  source : Source
  owner : Int32
deriving DecidableEq

/-- The chain that a rule belongs to. -/
def Rule.chainKey (rule : Rule) : ChainKey := ⟨rule.source, rule.owner⟩

theorem Source.code_injective {a b : Source} (h : a.code = b.code) : a = b := by
  cases a <;> cases b <;> simp_all [Source.code]

/-- Chains go by source, then by owner. -/
instance : Ord ChainKey where
  compare := compareLex (compareOn fun key => key.source.code) (compareOn ChainKey.owner)

instance : Std.TransOrd ChainKey :=
  inferInstanceAs (Std.TransCmp
    (compareLex (compareOn fun key : ChainKey => key.source.code) (compareOn ChainKey.owner)))

instance : Std.LawfulEqOrd ChainKey where
  eq_of_compare := by
    intro a b hab
    obtain ⟨hcode, howner⟩ := Ordering.then_eq_eq.mp
      (show (compare a.source.code b.source.code).then (compare a.owner b.owner) = .eq from hab)
    have hsource := Source.code_injective (Std.LawfulEqCmp.eq_of_compare hcode)
    cases a
    cases b
    simp_all

end AiScript
