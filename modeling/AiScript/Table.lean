import AiScript.Diagnostic

/-!
# Rule tables

The table holds one chain for each owner that has a rule, by source and owner. A rule is admitted
to its chain behind those that are there, unless one of them has its id.
-/

namespace AiScript

/-- The chains of every owner. -/
structure Table where
  entries : Std.ExtTreeMap ChainKey Chain := ∅

namespace Table

/-- The table without rules. -/
def empty : Table := {}

/-- The chain of an owner. -/
def chain? (table : Table) (key : ChainKey) : Option Chain := table.entries[key]?

/-- Every chain with its key, by ascending key. -/
def chains (table : Table) : List (ChainKey × Chain) := table.entries.toList

/-- The number of chains. -/
def entityCount (table : Table) : Nat := table.entries.size

/-- The number of rules in all chains. -/
def ruleCount (table : Table) : Nat :=
  (table.chains.map fun entry => entry.2.length).foldr (· + ·) 0

/-- Is there no chain? -/
def isEmpty (table : Table) : Bool := table.entries.isEmpty

/-- Drop every chain. -/
def clear (table : Table) : Table := ⟨table.entries.filter fun _ _ => false⟩

/-- Make sure that there is a chain under a key, if need be one without rules. -/
def enter (table : Table) (key : ChainKey) : Table :=
  ⟨table.entries.alter key fun chain => some (chain.getD [])⟩

/-- Put a rule behind the others of its chain. -/
def push (table : Table) (rule : Rule) : Table :=
  ⟨table.entries.alter rule.chainKey fun chain => some (chain.getD [] ++ [rule])⟩

end Table

/-- What becomes of a row. -/
inductive Verdict where
  /-- The rule is kept, and it is the first of its chain. -/
  | opened (rule : Rule)
  /-- The rule is kept behind others of its chain. -/
  | joined (rule : Rule)
  | rejected (reason : Rejection)

namespace Verdict

/-- The rule, if it is kept. -/
def rule? : Verdict → Option Rule
  | .opened rule | .joined rule => some rule
  | .rejected _ => none

/-- The reason, if the row is rejected. -/
def reason? : Verdict → Option Rejection
  | .opened _ | .joined _ => none
  | .rejected reason => some reason

/-- Does the rule start a chain? -/
def opens : Verdict → Bool
  | .opened _ => true
  | _ => false

end Verdict

/-- Admit a rule to its chain, which is entered before it is known whether the rule is admitted. It
opens the chain if there is no other rule there. -/
def Table.admit (table : Table) (rule : Rule) : Verdict × Table :=
  let entered := table.enter rule.chainKey
  let chain := (entered.chain? rule.chainKey).getD []
  if chain.any fun other => other.id == rule.id then (.rejected (.duplicateId rule.id), entered)
  else (if chain.isEmpty then .opened rule else .joined rule, entered.push rule)

namespace Chain

/-- The rule's link, if it is not 0 and no rule of the chain has that id. -/
def danglingLink (chain : Chain) (rule : Rule) : List Warning :=
  if rule.link != 0 && (chain.rule? rule.link).isNone then [.danglingLink rule.link] else []

/-- A rule that waits for a link, while no rule of the chain has its id as link. -/
def unreachableLink (chain : Chain) (rule : Rule) : List Warning :=
  if rule.eventKind == .link && (chain.linkSource? rule.id).isNone then [.unreachableLinkEvent]
  else []

/-- What is amiss with the links of a chain, rule by rule. -/
def linkWarnings (chain : Chain) : List (Diagnostic Warning) :=
  chain.flatMap fun rule =>
    (chain.danglingLink rule ++ chain.unreachableLink rule).map fun warning =>
      ⟨rule.context, warning⟩

end Chain

end AiScript
