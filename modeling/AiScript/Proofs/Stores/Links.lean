import AiScript.Proofs.Stores.Load

/-!
# Which link events are reported

A rule that waits for a link is reported when no rule of its chain has its id as link. The search
for such a rule does not ask whether its link is 0, which stands for none: 0 is an id like any
other, so a rule with id 0 that waits for a link is never reported while a rule of its chain links
to nothing, be it that rule itself. Every other rule is reported as it should be.
-/

namespace AiScript

/-- Does a warning tell of a link? -/
def Warning.isOfLinks : Warning → Bool
  | .danglingLink _ | .unreachableLinkEvent => true
  | _ => false

/-- A rule triggers another if its link is not 0 and is the id of the other. -/
def Rule.LinksTo (source rule : Rule) : Prop := source.link ≠ 0 ∧ source.link = rule.id

/-- A position raises no warning of links. -/
theorem Position.isOfLinks_of_mem_warnings {position : Position} {warning : Warning}
    (h : warning ∈ position.warnings) : warning.isOfLinks = false := by
  rw [Position.warnings] at h
  split at h
  · rw [List.mem_singleton.mp h]
    rfl
  · cases h

/-- An action raises no warning of links. -/
theorem Action.isOfLinks_of_mem_warnings {catalog : Catalog} {index : SpellIndex}
    {warnRedundant : Bool} {action : Action} {warning : Warning}
    (h : warning ∈ action.warnings catalog index warnRedundant) : warning.isOfLinks = false := by
  have hredundant : ∀ (helper : Helper) (entity : UInt32) (asked : Bool),
      (warning ∈ if asked then index.redundancies helper entity else []) →
        warning.isOfLinks = false := by
    intro helper entity asked hmem
    split at hmem
    · obtain ⟨slot, -, rfl⟩ := List.mem_map.mp hmem
      rfl
    · cases hmem
  unfold Action.warnings at h
  split at h
  case h_1 spell _ _ =>
    cases hfound : catalog.spells.find? spell with
    | none => simp [hfound] at h
    | some found =>
      simp only [hfound, Option.map_some, Option.getD_some] at h
      obtain ⟨slot, -, rfl⟩ := List.mem_map.mp h
      rfl
  case h_6 => cases h
  all_goals exact hredundant _ _ _ h

/-- No stage of an examination raises a warning of links. -/
theorem Row.isOfLinks_of_mem_warnings {row : Row} {world : Surroundings} {warning : Warning}
    (h : warning ∈ (row.examine world).warnings) : warning.isOfLinks = false := by
  rw [Row.examine_eq] at h
  split at h
  · cases h
  · dsimp only at h
    split at h
    · exact Position.isOfLinks_of_mem_warnings h
    · split at h
      · exact Position.isOfLinks_of_mem_warnings h
      · rcases List.mem_append.mp h with h | h
        · exact Position.isOfLinks_of_mem_warnings h
        · exact Action.isOfLinks_of_mem_warnings h

/-- What is told of kept rows tells of no links. -/
theorem Row.isOfLinks_of_mem_keptWarnings {world : Surroundings} {rows : List Row}
    {told : Diagnostic Warning} (h : told ∈ Row.keptWarnings world rows) :
    told.reason.isOfLinks = false := by
  obtain ⟨settled, -, htold⟩ := List.mem_flatMap.mp h
  rw [Settled.warnings] at htold
  split at htold
  · cases htold
  · obtain ⟨warning, hwarning, rfl⟩ := List.mem_map.mp htold
    exact Row.isOfLinks_of_mem_warnings hwarning

namespace Chain

/-- What is told of the links of a chain is told of its rules, each under its own context. -/
theorem mem_linkWarnings_iff (chain : Chain) (context : RowContext) (warning : Warning) :
    ⟨context, warning⟩ ∈ chain.linkWarnings ↔ ∃ rule ∈ chain, rule.context = context ∧
      warning ∈ chain.danglingLink rule ++ chain.unreachableLink rule := by
  simp only [linkWarnings, List.mem_flatMap, List.mem_map, Diagnostic.mk.injEq]
  constructor
  · intro htold
    obtain ⟨rule, hrule, found, hfound, hcontext, rfl⟩ := htold
    exact ⟨rule, hrule, hcontext, hfound⟩
  · intro hsaid
    obtain ⟨rule, hrule, hcontext, hwarning⟩ := hsaid
    exact ⟨rule, hrule, warning, hwarning, hcontext, rfl⟩

/-- A rule is found unreachable exactly if it waits for a link and no rule has its id as link. -/
theorem unreachable_mem_iff (chain : Chain) (rule : Rule) :
    .unreachableLinkEvent ∈ chain.danglingLink rule ++ chain.unreachableLink rule ↔
      rule.eventKind = .link ∧ ∀ other ∈ chain, other.link ≠ rule.id := by
  have hdangling : .unreachableLinkEvent ∉ chain.danglingLink rule := by
    rw [danglingLink]
    split <;> simp
  rw [List.mem_append, or_iff_right hdangling, unreachableLink, List.mem_ite_nil_right,
    Bool.and_eq_true, beq_iff_eq, Option.isNone_iff_eq_none, linkSource?, List.find?_eq_none]
  simp only [List.mem_singleton, and_true, beq_iff_eq, ne_eq]

end Chain

/-- What is amiss with the links of a table tells of links. -/
theorem Table.isOfLinks_of_mem_linkWarnings {table : Table} {told : Diagnostic Warning}
    (h : told ∈ table.linkWarnings) : told.reason.isOfLinks = true := by
  obtain ⟨entry, -, htold⟩ := List.mem_flatMap.mp h
  obtain ⟨rule, -, hwarning⟩ := (entry.2.mem_linkWarnings_iff told.row told.reason).mp htold
  rw [Chain.danglingLink, Chain.unreachableLink, List.mem_append, List.mem_ite_nil_right,
    List.mem_ite_nil_right, List.mem_singleton, List.mem_singleton] at hwarning
  rcases hwarning.2 with ⟨-, hreason⟩ | ⟨-, hreason⟩ <;> rw [hreason] <;> rfl

namespace Stores

variable {stores : Stores} {rows : List Row} {options : LoadOptions}

/-- What a load tells of links is what it tells of its chains. -/
theorem mem_warnings_iff_of_isOfLinks {told : Diagnostic Warning}
    (h : told.reason.isOfLinks = true) :
    told ∈ (stores.loadRules rows options).2.1.warnings ↔
      ∃ key chain, (stores.loadRules rows options).1.table.chain? key = some chain ∧
        told ∈ chain.linkWarnings := by
  rw [loadRules_warnings, List.mem_append, Table.linkWarnings, List.mem_flatMap]
  constructor
  · intro htold
    rcases htold with htold | ⟨⟨key, chain⟩, hentry, htold⟩
    · rw [Row.isOfLinks_of_mem_keptWarnings htold] at h
      cases h
    · exact ⟨key, chain, (Table.mem_chains_iff _ key chain).mp hentry, htold⟩
  · intro hlisted
    obtain ⟨key, chain, hchain, htold⟩ := hlisted
    exact Or.inr ⟨(key, chain), (Table.mem_chains_iff _ key chain).mpr hchain, htold⟩

/-- What a load tells of the links of a kept rule is what is amiss with them in the rule's chain. -/
theorem mem_warnings_iff_of_mem_chain {key : ChainKey} {chain : Chain} {rule : Rule}
    {warning : Warning} (h : warning.isOfLinks = true)
    (hchain : (stores.loadRules rows options).1.table.chain? key = some chain)
    (hrule : rule ∈ chain) :
    ⟨rule.context, warning⟩ ∈ (stores.loadRules rows options).2.1.warnings ↔
      warning ∈ chain.danglingLink rule ++ chain.unreachableLink rule := by
  rw [mem_warnings_iff_of_isOfLinks h]
  constructor
  · intro hreported
    obtain ⟨found, others, hothers, htold⟩ := hreported
    obtain ⟨other, hother, hcontext, hsaid⟩ :=
      (others.mem_linkWarnings_iff rule.context warning).mp htold
    -- a context names the chain and the id, so it is this rule that is told of
    have hfound : found = key := by
      rw [← (wellFormed_of_loadRules hothers).placed other hother,
        ← (wellFormed_of_loadRules hchain).placed rule hrule, Rule.chainKey, Rule.chainKey,
        Source.code_injective (congrArg RowContext.sourceCode hcontext)]
      exact congrArg _ (congrArg RowContext.owner hcontext)
    subst hfound
    obtain rfl : chain = others := Option.some.inj (hchain.symm.trans hothers)
    obtain rfl : other = rule := (wellFormed_of_loadRules hchain).eq_of_id_eq hother hrule
      (congrArg RowContext.id hcontext)
    exact hsaid
  · intro hsaid
    exact ⟨key, chain, hchain,
      (chain.mem_linkWarnings_iff rule.context warning).mpr ⟨rule, hrule, rfl, hsaid⟩⟩

/-- A kept rule is reported as unreachable exactly if it waits for a link and no rule of its chain
has its id as link. -/
theorem unreachable_mem_warnings_iff {key : ChainKey} {chain : Chain} {rule : Rule}
    (hchain : (stores.loadRules rows options).1.table.chain? key = some chain)
    (hrule : rule ∈ chain) :
    ⟨rule.context, .unreachableLinkEvent⟩ ∈ (stores.loadRules rows options).2.1.warnings ↔
      rule.eventKind = .link ∧ ∀ other ∈ chain, other.link ≠ rule.id := by
  rw [mem_warnings_iff_of_mem_chain rfl hchain hrule, Chain.unreachable_mem_iff]

/-- A kept rule is reported as unreachable exactly if it waits for a link that no rule of its chain
gives, but for one case: a rule with id 0 that waits for a link goes unreported if some rule of its
chain has no link. -/
theorem unreachable_reported_iff {key : ChainKey} {chain : Chain} {rule : Rule}
    (hchain : (stores.loadRules rows options).1.table.chain? key = some chain)
    (hrule : rule ∈ chain) :
    (⟨rule.context, .unreachableLinkEvent⟩ ∈ (stores.loadRules rows options).2.1.warnings ↔
        rule.eventKind = .link ∧ ¬ ∃ other ∈ chain, other.LinksTo rule) ↔
      ¬ (rule.eventKind = .link ∧ rule.id = 0 ∧ ∃ other ∈ chain, other.link = 0) := by
  rw [unreachable_mem_warnings_iff hchain hrule]
  by_cases hid : rule.id = 0
  · -- no rule links to one with id 0, so every such rule that waits for a link should be reported
    have hnone : ¬ ∃ other ∈ chain, other.LinksTo rule := by
      intro hgiven
      obtain ⟨other, -, hne, heq⟩ := hgiven
      exact hne (heq.trans hid)
    have hsearch : (∀ other ∈ chain, other.link ≠ rule.id) ↔ ¬ ∃ other ∈ chain, other.link = 0 := by
      rw [hid]
      push Not
      rfl
    rw [hsearch]
    simp only [hnone, hid, not_false_eq_true, and_true, true_and]
    rw [and_iff_left_iff_imp, not_and]
  · have hsearch : (∀ other ∈ chain, other.link ≠ rule.id) ↔
        ¬ ∃ other ∈ chain, other.LinksTo rule := by
      constructor
      · intro hnone hgiven
        obtain ⟨other, hother, -, heq⟩ := hgiven
        exact hnone other hother heq
      · intro hnone other hother heq
        exact hnone ⟨other, hother, fun hzero => hid (heq.symm.trans hzero), heq⟩
    rw [hsearch]
    exact iff_of_true Iff.rfl fun h => hid h.2.1

/-- Stores that know one area trigger. -/
def oneTrigger : Stores := { catalog := { areaTriggers := .ofList [(1 : UInt32)] } }

/-- A row of that trigger. Its id is 0, it waits for a link, and it has none itself. -/
def lonelyRow : Row :=
  { owner := 1, sourceCode := 2, eventCode := 61, actionCode := 24, targetCode := 1 }

/-- The rule of that row. -/
def lonelyRule : Rule := lonelyRow.rule ⟨.areaTrigger, .link, .evade, .selfUnit⟩

/-- The rule is all that a load of its row leaves. -/
theorem chain?_loadRules_lonelyRow :
    (oneTrigger.loadRules [lonelyRow]).1.table.chain? ⟨.areaTrigger, 1⟩ = some [lonelyRule] := by
  have hsound : lonelyRow.rule? (oneTrigger.surroundings {}) = some lonelyRule := rfl
  exact chain?_loadRules_singleton hsound

/-- The exception arises: a lone rule with id 0 and without link is one. -/
theorem unreachable_reported_iff_lonelyRule :
    (oneTrigger.loadRules [lonelyRow]).1.table.chain? ⟨.areaTrigger, 1⟩ = some [lonelyRule] ∧
    lonelyRule ∈ [lonelyRule] ∧
    ((⟨lonelyRule.context, .unreachableLinkEvent⟩ ∈
          (oneTrigger.loadRules [lonelyRow]).2.1.warnings ↔
        lonelyRule.eventKind = .link ∧ ¬ ∃ other ∈ [lonelyRule], other.LinksTo lonelyRule) ↔
      ¬ (lonelyRule.eventKind = .link ∧ lonelyRule.id = 0 ∧
        ∃ other ∈ [lonelyRule], other.link = 0)) :=
  ⟨chain?_loadRules_lonelyRow, List.mem_singleton_self _,
    unreachable_reported_iff chain?_loadRules_lonelyRow (List.mem_singleton_self _)⟩

/-- It is not so that every rule that waits for a link which no rule of its chain gives is reported:
the lone rule is not. -/
theorem not_forall_unreachable_reported :
    ¬ ∀ (stores : Stores) (rows : List Row) (options : LoadOptions) (key : ChainKey) (chain : Chain)
      (rule : Rule), (stores.loadRules rows options).1.table.chain? key = some chain →
        rule ∈ chain →
          (⟨rule.context, .unreachableLinkEvent⟩ ∈ (stores.loadRules rows options).2.1.warnings ↔
            rule.eventKind = .link ∧ ¬ ∃ other ∈ chain, other.LinksTo rule) := by
  intro hclaim
  have hmem : lonelyRule ∈ [lonelyRule] := List.mem_singleton_self _
  have hreported := (hclaim oneTrigger [lonelyRow] {} ⟨.areaTrigger, 1⟩ [lonelyRule] lonelyRule
    chain?_loadRules_lonelyRow hmem).mpr
  have hunlinked : ¬ ∃ other ∈ [lonelyRule], other.LinksTo lonelyRule := by
    intro hgiven
    obtain ⟨other, -, hne, heq⟩ := hgiven
    exact hne heq
  have hnone := (unreachable_mem_warnings_iff chain?_loadRules_lonelyRow hmem).mp
    (hreported ⟨rfl, hunlinked⟩)
  exact hnone.2 lonelyRule hmem rfl

end Stores

end AiScript
