import AiScript.Proofs.Stores.Links

/-!
# Which links are reported as dangling

A link dangles if it is not 0 and no kept rule of the rule's own chain has it as id. Links are
looked at once the table is finished, so it does not matter whether the rule that is linked to comes
before or after; what matters is that its row was kept, and in the same chain. Dangling links are
reported behind the warnings on rows, one for each rule, by chain and then by id.
-/

namespace AiScript

/-- Does a warning tell of a dangling link? -/
def Warning.isDangling : Warning → Bool
  | .danglingLink _ => true
  | _ => false

/-- What tells of a dangling link tells of links. -/
theorem Warning.isOfLinks_of_isDangling {warning : Warning} (h : warning.isDangling = true) :
    warning.isOfLinks = true := by
  cases warning <;> first | rfl | cases h

/-- Items that give one thing or none may be picked first. -/
private theorem flatMap_ite_singleton {α β : Type} (picked : α → Prop) [DecidablePred picked]
    (f : α → β) (items : List α) :
    (items.flatMap fun item => if picked item then [f item] else []) =
      (items.filter picked).map f := by
  induction items with
  | nil => rfl
  | cons item rest ih =>
    rw [List.flatMap_cons, ih, List.filter_cons]
    by_cases hpicked : picked item <;> simp [hpicked]

namespace Chain

/-- The link of a rule leads to no rule of the chain. -/
def Dangles (chain : Chain) (rule : Rule) : Prop :=
  rule.link ≠ 0 ∧ ∀ other ∈ chain, other.id ≠ rule.link

instance (chain : Chain) : DecidablePred chain.Dangles := fun rule =>
  inferInstanceAs (Decidable (rule.link ≠ 0 ∧ ∀ other ∈ chain, other.id ≠ rule.link))

/-- A rule is told of as soon as its link dangles. -/
theorem danglingLink_eq (chain : Chain) (rule : Rule) :
    chain.danglingLink rule = if chain.Dangles rule then [.danglingLink rule.link] else [] := by
  have hsearch : (rule.link != 0 && (chain.rule? rule.link).isNone) = true ↔
      chain.Dangles rule := by
    rw [Bool.and_eq_true, bne_iff_ne, Option.isNone_iff_eq_none, rule?, List.find?_eq_none]
    simp only [beq_iff_eq, Dangles, ne_eq]
  rw [danglingLink]
  by_cases hdangles : chain.Dangles rule
  · rw [if_pos (hsearch.mpr hdangles), if_pos hdangles]
  · rw [if_neg fun hfound => hdangles (hsearch.mp hfound), if_neg hdangles]

/-- An unreachable rule is not told of as a dangling link. -/
theorem unreachableLink_filter_isDangling (chain : Chain) (rule : Rule) :
    (chain.unreachableLink rule).filter Warning.isDangling = [] := by
  rw [unreachableLink]
  split <;> rfl

/-- A dangling link is found exactly if the rule's link dangles. -/
theorem danglingLink_mem_iff (chain : Chain) (rule : Rule) :
    .danglingLink rule.link ∈ chain.danglingLink rule ++ chain.unreachableLink rule ↔
      chain.Dangles rule := by
  have hunreachable : .danglingLink rule.link ∉ chain.unreachableLink rule := by
    rw [unreachableLink]
    split <;> simp
  rw [List.mem_append, or_iff_left hunreachable, danglingLink_eq, List.mem_ite_nil_right,
    List.mem_singleton, eq_self, and_true]

/-- Of what is told of the links of a chain, the dangling ones are one for each rule whose link
dangles, in the order of the rules. -/
theorem filter_isDangling_linkWarnings (chain : Chain) :
    (chain.linkWarnings.filter fun told => told.reason.isDangling) =
      (chain.filter chain.Dangles).map fun rule => ⟨rule.context, .danglingLink rule.link⟩ := by
  have htold : ∀ rule : Rule, ((chain.danglingLink rule ++ chain.unreachableLink rule).filter
      Warning.isDangling).map (fun warning => (⟨rule.context, warning⟩ : Diagnostic Warning)) =
        if chain.Dangles rule then [⟨rule.context, .danglingLink rule.link⟩] else [] := by
    intro rule
    rw [List.filter_append, unreachableLink_filter_isDangling, List.append_nil, danglingLink_eq]
    split <;> rfl
  rw [linkWarnings, List.filter_flatMap]
  simp only [List.filter_map, Function.comp_def, htold]
  exact flatMap_ite_singleton _ _ chain

/-- A fit chain finds each of its rules under its id. -/
theorem WellFormed.rule?_eq_some {key : ChainKey} {chain : Chain} (h : chain.WellFormed key)
    {rule : Rule} (hrule : rule ∈ chain) : chain.rule? rule.id = some rule := by
  have hsome : (chain.rule? rule.id).isSome = true :=
    List.find?_isSome.mpr ⟨rule, hrule, beq_self_eq_true rule.id⟩
  obtain ⟨found, hfound⟩ := Option.isSome_iff_exists.mp hsome
  have hid : found.id = rule.id := by simpa using List.find?_some hfound
  rw [hfound, h.eq_of_id_eq (List.mem_of_find?_eq_some hfound) hrule hid]

end Chain

/-- An id of a chain is free exactly if every row that claims it is rejected. -/
theorem Row.forall_id_ne_iff (world : Surroundings) (rows : List Row) (key : ChainKey)
    (id : UInt16) :
    (∀ rule ∈ Chain.ofRules (keptRules world rows) key, rule.id ≠ id) ↔
      ∀ settled ∈ settlements world rows, settled.row.belongsTo key = true → settled.row.id = id →
        settled.rejection?.isSome = true := by
  constructor
  · intro hfree settled hsettled hbelongs hid
    rw [Settled.rejection?]
    cases hfate : settled.fate with
    | error reason => rfl
    | ok rule =>
      have hrule := rule?_of_mem_settlements hsettled hfate
      have hkept : rule ∈ Chain.ofRules (keptRules world rows) key := by
        rw [Chain.ofRules, List.mem_filter, decide_eq_true_eq, chainKey_eq_iff hrule]
        exact ⟨List.mem_filterMap.mpr ⟨settled, hsettled, by rw [hfate]; rfl⟩, hbelongs⟩
      exact absurd ((id_of_rule? hrule).trans hid) (hfree rule hkept)
  · intro hrejected rule hrule hid
    rw [Chain.ofRules, List.mem_filter, decide_eq_true_eq, keptRules, List.mem_filterMap] at hrule
    obtain ⟨⟨settled, hsettled, hfate⟩, hkey⟩ := hrule
    rw [toOption_eq_some_iff] at hfate
    have hsound := rule?_of_mem_settlements hsettled hfate
    have hsome := hrejected settled hsettled ((chainKey_eq_iff hsound key).mp hkey)
      ((id_of_rule? hsound).symm.trans hid)
    rw [Settled.rejection?, hfate] at hsome
    cases hsome

namespace Stores

/-- Row by row, nothing is told of dangling links. -/
theorem filter_isDangling_keptWarnings (world : Surroundings) (rows : List Row) :
    ((Row.keptWarnings world rows).filter fun told => told.reason.isDangling) = [] := by
  rw [List.filter_eq_nil_iff]
  intro told htold hdangling
  have hlinks := Warning.isOfLinks_of_isDangling hdangling
  rw [Row.isOfLinks_of_mem_keptWarnings htold] at hlinks
  cases hlinks

/-- Links resolve to one rule, and dangling ones are reported exactly. After a load each rule of a
chain is the one that is found under its id. The dangling links are told of behind all that is told
of rows, one for each rule whose link dangles, by chain and then by id. The link of a kept rule is
told of exactly if every row of the rule's own chain with that id was rejected, or there is none. -/
theorem loadRules_danglingLinks (stores : Stores) (rows : List Row) (options : LoadOptions) :
    let world := stores.surroundings options
    let loaded := stores.loadRules rows options
    let chains := loaded.1.table.chains
    let ofRows := Row.keptWarnings world (Row.sorted rows)
    let ofLinks := loaded.1.table.linkWarnings
    loaded.2.1.warnings = ofRows ++ ofLinks ∧
    (ofRows.filter fun told => told.reason.isDangling) = [] ∧
    (ofLinks.filter fun told => told.reason.isDangling) = chains.flatMap (fun entry =>
      (entry.2.filter fun rule => rule.link ≠ 0 ∧ ∀ other ∈ entry.2, other.id ≠ rule.link).map
        fun rule => ⟨rule.context, .danglingLink rule.link⟩) ∧
    chains.Pairwise (fun a b => a.1.ComesBefore b.1) ∧
    ∀ entry ∈ chains, entry.2.WellFormed entry.1 ∧ ∀ rule ∈ entry.2,
      entry.2.rule? rule.id = some rule ∧
      (⟨rule.context, .danglingLink rule.link⟩ ∈ loaded.2.1.warnings ↔ rule.link ≠ 0 ∧
        ∀ settled ∈ Row.settlements world (Row.sorted rows),
          settled.row.belongsTo entry.1 = true → settled.row.id = rule.link →
            settled.rejection?.isSome = true) := by
  intro world loaded chains ofRows ofLinks
  refine ⟨loadRules_warnings stores rows options, filter_isDangling_keptWarnings world _, ?_,
    Table.chains_ordered _, fun entry hentry => ?_⟩
  · calc (ofLinks.filter fun told => told.reason.isDangling)
        = chains.flatMap fun entry =>
            entry.2.linkWarnings.filter fun told => told.reason.isDangling := List.filter_flatMap
      _ = _ := List.flatMap_congr fun entry _ => entry.2.filter_isDangling_linkWarnings
  · have hchain : loaded.1.table.chain? entry.1 = some entry.2 :=
      (Table.mem_chains_iff _ entry.1 entry.2).mp hentry
    refine ⟨wellFormed_of_loadRules hchain, fun rule hrule =>
      ⟨(wellFormed_of_loadRules hchain).rule?_eq_some hrule, ?_⟩⟩
    rw [mem_warnings_iff_of_mem_chain rfl hchain hrule, Chain.danglingLink_mem_iff, Chain.Dangles,
      ← Row.forall_id_ne_iff, ← eq_ofRules_of_mem_chains hentry]

/-- A row of a timed action list that links to the next. -/
def strandedRow : Row := { owner := 7, sourceCode := 9, id := 1, link := 2, actionCode := 24 }

/-- The rule of that row. -/
def strandedRule : Rule := strandedRow.rule ⟨.timedActionList, .updateIc, .evade, .nobody⟩

/-- The next row, with a window that ends before it starts. -/
def backwardRow : Row := { strandedRow with id := 2, link := 0, eventSlots := #v[20, 10, 0, 0, 0] }

/-- Of the two rows only the first is kept. -/
theorem settlements_strandedRow :
    Row.settlements (({} : Stores).surroundings {}) (Row.sorted [strandedRow, backwardRow]) =
      [⟨strandedRow, .ok strandedRule⟩, ⟨backwardRow, .error (.reversedWindow ⟨20, 10⟩)⟩] := by
  have hsorted : Row.sorted [strandedRow, backwardRow] = [strandedRow, backwardRow] :=
    Row.sortedBy_eq_self (fun row => row) (by decide)
  rw [hsorted]
  rfl

/-- A link to a row that is rejected is told of. -/
theorem loadRules_danglingLinks_strandedRow :
    let loaded := ({} : Stores).loadRules [strandedRow, backwardRow]
    ((⟨.timedActionList, 7⟩, [strandedRule]) : ChainKey × Chain) ∈ loaded.1.table.chains ∧
    strandedRule ∈ [strandedRule] ∧
    ⟨strandedRule.context, .danglingLink 2⟩ ∈ loaded.2.1.warnings := by
  intro loaded
  have hchain : loaded.1.table.chain? ⟨.timedActionList, 7⟩ = some [strandedRule] := by
    rw [loadRules_table, Row.keptRules, settlements_strandedRow, Table.chain?_ofRules_eq_some_iff]
    exact ⟨List.cons_ne_nil _ _, rfl⟩
  have hentry := (Table.mem_chains_iff _ _ _).mpr hchain
  have hrule : strandedRule ∈ [strandedRule] := List.mem_singleton_self _
  refine ⟨hentry, hrule, ?_⟩
  obtain ⟨-, -, -, -, hchains⟩ := loadRules_danglingLinks {} [strandedRow, backwardRow] {}
  refine ((hchains _ hentry).2 strandedRule hrule).2.mpr ⟨by decide, ?_⟩
  rw [settlements_strandedRow]
  intro settled hsettled hbelongs hid
  rcases List.mem_cons.mp hsettled with rfl | hsettled
  · exact absurd hid (by decide)
  · rw [List.mem_singleton.mp hsettled]
    rfl

end Stores

end AiScript
