import AiScript.Proofs.Stores.Run

/-!
# Rows in any order

Rows may arrive in any order. Of sound rows that claim one id of a chain, the order of arrival may
decide which is kept, but only among those with the least link: a row with a lesser link stands in
front of them in storage order. So the ids and the links of a chain are the same in whatever order
the rows came, and so are the numbers of a report. Where rows of one place keep their order, nothing
changes at all.
-/

namespace AiScript

/-- The ids of a chain, each with its link. -/
def Chain.links (chain : Chain) : List (UInt16 × UInt16) :=
  chain.map fun rule => (rule.id, rule.link)

namespace Row

/-- Of the sound rows that claim an id of a chain, one has the given link, and none a lesser one. -/
structure LeastLink (world : Surroundings) (rows : List Row) (key : ChainKey) (id link : UInt16) :
    Prop where
  claimed : ∃ row ∈ rows, (claim? world key id row).isSome = true ∧ row.link = link
  least : ∀ row ∈ rows, (claim? world key id row).isSome = true → link ≤ row.link

variable {world : Surroundings} {rows others : List Row} {row : Row} {rule : Rule} {key : ChainKey}
  {id link : UInt16}

/-- There is only one least link. -/
theorem LeastLink.unique {link' : UInt16} (h : LeastLink world rows key id link)
    (h' : LeastLink world rows key id link') : link = link' := by
  obtain ⟨row, hrow, hclaim, rfl⟩ := h.claimed
  obtain ⟨row', hrow', hclaim', rfl⟩ := h'.claimed
  exact UInt16.le_antisymm (h.least row' hrow' hclaim') (h'.least row hrow hclaim)

/-- The least link does not hang on the order of the rows. -/
theorem LeastLink.of_perm (hperm : others.Perm rows) (h : LeastLink world rows key id link) :
    LeastLink world others key id link where
  claimed := by
    obtain ⟨row, hrow, hclaim⟩ := h.claimed
    exact ⟨row, hperm.mem_iff.mpr hrow, hclaim⟩
  least := fun row hrow hclaim => h.least row (hperm.mem_iff.mp hrow) hclaim

/-- A rule has the link of its row. -/
theorem link_of_rule? (h : row.rule? world = some rule) : rule.link = row.link := by
  obtain ⟨kinds, -, rfl⟩ := passes_of_rule? h
  rfl

/-- Of two rows that claim one id, the one in front has no greater link. -/
theorem link_le_of_not_comesBefore {a b : Row} (hclaim : a.sameClaim b = true)
    (hab : ¬ b.ComesBefore a) : a.link ≤ b.link := by
  simp only [sameClaim, Bool.and_eq_true, beq_iff_eq] at hclaim
  obtain ⟨⟨hsource, howner⟩, hid⟩ := hclaim
  rw [← UInt16.not_lt]
  intro hlink
  exact hab (Or.inr ⟨howner.symm, Or.inr ⟨hsource.symm, Or.inr ⟨hid.symm, hlink⟩⟩⟩)

/-- A kept rule is that of a row whose fate it was to be kept. -/
theorem exists_fate_of_mem_keptRules (h : rule ∈ keptRules world rows) :
    ∃ earlier row rest, rows = earlier ++ row :: rest ∧ row.fate world earlier = .ok rule := by
  obtain ⟨settled, hsettled, hfate⟩ := List.mem_filterMap.mp h
  obtain ⟨earlier, row, rest, hrows, rfl⟩ := (mem_inTurn_iff _ _ _).mp hsettled
  exact ⟨earlier, row, rest, hrows, (toOption_eq_some_iff _ _).mp hfate⟩

/-- Of the rows that claim an id, one with the least link is kept. -/
theorem leastLink_of_mem_keptRules (hordered : rows.Pairwise fun a b => ¬ b.ComesBefore a)
    (h : rule ∈ keptRules world rows) :
    LeastLink world rows rule.chainKey rule.id rule.link := by
  obtain ⟨earlier, row, rest, rfl, hfate⟩ := exists_fate_of_mem_keptRules h
  obtain ⟨hrule, hfree⟩ := fate_eq_ok_iff.mp hfate
  have hclaim : claim? world rule.chainKey rule.id row = some rule :=
    (claim?_eq_some_iff _ _).mpr ⟨hrule, rfl, rfl⟩
  refine ⟨⟨row, by simp, by rw [hclaim, Option.isSome_some], (link_of_rule? hrule).symm⟩, ?_⟩
  intro other hother hclaimed
  obtain ⟨found, hfound⟩ := Option.isSome_iff_exists.mp hclaimed
  obtain ⟨hsound, hkey, hid⟩ := (claim?_eq_some_iff _ _).mp hfound
  have hsame : other.sameClaim row = true := (sameClaim_iff hrule other).mpr
    ⟨(chainKey_eq_iff hsound _).mp hkey, (id_of_rule? hsound).symm.trans hid⟩
  rw [link_of_rule? hrule]
  rcases List.mem_append.mp hother with hearlier | hlater
  · -- it would have been kept in the place of the row
    rw [hfree other hearlier hsame] at hsound
    cases hsound
  · rcases List.mem_cons.mp hlater with rfl | hrest
    · exact UInt16.le_refl _
    · have hback := (List.pairwise_cons.mp (List.pairwise_append.mp hordered).2.1).1 other hrest
      have hsymm : row.sameClaim other = true := by
        simp only [sameClaim, Bool.and_eq_true, beq_iff_eq] at hsame ⊢
        exact ⟨⟨hsame.1.1.symm, hsame.1.2.symm⟩, hsame.2.symm⟩
      exact link_le_of_not_comesBefore hsymm hback

/-- A kept rule goes under an id with a link exactly if that is the least link. -/
theorem exists_mem_keptRules_iff_leastLink
    (hordered : rows.Pairwise fun a b => ¬ b.ComesBefore a) :
    (∃ rule ∈ keptRules world rows, rule.chainKey = key ∧ rule.id = id ∧ rule.link = link) ↔
      LeastLink world rows key id link := by
  constructor
  · intro hkept
    obtain ⟨rule, hrule, rfl, rfl, rfl⟩ := hkept
    exact leastLink_of_mem_keptRules hordered hrule
  · intro hleast
    obtain ⟨row, hrow, hclaim, -⟩ := hleast.claimed
    obtain ⟨found, hfound⟩ := Option.isSome_iff_exists.mp hclaim
    obtain ⟨hsound, hkey, hid⟩ := (claim?_eq_some_iff _ _).mp hfound
    obtain ⟨rule, hrule, rfl, rfl⟩ := (exists_mem_keptRules_iff world key id rows).mpr
      ⟨row, hrow, (chainKey_eq_iff hsound key).mp hkey, (id_of_rule? hsound).symm.trans hid,
        by rw [hsound, Option.isSome_some]⟩
    exact ⟨rule, hrule, rfl, rfl, (leastLink_of_mem_keptRules hordered hrule).unique hleast⟩

/-- An id stands in a chain with a link exactly if that is the least link. -/
theorem mem_links_iff (world : Surroundings) (rows : List Row) (key : ChainKey)
    (id link : UInt16) :
    (id, link) ∈ (Chain.ofRules (keptRules world (sorted rows)) key).links ↔
      LeastLink world (sorted rows) key id link := by
  rw [← exists_mem_keptRules_iff_leastLink (sorted_ordered rows)]
  simp only [Chain.links, Chain.ofRules, List.mem_map, List.mem_filter, decide_eq_true_eq,
    Prod.mk.injEq, and_assoc]

/-- The ids and links of a chain do not hang on the order in which the rows came. -/
theorem links_eq_of_perm (hperm : others.Perm rows) (world : Surroundings) (key : ChainKey) :
    (Chain.ofRules (keptRules world (sorted others)) key).links =
      (Chain.ofRules (keptRules world (sorted rows)) key).links := by
  have hsorted : (sorted others).Perm (sorted rows) :=
    (sorted_perm others).trans (hperm.trans (sorted_perm rows).symm)
  have hascending : ∀ rows : List Row,
      (Chain.ofRules (keptRules world (sorted rows)) key).links.Pairwise fun a b => a.1 < b.1 :=
    fun rows => List.pairwise_map.mpr (keptRules_ascending (sorted_ordered rows) key)
  have hnodup : ∀ rows : List Row,
      (Chain.ofRules (keptRules world (sorted rows)) key).links.Nodup :=
    fun rows => (hascending rows).imp fun hlt heq => UInt16.ne_of_lt hlt (congrArg Prod.fst heq)
  have hmem : ∀ pair, pair ∈ (Chain.ofRules (keptRules world (sorted others)) key).links ↔
      pair ∈ (Chain.ofRules (keptRules world (sorted rows)) key).links := by
    intro pair
    rw [mem_links_iff, mem_links_iff]
    exact ⟨LeastLink.of_perm hsorted.symm, LeastLink.of_perm hsorted⟩
  have hlinks := (List.perm_ext_iff_of_nodup (hnodup others) (hnodup rows)).mpr hmem
  exact hlinks.eq_of_pairwise
    (fun a b _ _ hab hba => absurd (UInt16.lt_trans hab hba) (UInt16.lt_irrefl a.1))
    (hascending others) (hascending rows)

end Row

namespace Table

variable {table other : Table}

/-- Tables that answer alike for each key list alike what they answer. -/
theorem chains_map_congr {α : Type} {view : Chain → α}
    (h : ∀ key, (table.chain? key).map view = (other.chain? key).map view) :
    (table.chains.map fun entry => (entry.1, view entry.2)) =
      other.chains.map fun entry => (entry.1, view entry.2) := by
  have hviews : (table.entries.map fun _ chain => view chain) =
      other.entries.map fun _ chain => view chain := by
    refine Std.ExtTreeMap.ext_getElem? fun key => ?_
    rw [Std.ExtTreeMap.getElem?_map, Std.ExtTreeMap.getElem?_map]
    exact h key
  have hlists := congrArg Std.ExtTreeMap.toList hviews
  rwa [Std.ExtTreeMap.toList_map, Std.ExtTreeMap.toList_map] at hlists

/-- Tables with the same ids and links have as many chains and as many rules. -/
theorem counts_eq_of_links
    (h : (table.chains.map fun entry => (entry.1, entry.2.links)) =
      other.chains.map fun entry => (entry.1, entry.2.links)) :
    table.entityCount = other.entityCount ∧ table.ruleCount = other.ruleCount := by
  constructor
  · have hlength := congrArg List.length h
    rwa [List.length_map, List.length_map, chains, chains, Std.ExtTreeMap.length_toList,
      Std.ExtTreeMap.length_toList] at hlength
  · have hsizes := congrArg (List.map fun entry => entry.2.length) h
    simp only [List.map_map, Function.comp_def, Chain.links, List.length_map] at hsizes
    rw [ruleCount, ruleCount, hsizes]

end Table

namespace Stores

variable {rows others : List Row}

/-- Permuted rows give the same chains, as far as ids and links go. -/
theorem chains_links_of_perm (hperm : others.Perm rows) (stores : Stores) (options : LoadOptions) :
    ((stores.loadRules others options).1.table.chains.map fun entry => (entry.1, entry.2.links)) =
      (stores.loadRules rows options).1.table.chains.map fun entry => (entry.1, entry.2.links) := by
  refine Table.chains_map_congr fun key => ?_
  have hlinks := Row.links_eq_of_perm hperm (stores.surroundings options) key
  have hnil : ∀ chain : Chain, chain = [] ↔ chain.links = [] := by
    intro chain
    rw [Chain.links, List.map_eq_nil_iff]
  rw [loadRules_table, loadRules_table, Table.chain?_ofRules, Table.chain?_ofRules,
    apply_ite (Option.map Chain.links), apply_ite (Option.map Chain.links), Option.map_none,
    Option.map_some, Option.map_some]
  simp only [hnil, hlinks]

/-- A load looks at the rows in storage order only. -/
theorem loadRules_congr (hperm : others.Perm rows) (hsorted : Row.sorted others = Row.sorted rows)
    (stores : Stores) (options : LoadOptions) :
    stores.loadRules others options = stores.loadRules rows options := by
  rw [loadRules, loadRules, Table.load, Table.load, hperm.isEmpty_eq, hsorted]

/-- Input order does not matter. Permuted rows give chains under the same keys, with the same ids
and links in the same order, and reports with the same numbers. If besides rows of one place keep
their order, as they do when there are no two of them, the load is the same altogether. -/
theorem loadRules_perm (hperm : others.Perm rows) (stores : Stores) (options : LoadOptions) :
    let loaded := stores.loadRules rows options
    let permuted := stores.loadRules others options
    (permuted.1.table.chains.map fun entry => (entry.1, entry.2.links)) =
      (loaded.1.table.chains.map fun entry => (entry.1, entry.2.links)) ∧
    permuted.2.1.entities = loaded.2.1.entities ∧
    permuted.2.1.rules = loaded.2.1.rules ∧
    permuted.2.1.rejected.length = loaded.2.1.rejected.length ∧
    ((∀ row, others.filter (Row.samePlace row) = rows.filter (Row.samePlace row)) →
      permuted = loaded) ∧
    ((rows.Pairwise fun a b => Row.samePlace a b = false) → permuted = loaded) := by
  intro loaded permuted
  have hlinks := chains_links_of_perm hperm stores options
  obtain ⟨hentities, hrules⟩ := Table.counts_eq_of_links hlinks
  have htallies := tallies_loadRules stores rows options
  have htallies' := tallies_loadRules stores others options
  have hcount : permuted.2.1.rules = loaded.2.1.rules :=
    htallies'.rules.trans (hrules.trans htallies.rules.symm)
  refine ⟨hlinks, htallies'.entities.trans (hentities.trans htallies.entities.symm), hcount, ?_,
    fun hplaces => loadRules_congr hperm (Row.sorted_congr hplaces) stores options,
    fun hplaces => loadRules_congr hperm
      (Row.sorted_congr (Row.filter_samePlace_eq_of_perm hperm hplaces)) stores options⟩
  have hrows : loaded.2.1.rules + loaded.2.1.rejected.length = rows.length := htallies.rows
  have hothers : permuted.2.1.rules + permuted.2.1.rejected.length = others.length :=
    htallies'.rows
  have hlength := hperm.length_eq
  omega

/-- A row of a timed action list. -/
def certainRow : Row := { owner := 7, sourceCode := 9, id := 1, actionCode := 24 }

/-- A row that differs from it in its chance alone, and so has the same place. -/
def unlikelyRow : Row := { certainRow with chance := 1 }

/-- Which of the two rows is kept depends on their order, but not under which id and link. -/
theorem loadRules_perm_unlikelyRow :
    let loaded := ({} : Stores).loadRules [certainRow, unlikelyRow]
    let permuted := ({} : Stores).loadRules [unlikelyRow, certainRow]
    [unlikelyRow, certainRow].Perm [certainRow, unlikelyRow] ∧
    (permuted.1.table.chains.map fun entry => (entry.1, entry.2.links)) =
      (loaded.1.table.chains.map fun entry => (entry.1, entry.2.links)) ∧
    permuted.2.1.rejected.length = loaded.2.1.rejected.length ∧
    permuted.1.table.chains ≠ loaded.1.table.chains := by
  intro loaded permuted
  have hperm : [unlikelyRow, certainRow].Perm [certainRow, unlikelyRow] := List.Perm.swap _ _ _
  obtain ⟨hlinks, -, -, hrejected, -⟩ := loadRules_perm hperm {} {}
  have hsorted : Row.sorted [certainRow, unlikelyRow] = [certainRow, unlikelyRow] :=
    Row.sortedBy_eq_self (fun row => row) (by decide)
  have hsorted' : Row.sorted [unlikelyRow, certainRow] = [unlikelyRow, certainRow] :=
    Row.sortedBy_eq_self (fun row => row) (by decide)
  have hloaded : (loaded.1.table.chains.flatMap fun entry =>
      entry.2.map fun rule => rule.trigger.chance) = [100] := by
    rw [(loadRules_eq_settleAll {} [certainRow, unlikelyRow] {}).1, hsorted]
    rfl
  have hpermuted : (permuted.1.table.chains.flatMap fun entry =>
      entry.2.map fun rule => rule.trigger.chance) = [1] := by
    rw [(loadRules_eq_settleAll {} [unlikelyRow, certainRow] {}).1, hsorted']
    rfl
  refine ⟨hperm, hlinks, hrejected, fun hsame => ?_⟩
  rw [hsame, hloaded] at hpermuted
  exact absurd hpermuted (by decide)

end Stores

end AiScript
