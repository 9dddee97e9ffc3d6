import AiScript.Proofs.Groups
import AiScript.Table

/-!
# The chains of a table

A table is known by what it answers for each key. Pushing rules one after the other groups them by
key and keeps their order: the chain of a key is the part of the rules that belongs there, and there
is no chain where there is no rule. The counts of a table are those of the rules pushed. Admitting a
rule pushes it or changes nothing, although its chain is entered in either case (`admit_eq`).
-/

namespace AiScript

/-- The rules of a list that belong to the chain of a key, as they come. -/
def Chain.ofRules (rules : List Rule) (key : ChainKey) : Chain :=
  rules.filter fun rule => rule.chainKey = key

/-- Chain keys go by source, then by owner. -/
def ChainKey.ComesBefore (a b : ChainKey) : Prop :=
  a.source.code < b.source.code ∨ a.source = b.source ∧ a.owner < b.owner

/-- Keys compare as smaller exactly if the one comes before the other. -/
theorem ChainKey.compare_eq_lt_iff (a b : ChainKey) : compare a b = .lt ↔ a.ComesBefore b := by
  have hthen : compare a b =
      (compare a.source.code b.source.code).then (compare a.owner b.owner) := rfl
  rw [hthen, Ordering.then_eq_lt, Std.compare_eq_lt, Std.compare_eq_lt,
    Std.LawfulEqCmp.compare_eq_iff_eq, ComesBefore]
  have hcode : a.source.code = b.source.code ↔ a.source = b.source :=
    ⟨Source.code_injective, congrArg Source.code⟩
  rw [hcode]

namespace Table

/-- The table that comes of rules pushed one after the other. -/
def ofRules (rules : List Rule) : Table := rules.foldl push empty

@[simp] theorem chain?_empty (key : ChainKey) : empty.chain? key = none := by
  simp [chain?, empty]

@[simp] theorem chains_empty : empty.chains = [] := Std.ExtTreeMap.toList_eq_nil_iff.mpr rfl

@[simp] theorem entityCount_empty : empty.entityCount = 0 := Std.ExtTreeMap.size_empty

/-- Nothing is left once every chain is dropped. -/
theorem clear_eq_empty (table : Table) : table.clear = empty := by
  have hentries : table.entries.filter (fun _ _ => false) = ∅ :=
    Std.ExtTreeMap.ext_getElem? fun key => by simp
  rw [clear, hentries, empty]

/-- A chain that is entered is there, with the rules that it had, and the others are left alone. -/
theorem chain?_enter (table : Table) (key other : ChainKey) :
    (table.enter key).chain? other =
      if key = other then some ((table.chain? key).getD []) else table.chain? other := by
  simp only [chain?, enter, Std.ExtTreeMap.getElem?_alter, Std.LawfulEqCmp.compare_eq_iff_eq]

/-- Tables are known by the chains that are found in them. -/
theorem ext_chain? {table other : Table} (h : ∀ key, table.chain? key = other.chain? key) :
    table = other := by
  cases table
  cases other
  rw [mk.injEq]
  exact Std.ExtTreeMap.ext_getElem? h

/-- To enter a chain that is there does nothing. -/
theorem enter_of_chain? {table : Table} {key : ChainKey} {chain : Chain}
    (h : table.chain? key = some chain) : table.enter key = table := by
  refine ext_chain? fun other => ?_
  rw [chain?_enter]
  split
  next hkey => rw [h, Option.getD_some, ← hkey, h]
  next => rfl

/-- Pushing a rule lengthens its own chain and leaves the others alone. -/
theorem chain?_push (table : Table) (rule : Rule) (key : ChainKey) :
    (table.push rule).chain? key =
      if rule.chainKey = key then some ((table.chain? key).getD [] ++ [rule])
      else table.chain? key := by
  simp only [chain?, push, Std.ExtTreeMap.getElem?_alter, Std.LawfulEqCmp.compare_eq_iff_eq]
  split
  next hkey => rw [hkey]
  next => rfl

/-- A rule may be pushed without its chain being entered first. -/
theorem push_enter (table : Table) (rule : Rule) :
    (table.enter rule.chainKey).push rule = table.push rule := by
  refine ext_chain? fun key => ?_
  rw [chain?_push, chain?_push, chain?_enter]
  by_cases hkey : rule.chainKey = key
  · rw [if_pos hkey, if_pos hkey, if_pos hkey, Option.getD_some, hkey]
  · rw [if_neg hkey, if_neg hkey, if_neg hkey]

/-- A rule is refused if a rule of its chain has its id, and else pushed. A refusal leaves the table
as it was: a chain with a rule was there before it was entered. -/
theorem admit_eq (table : Table) (rule : Rule) :
    table.admit rule =
      let chain := (table.chain? rule.chainKey).getD []
      if chain.any fun other => other.id == rule.id then
        (.rejected (.duplicateId rule.id), table)
      else (if chain = [] then .opened rule else .joined rule, table.push rule) := by
  unfold Table.admit
  simp only [chain?_enter, if_true, Option.getD_some, push_enter, List.isEmpty_iff]
  cases hchain : table.chain? rule.chainKey with
  | none => simp only [Option.getD_none, List.any_nil, Bool.false_eq_true, if_false]
  | some chain => rw [enter_of_chain? hchain]

/-- No chain of the table is without rules. -/
def Filled (table : Table) : Prop := ∀ key, table.chain? key ≠ some []

theorem filled_empty : empty.Filled := by
  intro key
  rw [chain?_empty]
  exact nofun

/-- A chain without rules is not left behind, whether or not a rule is admitted. -/
theorem Filled.admitted {table : Table} (h : table.Filled) (rule : Rule) :
    let admitted := table.admit rule
    admitted.2.Filled := by
  intro admitted key
  have hadmitted : admitted = _ := admit_eq table rule
  rw [hadmitted]
  dsimp only
  split
  next => exact h key
  next =>
    rw [chain?_push]
    split
    · simp
    · exact h key

/-- The last rule is pushed last. -/
theorem ofRules_concat (rules : List Rule) (rule : Rule) :
    ofRules (rules ++ [rule]) = (ofRules rules).push rule := by
  rw [ofRules, List.foldl_concat, ofRules]

/-- Under a key stand the rules that belong there, and nothing if there are none. -/
theorem chain?_ofRules (rules : List Rule) (key : ChainKey) :
    (ofRules rules).chain? key =
      if Chain.ofRules rules key = [] then none else some (Chain.ofRules rules key) := by
  induction rules using List.reverseRecOn with
  | nil => rw [ofRules, List.foldl_nil, chain?_empty, Chain.ofRules, List.filter_nil, if_pos rfl]
  | append_singleton rules rule ih =>
    rw [ofRules_concat, chain?_push, ih]
    by_cases hkey : rule.chainKey = key
    · have hconcat : Chain.ofRules (rules ++ [rule]) key = Chain.ofRules rules key ++ [rule] := by
        simp [Chain.ofRules, hkey]
      have hne : Chain.ofRules rules key ++ [rule] ≠ [] := by simp
      rw [if_pos hkey, hconcat, if_neg hne]
      by_cases hnil : Chain.ofRules rules key = []
      · rw [if_pos hnil, hnil, Option.getD_none]
      · rw [if_neg hnil, Option.getD_some]
    · have hsame : Chain.ofRules (rules ++ [rule]) key = Chain.ofRules rules key := by
        simp [Chain.ofRules, hkey]
      rw [if_neg hkey, hsame]

/-- The rules that are found under a key are those that belong there. -/
theorem getD_chain?_ofRules (rules : List Rule) (key : ChainKey) :
    ((ofRules rules).chain? key).getD [] = Chain.ofRules rules key := by
  rw [chain?_ofRules]
  split
  next hnil => rw [hnil, Option.getD_none]
  next => rfl

/-- A key has a chain exactly if some rule belongs there, and then all that do. -/
theorem chain?_ofRules_eq_some_iff (rules : List Rule) (key : ChainKey) (chain : Chain) :
    (ofRules rules).chain? key = some chain ↔ chain ≠ [] ∧ chain = Chain.ofRules rules key := by
  rw [chain?_ofRules]
  split
  next hnil =>
    rw [hnil]
    exact ⟨nofun, fun h => absurd h.2 h.1⟩
  next hne =>
    rw [Option.some.injEq]
    exact ⟨fun h => ⟨h ▸ hne, h.symm⟩, fun h => h.2.symm⟩

/-- A rule is admitted to a new chain, or behind the rules of its chain unless one has its id. -/
theorem admit_ofRules (rules : List Rule) (rule : Rule) :
    Table.admit (ofRules rules) rule =
      if (Chain.ofRules rules rule.chainKey).any fun other => other.id == rule.id then
        (.rejected (.duplicateId rule.id), ofRules rules)
      else
        (if Chain.ofRules rules rule.chainKey = [] then .opened rule else .joined rule,
          ofRules (rules ++ [rule])) := by
  rw [admit_eq, getD_chain?_ofRules, ofRules_concat]

/-- The chains that are listed are those that are found under their keys. -/
theorem mem_chains_iff (table : Table) (key : ChainKey) (chain : Chain) :
    (key, chain) ∈ table.chains ↔ table.chain? key = some chain :=
  Std.ExtTreeMap.mem_toList_iff_getElem?_eq_some

/-- Chains are listed by ascending key. -/
theorem chains_ordered (table : Table) :
    table.chains.Pairwise fun a b => a.1.ComesBefore b.1 := by
  have hkeys : table.chains.Pairwise fun a b => compare a.1 b.1 = .lt :=
    Std.ExtTreeMap.ordered_keys_toList
  exact hkeys.imp fun {a b} hlt => (ChainKey.compare_eq_lt_iff a.1 b.1).mp hlt

/-- A table is empty exactly if no chain is listed. -/
theorem isEmpty_iff_chains_eq_nil (table : Table) : table.isEmpty = true ↔ table.chains = [] := by
  rw [isEmpty, chains, ← Std.ExtTreeMap.isEmpty_toList, List.isEmpty_iff]

/-- Pushing a rule adds a chain exactly if its key had none. -/
theorem entityCount_push (table : Table) (rule : Rule) :
    (table.push rule).entityCount =
      table.entityCount + if table.chain? rule.chainKey = none then 1 else 0 := by
  have hmem : rule.chainKey ∈ table.entries ↔ table.chain? rule.chainKey ≠ none := by
    rw [chain?, ne_eq, getElem?_eq_none_iff, not_not]
  simp only [entityCount, push, Std.ExtTreeMap.size_alter, Option.isNone_some,
    Bool.false_eq_true, and_false, if_false, Option.isSome_some, and_true, hmem, not_not]
  split <;> rfl

/-- No two chains are listed under one key. -/
theorem chains_keys_nodup (table : Table) : (table.chains.map Prod.fst).Nodup :=
  keys_toList_nodup table.entries

/-- Of the listed chains, one is that of a key, if there is any. -/
theorem chains_filter_key (table : Table) (key : ChainKey) :
    table.chains.filter (fun entry => entry.1 = key) =
      ((table.chain? key).map fun chain => (key, chain)).toList := by
  cases hchain : table.chain? key with
  | none =>
    rw [Option.map_none, Option.toList_none, List.filter_eq_nil_iff]
    intro entry hentry hkey
    rw [mem_chains_iff, decide_eq_true_eq.mp hkey, hchain] at hentry
    cases hentry
  | some chain =>
    have hnodup : table.chains.Nodup := (chains_keys_nodup table).of_map
    rw [Option.map_some, Option.toList_some, ← List.perm_singleton]
    refine (List.perm_ext_iff_of_nodup (hnodup.filter _) (List.nodup_singleton _)).mpr ?_
    intro entry
    rw [List.mem_filter, mem_chains_iff, decide_eq_true_eq, List.mem_singleton]
    constructor
    · intro hlisted
      obtain ⟨hfound, hkey⟩ := hlisted
      rw [hkey, hchain] at hfound
      exact Prod.ext hkey (Option.some.inj hfound).symm
    · intro heq
      subst heq
      exact ⟨hchain, rfl⟩

/-- A table holds as many rules as were pushed. -/
theorem ruleCount_ofRules (rules : List Rule) : (ofRules rules).ruleCount = rules.length := by
  have hlength : ∀ key, ((ofRules rules).entries[key]?.getD []).length =
      (rules.map Rule.chainKey).count key := by
    intro key
    have hchain : (ofRules rules).entries[key]?.getD [] = Chain.ofRules rules key :=
      getD_chain?_ofRules rules key
    rw [hchain, Chain.ofRules, ← List.countP_eq_length_filter, List.count, List.countP_map]
    exact List.countP_congr fun rule _ => by simp
  calc (ofRules rules).ruleCount
      = ((ofRules rules).chains.map fun entry => entry.2.length).foldr (· + ·) 0 := rfl
    _ = (rules.map Rule.chainKey).length := sum_length_of_groups _ hlength
    _ = rules.length := List.length_map _

end Table

end AiScript
