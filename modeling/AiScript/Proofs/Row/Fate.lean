import AiScript.Proofs.Row.Examination
import AiScript.Proofs.Row.StorageOrder
import Mathlib.Data.List.Induction
import Mathlib.Tactic.ByContra

/-!
# The fate of a row

What becomes of a row depends on the rows before it only through those that are sound: a sound row
is kept unless a sound row before it claims the same id of the same chain. `Row.fate` says so
without a table. Under each id stands the rule of the first sound row that claims it, whatever came
of the rows in between.
-/

namespace AiScript

namespace Row

/-- Do two rows claim the same id of the same chain? -/
def sameClaim (a b : Row) : Bool :=
  a.sourceCode == b.sourceCode && a.owner == b.owner && a.id == b.id

/-- Does a row belong to the chain of a key? -/
def belongsTo (row : Row) (key : ChainKey) : Bool :=
  row.sourceCode == key.source.code && row.owner == key.owner

/-- What becomes of a row that comes after others: it is rejected for what is wrong with it, or else
because a sound row before it claims its id, or else it is kept. -/
def fate (world : Surroundings) (earlier : List Row) (row : Row) : Except Rejection Rule :=
  match (row.examine world).result with
  | .error reason => .error reason
  | .ok rule =>
    if earlier.any fun other => other.sameClaim row && (other.rule? world).isSome then
      .error (.duplicateId row.id)
    else .ok rule

/-- What a function makes of each row and the rows before it. -/
def inTurn {α : Type} (f : List Row → Row → α) (rows : List Row) : List α :=
  rows.mapIdx fun place row => f (rows.take place) row

/-- The last row comes after all the others. -/
theorem inTurn_concat {α : Type} (f : List Row → Row → α) (rows : List Row) (row : Row) :
    inTurn f (rows ++ [row]) = inTurn f rows ++ [f rows row] := by
  rw [inTurn, List.mapIdx_concat, List.take_append_of_le_length (Nat.le_refl _), List.take_length,
    inTurn]
  congr 1
  rw [List.mapIdx_eq_mapIdx_iff]
  intro place hplace
  rw [List.take_append_of_le_length (Nat.le_of_lt hplace)]

/-- What comes of a row in its turn is made of it and the rows before it. -/
theorem mem_inTurn_iff {α : Type} (f : List Row → Row → α) (rows : List Row) (found : α) :
    found ∈ inTurn f rows ↔
      ∃ earlier row rest, rows = earlier ++ row :: rest ∧ f earlier row = found := by
  rw [inTurn, List.mem_mapIdx]
  constructor
  · intro hfound
    obtain ⟨place, hplace, rfl⟩ := hfound
    refine ⟨rows.take place, rows[place], rows.drop (place + 1), ?_, rfl⟩
    rw [List.getElem_cons_drop, List.take_append_drop]
  · intro hsplit
    obtain ⟨earlier, row, rest, rfl, rfl⟩ := hsplit
    refine ⟨earlier.length, by simp, ?_⟩
    rw [List.take_left, List.getElem_append_right (Nat.le_refl _)]
    simp only [Nat.sub_self, List.getElem_cons_zero]

/-- There is one thing for each row. -/
theorem inTurn_length {α : Type} (f : List Row → Row → α) (rows : List Row) :
    (inTurn f rows).length = rows.length :=
  List.length_mapIdx

/-- If the same is picked from two things for each row in its turn, the same is picked in all. -/
theorem filterMap_inTurn_congr {α β γ : Type} {f : List Row → Row → α} {g : List Row → Row → β}
    {p : α → Option γ} {q : β → Option γ}
    (h : ∀ earlier row, p (f earlier row) = q (g earlier row)) (rows : List Row) :
    (inTurn f rows).filterMap p = (inTurn g rows).filterMap q := by
  induction rows using List.reverseRecOn with
  | nil => rfl
  | append_singleton rows row ih =>
    rw [inTurn_concat, inTurn_concat, List.filterMap_append, List.filterMap_append, ih,
      List.filterMap_cons, List.filterMap_cons, h rows row]
    rfl

/-- If the same list is made of two things for each row in its turn, the same is made of all. -/
theorem flatMap_inTurn_congr {α β γ : Type} {f : List Row → Row → α} {g : List Row → Row → β}
    {p : α → List γ} {q : β → List γ}
    (h : ∀ earlier row, p (f earlier row) = q (g earlier row)) (rows : List Row) :
    (inTurn f rows).flatMap p = (inTurn g rows).flatMap q := by
  induction rows using List.reverseRecOn with
  | nil => rfl
  | append_singleton rows row ih =>
    rw [inTurn_concat, inTurn_concat, List.flatMap_append, List.flatMap_append, ih,
      List.flatMap_singleton, List.flatMap_singleton, h rows row]

/-- A row, and what becomes of it. -/
structure Settled where
  row : Row
  fate : Except Rejection Rule

/-- The row's rejection, if it is rejected. -/
def Settled.rejection? (settled : Settled) : Option (Diagnostic Rejection) :=
  match settled.fate with
  | .error reason => some ⟨settled.row.context, reason⟩
  | .ok _ => none

/-- The warnings that examining the row raised, if it is kept. -/
def Settled.warnings (world : Surroundings) (settled : Settled) : List (Diagnostic Warning) :=
  match settled.fate with
  | .error _ => []
  | .ok _ =>
    (settled.row.examine world).warnings.map fun warning => ⟨settled.row.context, warning⟩

/-- What becomes of each row when rows are taken in the given order. -/
def settlements (world : Surroundings) : List Row → List Settled :=
  inTurn fun earlier row => ⟨row, row.fate world earlier⟩

/-- The rules of the kept rows, in the order of the rows. -/
def keptRules (world : Surroundings) (rows : List Row) : List Rule :=
  (settlements world rows).filterMap fun settled => settled.fate.toOption

/-- The rejections of the other rows, in the order of the rows. -/
def rejections (world : Surroundings) (rows : List Row) : List (Diagnostic Rejection) :=
  (settlements world rows).filterMap Settled.rejection?

/-- The warnings on the kept rows, in the order of the rows. -/
def keptWarnings (world : Surroundings) (rows : List Row) : List (Diagnostic Warning) :=
  (settlements world rows).flatMap (Settled.warnings world)

/-- The rule for which a row claims an id of a chain. -/
def claim? (world : Surroundings) (key : ChainKey) (id : UInt16) (row : Row) : Option Rule :=
  if row.belongsTo key && row.id == id then row.rule? world else none

variable {world : Surroundings} {earlier rows : List Row} {row : Row} {rule : Rule}

/-- A row belongs where its source code and its owner say. -/
theorem belongsTo_iff (row : Row) (key : ChainKey) :
    row.belongsTo key = true ↔ row.sourceCode = key.source.code ∧ row.owner = key.owner := by
  rw [belongsTo, Bool.and_eq_true, beq_iff_eq, beq_iff_eq]

/-- A rule claims what its row claims. -/
theorem chainKey_eq_iff (h : row.rule? world = some rule) (key : ChainKey) :
    rule.chainKey = key ↔ row.belongsTo key = true := by
  obtain ⟨kinds, hpasses, rfl⟩ := passes_of_rule? h
  have hcode := (names_of_identify hpasses.identified).source_code
  rw [belongsTo_iff, ← hcode]
  constructor
  · intro hkey
    subst hkey
    exact ⟨rfl, rfl⟩
  · intro hboth
    obtain ⟨hsource, howner⟩ := hboth
    change (⟨kinds.source, row.owner⟩ : ChainKey) = key
    rw [Source.code_injective hsource, howner]

/-- A rule has the id of its row. -/
theorem id_of_rule? (h : row.rule? world = some rule) : rule.id = row.id := by
  obtain ⟨kinds, -, rfl⟩ := passes_of_rule? h
  rfl

/-- To claim what a sound row claims is to claim the id of its rule. -/
theorem sameClaim_iff (h : row.rule? world = some rule) (other : Row) :
    other.sameClaim row = true ↔ other.belongsTo rule.chainKey = true ∧ other.id = rule.id := by
  have hrow := (belongsTo_iff row rule.chainKey).mp ((chainKey_eq_iff h rule.chainKey).mp rfl)
  rw [belongsTo_iff, id_of_rule? h, ← hrow.1, ← hrow.2, sameClaim, Bool.and_eq_true,
    Bool.and_eq_true, beq_iff_eq, beq_iff_eq, beq_iff_eq]

/-- A row is kept exactly if it is sound and no sound row before it claims its id. -/
theorem fate_eq_ok_iff : row.fate world earlier = .ok rule ↔
    row.rule? world = some rule ∧
      ∀ other ∈ earlier, other.sameClaim row = true → other.rule? world = none := by
  rw [fate, rule?_eq_some_iff]
  cases (row.examine world).result with
  | error reason => simp
  | ok found =>
    dsimp only
    split
    next hany =>
      rw [List.any_eq_true] at hany
      obtain ⟨other, hother, hclaim⟩ := hany
      rw [Bool.and_eq_true] at hclaim
      refine ⟨nofun, fun ⟨_, hnone⟩ => ?_⟩
      rw [hnone other hother hclaim.1] at hclaim
      exact absurd hclaim.2 (by decide)
    next hany =>
      refine ⟨fun h => ⟨h, fun other hother hclaim => ?_⟩, fun h => h.1⟩
      rw [List.any_eq_true] at hany
      by_contra hsome
      exact hany ⟨other, hother, by rw [hclaim, Option.isSome_iff_ne_none.mpr hsome]; rfl⟩

/-- Where rows come out alike, they have the same fates. -/
theorem settlements_congr {world other : Surroundings}
    (h : ∀ row : Row, (row.examine world).result = (row.examine other).result) (rows : List Row) :
    settlements world rows = settlements other rows := by
  have hrule : ∀ row : Row, row.rule? world = row.rule? other := fun row => by
    rw [rule?, rule?, h row]
  have hfate : ∀ (earlier : List Row) (row : Row), row.fate world earlier =
      row.fate other earlier := fun earlier row => by
    simp only [fate, h row, hrule]
  simp only [settlements, hfate]

/-- A kept rule has a greater id than the rules of its chain whose rows stand in front: the order
keeps ids from falling, and of two sound rows that claim one id the later is not kept. -/
theorem id_lt_of_fate {claimant : Row} {other : Rule} (hsound : claimant.rule? world = some other)
    (hearlier : claimant ∈ earlier) (hfate : row.fate world earlier = .ok rule)
    (hkey : other.chainKey = rule.chainKey) (hordered : ¬ row.ComesBefore claimant) :
    other.id < rule.id := by
  obtain ⟨hrule, hfree⟩ := fate_eq_ok_iff.mp hfate
  have hbelongs := (chainKey_eq_iff hsound rule.chainKey).mp hkey
  obtain ⟨hsource, howner⟩ := (belongsTo_iff claimant rule.chainKey).mp hbelongs
  obtain ⟨hsource', howner'⟩ :=
    (belongsTo_iff row rule.chainKey).mp ((chainKey_eq_iff hrule rule.chainKey).mp rfl)
  have hle : claimant.id ≤ row.id :=
    id_le_of_not_comesBefore (howner.trans howner'.symm) (hsource.trans hsource'.symm) hordered
  have hne : claimant.id ≠ row.id := by
    intro hid
    have hclaims : claimant.sameClaim row = true :=
      (sameClaim_iff hrule claimant).mpr ⟨hbelongs, hid.trans (id_of_rule? hrule).symm⟩
    rw [hfree claimant hearlier hclaims] at hsound
    cases hsound
  rw [id_of_rule? hsound, id_of_rule? hrule]
  exact UInt16.lt_of_le_of_ne hle hne

/-- The last row settles after all the others. -/
theorem settlements_concat (world : Surroundings) (rows : List Row) (row : Row) :
    settlements world (rows ++ [row]) = settlements world rows ++ [⟨row, row.fate world rows⟩] :=
  inTurn_concat _ rows row

/-- The last row adds its rule if it is kept. -/
theorem keptRules_concat (world : Surroundings) (rows : List Row) (row : Row) :
    keptRules world (rows ++ [row]) =
      keptRules world rows ++ (row.fate world rows).toOption.toList := by
  rw [keptRules, settlements_concat, List.filterMap_append, keptRules]
  cases row.fate world rows <;> rfl

/-- Each row settles once, in its place. -/
theorem settlements_map_row (world : Surroundings) (rows : List Row) :
    (settlements world rows).map Settled.row = rows := by
  induction rows using List.reverseRecOn with
  | nil => rfl
  | append_singleton rows row ih =>
    rw [settlements_concat, List.map_append, ih, List.map_singleton]

/-- A kept row is sound. -/
theorem rule?_of_mem_settlements {settled : Settled} {rule : Rule}
    (h : settled ∈ settlements world rows) (hfate : settled.fate = .ok rule) :
    settled.row.rule? world = some rule := by
  obtain ⟨earlier, row, rest, -, rfl⟩ := (mem_inTurn_iff _ _ _).mp h
  exact (fate_eq_ok_iff.mp hfate).1

/-- A kept rule is that of a sound row. -/
theorem exists_row_of_mem_keptRules (h : rule ∈ keptRules world rows) :
    ∃ row ∈ rows, row.rule? world = some rule := by
  rw [keptRules, List.mem_filterMap] at h
  obtain ⟨settled, hsettled, hfate⟩ := h
  have hrow : settled.row ∈ rows := by
    rw [← settlements_map_row world rows]
    exact List.mem_map_of_mem hsettled
  exact ⟨settled.row, hrow,
    rule?_of_mem_settlements hsettled ((toOption_eq_some_iff _ _).mp hfate)⟩

/-- A row claims an id for its rule exactly if it is sound and the rule goes under that id. -/
theorem claim?_eq_some_iff (key : ChainKey) (id : UInt16) :
    claim? world key id row = some rule ↔
      row.rule? world = some rule ∧ rule.chainKey = key ∧ rule.id = id := by
  rw [claim?, Option.ite_none_right_eq_some, Bool.and_eq_true, beq_iff_eq]
  constructor
  · intro hclaim
    obtain ⟨⟨hbelongs, hid⟩, hrule⟩ := hclaim
    exact ⟨hrule, (chainKey_eq_iff hrule key).mpr hbelongs, (id_of_rule? hrule).trans hid⟩
  · intro hsound
    obtain ⟨hrule, hkey, hid⟩ := hsound
    exact ⟨⟨(chainKey_eq_iff hrule key).mp hkey, (id_of_rule? hrule).symm.trans hid⟩, hrule⟩

/-- A row that claims an id which no row before it claims is kept. -/
theorem fate_eq_ok_of_claim? {key : ChainKey} {id : UInt16}
    (hclaim : claim? world key id row = some rule)
    (hfree : earlier.findSome? (claim? world key id) = none) :
    row.fate world earlier = .ok rule := by
  obtain ⟨hrule, rfl, rfl⟩ := (claim?_eq_some_iff key id).mp hclaim
  refine fate_eq_ok_iff.mpr ⟨hrule, fun other hother hsame => ?_⟩
  have hnone := List.findSome?_eq_none_iff.mp hfree other hother
  obtain ⟨hbelongs, hid⟩ := (sameClaim_iff hrule other).mp hsame
  rwa [claim?, hbelongs, hid, beq_self_eq_true, Bool.and_self, if_pos rfl] at hnone

/-- Under each id stands the rule of the first sound row that claims it. -/
theorem keptRules_find? (world : Surroundings) (key : ChainKey) (id : UInt16) (rows : List Row) :
    (keptRules world rows).find? (fun rule => rule.chainKey = key && rule.id == id) =
      rows.findSome? (claim? world key id) := by
  induction rows using List.reverseRecOn with
  | nil => rfl
  | append_singleton rows row ih =>
    rw [keptRules_concat, List.find?_append, List.findSome?_append, ih]
    cases hearlier : rows.findSome? (claim? world key id) with
    | some rule => rfl
    | none =>
      rw [Option.none_or, Option.none_or, List.findSome?_singleton]
      cases hclaim : claim? world key id row with
      | some rule =>
        obtain ⟨-, hkey, hid⟩ := (claim?_eq_some_iff key id).mp hclaim
        simp [fate_eq_ok_of_claim? hclaim hearlier, Except.toOption, hkey, hid]
      | none =>
        -- the row may well be kept, but not under this id
        rw [List.find?_eq_none]
        intro rule hrule hfound
        rw [Option.mem_toList, toOption_eq_some_iff, fate_eq_ok_iff] at hrule
        rw [Bool.and_eq_true, decide_eq_true_eq, beq_iff_eq] at hfound
        rw [(claim?_eq_some_iff key id).mpr ⟨hrule.1, hfound⟩] at hclaim
        cases hclaim

/-- An id of a chain is taken exactly if a sound row has claimed it. -/
theorem exists_mem_keptRules_iff (world : Surroundings) (key : ChainKey) (id : UInt16)
    (rows : List Row) :
    (∃ rule ∈ keptRules world rows, rule.chainKey = key ∧ rule.id = id) ↔
      ∃ row ∈ rows, row.belongsTo key = true ∧ row.id = id ∧ (row.rule? world).isSome = true := by
  have hfind := congrArg Option.isSome (keptRules_find? world key id rows)
  rw [Bool.eq_iff_iff, List.find?_isSome, List.findSome?_isSome_iff] at hfind
  have hclaim : ∀ row : Row, (claim? world key id row).isSome = true ↔
      row.belongsTo key = true ∧ row.id = id ∧ (row.rule? world).isSome = true := by
    intro row
    rw [claim?]
    split <;> simp_all
  simpa only [Bool.and_eq_true, decide_eq_true_eq, beq_iff_eq, hclaim] using hfind

end Row

end AiScript
