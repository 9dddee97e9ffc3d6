import AiScript.Proofs.Row.Run

/-!
# What makes a row sound

Examining a row gives a rule exactly if the row names a source, an owner and kinds that there are,
and no stage breaks a condition; the rule is then the one that the row spells. `Row.Passes` collects
these facts, so that what is said about sound rows need not look at the stages again.
-/

namespace AiScript

/-- A result counts as a value exactly if it is that value. -/
theorem toOption_eq_some_iff {ε α : Type} (result : Except ε α) (value : α) :
    result.toOption = some value ↔ result = .ok value := by
  cases result <;> simp [Except.toOption]

/-- Two steps give a value exactly if the first gives something of which the second makes it. -/
theorem bind_eq_ok_iff {ε α β : Type} (first : Except ε α) (next : α → Except ε β) (value : β) :
    first >>= next = .ok value ↔ ∃ found, first = .ok found ∧ next found = .ok value := by
  cases first <;> simp [bind, Except.bind]

/-- Conditions are met exactly if each of them holds. -/
theorem Condition.verdict_eq_ok_iff (conditions : List Condition) :
    verdict conditions = .ok () ↔ ∀ condition ∈ conditions, condition.holds = true := by
  induction conditions with
  | nil => simp [verdict]
  | cons condition rest ih =>
    rw [verdict, List.forall_mem_cons]
    by_cases hholds : condition.holds = true
    · simp only [hholds, if_true, ih, true_and]
    · simp only [hholds, Bool.false_eq_true, if_false, reduceCtorEq, false_and]

/-- A decoded source has the code that it was decoded from. -/
theorem Source.code_of_decode {code : UInt8} {source : Source} (h : decode code = .ok source) :
    source.code = code := by
  rw [decode] at h
  cases hfound : ofCode? code with
  | some found =>
    rw [hfound] at h
    cases h
    simpa using List.find?_some hfound
  | none =>
    rw [hfound] at h
    dsimp only at h
    split at h <;> cases h

namespace Row

/-- The kinds that are read off a row have the codes that the row gives. -/
structure Names (row : Row) (kinds : RowKinds) : Prop where
  source_code : kinds.source.code = row.sourceCode
  event_code : kinds.event.code = row.eventCode
  action_code : kinds.action.code = row.actionCode
  target_code : kinds.target.code = row.targetCode

/-- A row is identified and breaks no condition of a later stage. -/
structure Passes (row : Row) (world : Surroundings) (kinds : RowKinds) : Prop where
  identified : row.identify world.catalog = .ok kinds
  target : row.targetVerdict world.catalog kinds = .ok ()
  event : row.eventVerdict world.catalog kinds = .ok ()
  action : row.actionVerdict world.catalog world.waypoints kinds = .ok ()

/-- The action of a row that passes meets its conditions. -/
theorem conditions_of_passes {row : Row} {world : Surroundings} {kinds : RowKinds}
    (h : row.Passes world kinds) :
    ∀ condition ∈ (row.action kinds).conditions world.catalog world.waypoints kinds.source row.owner
      (row.event kinds.source kinds.event) kinds.target, condition.holds = true :=
  (Condition.verdict_eq_ok_iff _).mp (row.actionVerdict_eq .. ▸ h.action)

/-- A row has a source exactly if its code is that of one and its owner meets what it has to. -/
theorem ownedSource_eq_ok_iff (row : Row) (catalog : Catalog) (source : Source) :
    row.ownedSource catalog = .ok source ↔ Source.decode row.sourceCode = .ok source ∧
      Condition.verdict (catalog.ownerConditions source row.owner) = .ok () := by
  rw [ownedSource, bind_eq_ok_iff]
  constructor
  · intro howned
    obtain ⟨decoded, hdecoded, hrest⟩ := howned
    obtain ⟨_, hverdict, hsource⟩ := (bind_eq_ok_iff _ _ _).mp hrest
    cases hsource
    exact ⟨hdecoded, hverdict⟩
  · intro hboth
    obtain ⟨hdecoded, hverdict⟩ := hboth
    exact ⟨source, hdecoded, (bind_eq_ok_iff _ _ _).mpr ⟨(), hverdict, rfl⟩⟩

/-- A row is identified exactly if it has a source and names kinds that there are. -/
theorem identify_eq_ok_iff (row : Row) (catalog : Catalog) (kinds : RowKinds) :
    row.identify catalog = .ok kinds ↔
      ∃ source, row.ownedSource catalog = .ok source ∧ row.kinds source = .ok kinds :=
  bind_eq_ok_iff _ _ _

/-- The kinds of a row are those that its codes are read as. -/
theorem kinds_eq_ok_iff (row : Row) (source : Source) (kinds : RowKinds) :
    row.kinds source = .ok kinds ↔ kinds.source = source ∧
      Event.Kind.ofCode? row.eventCode = some kinds.event ∧
      Action.Kind.ofCode? row.actionCode = some kinds.action ∧
      Target.Kind.ofCode? row.targetCode = some kinds.target := by
  rw [Row.kinds]
  cases Event.Kind.ofCode? row.eventCode with
  | none => simp
  | some event =>
    cases Action.Kind.ofCode? row.actionCode with
    | none => simp
    | some action =>
      cases Target.Kind.ofCode? row.targetCode with
      | none => simp
      | some target =>
        cases kinds
        simp only [Except.ok.injEq, RowKinds.mk.injEq, Option.some.injEq, eq_comm]

/-- The action of an identified row is of the kind that its code is read as. -/
theorem actionKind_of_identify {row : Row} {catalog : Catalog} {kinds : RowKinds}
    (h : row.identify catalog = .ok kinds) :
    Action.Kind.ofCode? row.actionCode = some kinds.action := by
  obtain ⟨source, -, hkinds⟩ := (identify_eq_ok_iff row catalog kinds).mp h
  exact ((kinds_eq_ok_iff row source kinds).mp hkinds).2.2.1

/-- Kinds are looked up by code, so they carry the codes of the row. -/
theorem names_of_identify {row : Row} {catalog : Catalog} {kinds : RowKinds}
    (h : row.identify catalog = .ok kinds) : row.Names kinds := by
  obtain ⟨source, hsource, hkinds⟩ := (identify_eq_ok_iff row catalog kinds).mp h
  have hdecoded := ((ownedSource_eq_ok_iff row catalog source).mp hsource).1
  obtain ⟨rfl, hevent, haction, htarget⟩ := (kinds_eq_ok_iff row source kinds).mp hkinds
  exact
    { source_code := Source.code_of_decode hdecoded
      event_code := by simpa using List.find?_some hevent
      action_code := by simpa using List.find?_some haction
      target_code := by simpa using List.find?_some htarget }

/-- What comes out of a row is what its stages give, one after the other. -/
theorem examine_result (row : Row) (world : Surroundings) :
    (row.examine world).result = (do
      let kinds ← row.identify world.catalog
      row.targetVerdict world.catalog kinds
      row.eventVerdict world.catalog kinds
      row.actionVerdict world.catalog world.waypoints kinds
      return row.rule kinds) := by
  rw [examine_eq]
  cases row.identify world.catalog with
  | error reason => rfl
  | ok kinds =>
    dsimp only
    cases htarget : row.targetVerdict world.catalog kinds with
    | error reason => simp [htarget, bind, Except.bind]
    | ok _ =>
      cases hevent : row.eventVerdict world.catalog kinds with
      | error reason => simp [htarget, hevent, bind, Except.bind]
      | ok _ =>
        cases haction : row.actionVerdict world.catalog world.waypoints kinds <;>
          simp [htarget, hevent, haction, bind, Except.bind, Except.map, pure, Except.pure]

/-- A row comes out as a rule exactly if it passes, and then as the rule that it spells. -/
theorem examine_result_eq_ok_iff (row : Row) (world : Surroundings) (rule : Rule) :
    (row.examine world).result = .ok rule ↔
      ∃ kinds, row.Passes world kinds ∧ row.rule kinds = rule := by
  rw [examine_result, bind_eq_ok_iff]
  constructor
  · intro h
    obtain ⟨kinds, hidentify, hstages⟩ := h
    obtain ⟨_, htarget, hstages⟩ := (bind_eq_ok_iff _ _ _).mp hstages
    obtain ⟨_, hevent, hstages⟩ := (bind_eq_ok_iff _ _ _).mp hstages
    obtain ⟨_, haction, hrule⟩ := (bind_eq_ok_iff _ _ _).mp hstages
    exact ⟨kinds, ⟨hidentify, htarget, hevent, haction⟩, Except.ok.inj hrule⟩
  · intro hpass
    obtain ⟨kinds, hpasses, rfl⟩ := hpass
    refine ⟨kinds, hpasses.identified, ?_⟩
    rw [hpasses.target, hpasses.event, hpasses.action]
    rfl

/-- The rule that a row stands for, if there is nothing wrong with the row by itself. -/
def rule? (row : Row) (world : Surroundings) : Option Rule := (row.examine world).result.toOption

/-- A row stands for a rule exactly if it comes out as that rule. -/
theorem rule?_eq_some_iff (row : Row) (world : Surroundings) (rule : Rule) :
    row.rule? world = some rule ↔ (row.examine world).result = .ok rule :=
  toOption_eq_some_iff _ _

/-- A row that stands for a rule passes, and the rule is the one that it spells. -/
theorem passes_of_rule? {row : Row} {world : Surroundings} {rule : Rule}
    (h : row.rule? world = some rule) : ∃ kinds, row.Passes world kinds ∧ row.rule kinds = rule :=
  (examine_result_eq_ok_iff row world rule).mp ((rule?_eq_some_iff row world rule).mp h)

end Row

end AiScript
