import AiScript.Check.Row

/-!
# What a run over a row comes to

In a run over a row, checks and warnings take turns. Here the two are told apart. An action comes to
the verdict of its conditions, whatever is warned of in between, and its warnings are those of
`Action.warnings`: once the first condition of such an action is met, it makes no difference to the
warnings what becomes of the others (`Action.outcome_check`). So a row is examined in stages, the
last of which has a verdict and warnings of its own (`Row.examine_eq`).
-/

namespace AiScript

namespace Check

variable {α β : Type}

@[simp] theorem outcome_pure (value : α) (raised : List Warning) :
    outcome (pure value) raised = (.ok value, raised) := rfl

@[simp] theorem outcome_throw (reason : Rejection) (raised : List Warning) :
    outcome (throw reason : Check α) raised = (.error reason, raised) := rfl

@[simp] theorem outcome_ofResult (result : Except Rejection α) (raised : List Warning) :
    (ofResult result).outcome raised = (result, raised) := rfl

@[simp] theorem outcome_warn (warnings raised : List Warning) :
    (warn warnings).outcome raised = (.ok (), raised ++ warnings) := rfl

/-- What comes next is run with the warnings that there are by then, or not at all. -/
theorem outcome_bind (check : Check α) (next : α → Check β) (raised : List Warning) :
    (check >>= next).outcome raised =
      match check.outcome raised with
      | (.ok value, later) => (next value).outcome later
      | (.error reason, later) => (.error reason, later) := by
  rcases hcheck : check.outcome raised with ⟨result, later⟩
  rw [outcome] at hcheck
  rw [outcome, ExceptT.run_bind, StateT.run_bind, hcheck]
  cases result <;> rfl

/-- A condition raises no warning. -/
theorem outcome_require (condition : Condition) (raised : List Warning) :
    (require condition).outcome raised = (Condition.verdict [condition], raised) := by
  rw [require, Condition.verdict, Condition.verdict]
  split <;> rfl

/-- Conditions come to their verdict, and raise no warning. -/
theorem outcome_requireAll (conditions : List Condition) (raised : List Warning) :
    (requireAll conditions).outcome raised = (Condition.verdict conditions, raised) := by
  induction conditions with
  | nil => rfl
  | cons condition rest ih =>
    rw [requireAll, outcome_bind, outcome_require, Condition.verdict, Condition.verdict,
      Condition.verdict]
    cases condition.holds with
    | true => exact ih
    | false => rfl

/-- A redundant action is warned of if that is asked for. -/
theorem outcome_noteRedundant (world : Surroundings) (helper : Helper) (entity : UInt32)
    (raised : List Warning) :
    (noteRedundant world helper entity).outcome raised =
      (.ok (), raised ++
        if world.warnRedundant then world.index.redundancies helper entity else []) := by
  rw [noteRedundant]
  split
  · rfl
  · rw [outcome_pure, List.append_nil]

end Check

/-- The warnings that an action raises. What it acts on has to be known for that; whether the action
meets its other conditions makes no difference. -/
def Action.warnings (catalog : Catalog) (index : SpellIndex) (warnRedundant : Bool)
    (action : Action) : List Warning :=
  let redundant (helper : Helper) (entity : UInt32) (known : Bool) : List Warning :=
    if warnRedundant && known then index.redundancies helper entity else []
  match action with
  | .cast spell _ _ => ((catalog.spells.find? spell).map Spell.casterCredits).getD []
  | .summonCreature creature _ _ _ _ =>
    redundant .summonCreature creature (catalog.creatures.templates.contains creature)
  | .callKilledMonster creature =>
    redundant .killCredit creature (catalog.creatures.templates.contains creature)
  | .summonGameObject entry _ =>
    redundant .summonGameObject entry (catalog.gameObjects.templates.contains entry)
  | .addItem item _ => redundant .createItem item (catalog.items.contains item)
  | _ => []

/-- If redundancy is noted between a first condition and others, the run comes to the verdict of all
of them, and there is something to note once the first is met. -/
theorem Check.outcome_noteRedundant_between (world : Surroundings) (helper : Helper)
    (entity : UInt32) (first : Condition) {next : Check Unit} {others : List Condition}
    (hnext : ∀ raised, next.outcome raised = (Condition.verdict others, raised))
    (raised : List Warning) :
    (do require first; noteRedundant world helper entity; next : Check Unit).outcome raised =
      (Condition.verdict (first :: others), raised ++
        if world.warnRedundant && first.holds then world.index.redundancies helper entity
        else []) := by
  rw [outcome_bind, outcome_require, Condition.verdict, Condition.verdict, Condition.verdict]
  cases first.holds with
  | true =>
    simp only [if_true, Bool.and_true]
    rw [outcome_bind, outcome_noteRedundant]
    exact hnext _
  | false => simp only [Bool.false_eq_true, if_false, Bool.and_false, List.append_nil]

/-- A check of an action comes to the verdict of its conditions, and leaves its warnings behind
those that were there. -/
theorem Action.outcome_check (world : Surroundings) (source : Source) (owner : Int32)
    (event : Event) (target : Target.Kind) (action : Action) (raised : List Warning) :
    (action.check world source owner event target).outcome raised =
      (Condition.verdict
          (action.conditions world.catalog world.waypoints source owner event target),
        raised ++ action.warnings world.catalog world.index world.warnRedundant) := by
  have hquiet : ∀ conditions : List Condition, (Check.requireAll conditions).outcome raised =
      (Condition.verdict conditions, raised ++ []) := by
    intro conditions
    rw [Check.outcome_requireAll, List.append_nil]
  cases action
  case cast spell castFlags triggerFlags =>
    have hknown : world.catalog.spells.contains spell =
        (world.catalog.spells.find? spell).isSome := rfl
    rw [check, conditions, warnings, Catalog.spellKnown, Condition.refersTo, hknown]
    cases world.catalog.spells.find? spell with
    | none => simp [Condition.verdict]
    | some found => simp [Condition.verdict]
  case summonCreature | callKilledMonster | addItem =>
    exact Check.outcome_noteRedundant_between world _ _ _ (Check.outcome_require _) raised
  case summonGameObject =>
    exact Check.outcome_noteRedundant_between world _ _ _ (Check.outcome_pure ()) raised
  all_goals exact hquiet _

namespace Row

variable (row : Row) (world : Surroundings)

/-- The action stage comes to the verdict of the conditions of the action. -/
theorem actionVerdict_eq (catalog : Catalog) (waypoints : Waypoints) (kinds : RowKinds) :
    row.actionVerdict catalog waypoints kinds =
      Condition.verdict ((row.action kinds).conditions catalog waypoints kinds.source row.owner
        (row.event kinds.source kinds.event) kinds.target) := by
  rw [actionVerdict, actionCheck, Action.outcome_check]

/-- A row is examined stage by stage. Warnings are raised once it is identified, and again once its
action is reached. -/
theorem examine_eq :
    row.examine world =
      match row.identify world.catalog with
      | .error reason => ⟨[], .error reason⟩
      | .ok kinds =>
        let ofTarget := row.position.warnings
        match row.targetVerdict world.catalog kinds with
        | .error reason => ⟨ofTarget, .error reason⟩
        | .ok () =>
          match row.eventVerdict world.catalog kinds with
          | .error reason => ⟨ofTarget, .error reason⟩
          | .ok () =>
            let ofAction :=
              (row.action kinds).warnings world.catalog world.index world.warnRedundant
            ⟨ofTarget ++ ofAction,
              (row.actionVerdict world.catalog world.waypoints kinds).map fun _ =>
                row.rule kinds⟩ := by
  rw [examine, check, Check.outcome_bind, Check.outcome_ofResult]
  cases row.identify world.catalog with
  | error reason => rfl
  | ok kinds =>
    simp only [Check.outcome_bind, Check.outcome_warn, Check.outcome_ofResult]
    cases row.targetVerdict world.catalog kinds with
    | error reason => rfl
    | ok _ =>
      cases row.eventVerdict world.catalog kinds with
      | error reason => rfl
      | ok _ =>
        simp only [actionCheck, Action.outcome_check, actionVerdict_eq, List.nil_append]
        cases Condition.verdict ((row.action kinds).conditions world.catalog world.waypoints
          kinds.source row.owner (row.event kinds.source kinds.event) kinds.target) <;> rfl

end Row

end AiScript
