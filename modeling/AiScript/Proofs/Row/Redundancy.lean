import AiScript.Proofs.Row.Run

/-!
# Two runs over a row, with and without warnings of redundant actions

Whether redundant actions are warned of is looked up in the middle of the checks. Two runs are
followed here side by side, of which the one is asked for these warnings and the other is not. They
agree as long as they have come to the same result and hold the same warnings but for these. Each
step of a run keeps this up, and so does one step after the other; so both runs check the same
conditions to the end, or break off at the same one.
-/

namespace AiScript

namespace Warning

/-- Does a warning tell of a redundant action? -/
def isRedundancy : Warning → Bool
  | .redundantEffect .. => true
  | _ => false

/-- The warnings of a list that tell of something else. -/
def others (warnings : List Warning) : List Warning :=
  warnings.filter fun warning => !warning.isRedundancy

theorem others_append (earlier later : List Warning) :
    others (earlier ++ later) = others earlier ++ others later := List.filter_append _ _

/-- All that the index gives rise to tells of redundant actions. -/
theorem others_redundancies (index : SpellIndex) (helper : Helper) (entity : UInt32) :
    others (index.redundancies helper entity) = [] := by
  rw [others, List.filter_eq_nil_iff]
  intro warning hwarning
  obtain ⟨slot, -, rfl⟩ := List.mem_map.mp hwarning
  exact Bool.false_ne_true

/-- What is told of a spell's own effects is not told of redundant actions. -/
theorem others_casterCredits (spell : Spell) :
    others spell.casterCredits = spell.casterCredits := by
  rw [others, List.filter_eq_self]
  intro warning hwarning
  obtain ⟨slot, -, rfl⟩ := List.mem_map.mp hwarning
  rfl

/-- What is told of a position is not told of redundant actions. -/
theorem others_position (position : Position) : others position.warnings = position.warnings := by
  rw [Position.warnings]
  split <;> rfl

end Warning

/-- The same to examine rows against, with redundant actions warned of or not. -/
def Surroundings.withRedundant (world : Surroundings) (asked : Bool) : Surroundings :=
  { world with warnRedundant := asked }

namespace Check

variable {α β : Type}

/-- Two runs agree but for warnings of redundant actions: if only these are lacking in what was
raised before the second, it comes to the result of the first, and only these are lacking in what is
raised after it. -/
def AgreesBut (asked unasked : Check α) : Prop :=
  ∀ raised, unasked.outcome (Warning.others raised) =
    ((asked.outcome raised).1, Warning.others (asked.outcome raised).2)

theorem agreesBut_pure (value : α) : AgreesBut (pure value) (pure value) := fun _ => rfl

theorem agreesBut_throw (reason : Rejection) :
    AgreesBut (throw reason : Check α) (throw reason) := fun _ => rfl

theorem agreesBut_ofResult (result : Except Rejection α) :
    AgreesBut (ofResult result) (ofResult result) := fun _ => rfl

theorem agreesBut_requireAll (conditions : List Condition) :
    AgreesBut (requireAll conditions) (requireAll conditions) := by
  intro raised
  rw [outcome_requireAll, outcome_requireAll]

theorem agreesBut_require (condition : Condition) :
    AgreesBut (require condition) (require condition) := by
  intro raised
  rw [outcome_require, outcome_require]

/-- Other warnings are raised in both runs. -/
theorem agreesBut_warn {warnings : List Warning} (h : Warning.others warnings = warnings) :
    AgreesBut (warn warnings) (warn warnings) := by
  intro raised
  rw [outcome_warn, outcome_warn, Warning.others_append, h]

/-- What the one run notes of redundancy, the other passes over. -/
theorem agreesBut_noteRedundant (world : Surroundings) (helper : Helper) (entity : UInt32) :
    AgreesBut (noteRedundant (world.withRedundant true) helper entity)
      (noteRedundant (world.withRedundant false) helper entity) := by
  intro raised
  rw [outcome_noteRedundant, outcome_noteRedundant, Warning.others_append]
  simp only [Surroundings.withRedundant, if_true, Bool.false_eq_true, if_false,
    Warning.others_redundancies]

/-- Runs that agree go on alike if what comes next agrees, whatever the value is. -/
theorem AgreesBut.bind {asked unasked : Check α} {next next' : α → Check β}
    (h : AgreesBut asked unasked) (hnext : ∀ value, AgreesBut (next value) (next' value)) :
    AgreesBut (asked >>= next) (unasked >>= next') := by
  intro raised
  rw [outcome_bind, outcome_bind, h raised]
  rcases asked.outcome raised with ⟨result, later⟩
  cases result with
  | error reason => rfl
  | ok value => exact hnext value later

end Check

/-- The run over an action agrees with that without warnings of redundant actions. -/
theorem Action.agreesBut_check (world : Surroundings) (source : Source) (owner : Int32)
    (event : Event) (target : Target.Kind) (action : Action) :
    Check.AgreesBut (action.check (world.withRedundant true) source owner event target)
      (action.check (world.withRedundant false) source owner event target) := by
  -- the four that note redundancy do so after the first condition and before the others
  have hnoted (first : Condition) (helper : Helper) (entity : UInt32) {next : Check Unit}
      (hnext : Check.AgreesBut next next) :=
    (Check.agreesBut_require first).bind fun _ =>
      (Check.agreesBut_noteRedundant world helper entity).bind fun _ => hnext
  cases action
  case cast spell castFlags triggerFlags =>
    simp only [check, Surroundings.withRedundant]
    cases world.catalog.spells.find? spell with
    | none => exact Check.agreesBut_throw _
    | some found => exact Check.agreesBut_warn (Warning.others_casterCredits found)
  case summonCreature | callKilledMonster | addItem =>
    exact hnoted _ _ _ (Check.agreesBut_require _)
  case summonGameObject => exact hnoted _ _ _ (Check.agreesBut_pure ())
  all_goals exact Check.agreesBut_requireAll _

namespace Row

/-- The run over a row agrees with that without warnings of redundant actions. -/
theorem agreesBut_check (row : Row) (world : Surroundings) :
    Check.AgreesBut (row.check (world.withRedundant true))
      (row.check (world.withRedundant false)) := by
  refine (Check.agreesBut_ofResult _).bind fun kinds => ?_
  refine (Check.agreesBut_warn (Warning.others_position _)).bind fun _ => ?_
  refine (Check.agreesBut_ofResult _).bind fun _ => ?_
  refine (Check.agreesBut_ofResult _).bind fun _ => ?_
  refine (Action.agreesBut_check world _ _ _ _ _).bind fun _ => ?_
  exact Check.agreesBut_pure _

/-- If redundant actions are not asked for, the same comes out of a row, and it raises its other
warnings. -/
theorem examine_withoutRedundant (world : Surroundings) (row : Row) :
    row.examine (world.withRedundant false) =
      let asked := row.examine (world.withRedundant true)
      ⟨Warning.others asked.warnings, asked.result⟩ := by
  have hruns : (row.check (world.withRedundant false)).outcome [] = _ :=
    row.agreesBut_check world []
  rw [examine, hruns]
  rfl

end Row

end AiScript
