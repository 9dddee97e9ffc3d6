import AiScript.Proofs.Row.Examination

/-!
# Kinds survive decoding

Whatever the slots hold, what is decoded as a kind is of that kind. So the context of a rule is that
of the row that spells it, with one exception: the rows of a timed action list all stand for an
out-of-combat timer, and so a rule of one shows the code of that event, whichever event the row
names.
-/

namespace AiScript

/-- What is decoded as a kind of event is of that kind. -/
theorem Event.kind_decode (kind : Kind) (slots : EventSlots) : (decode kind slots).kind = kind := by
  cases kind <;> rfl

/-- What is decoded as a kind of action is of that kind. -/
theorem Action.kind_decode (kind : Kind) (slots : ActionSlots) :
    (decode kind slots).kind = kind := by
  cases kind <;> rfl

/-- What is decoded as a kind of target is of that kind. -/
theorem Target.kind_decode (kind : Kind) (slots : TargetSlots) (position : Position) :
    (decode kind slots position).kind = kind := by
  cases kind <;> rfl

namespace Row

/-- The context that a rule shows for its row. -/
def ruleContext (row : Row) : RowContext :=
  if row.sourceCode = Source.timedActionList.code then
    { row.context with eventCode := Event.Kind.updateOoc.code }
  else row.context

variable {row : Row} {world : Surroundings} {kinds : RowKinds} {rule : Rule}

/-- A rule shows the context of its row exactly if the row is of no timed action list or names the
event that such rows stand for. -/
theorem ruleContext_eq_context_iff (row : Row) :
    row.ruleContext = row.context ↔
      (row.sourceCode = Source.timedActionList.code →
        row.eventCode = Event.Kind.updateOoc.code) := by
  rw [ruleContext]
  split
  next htimed =>
    rw [forall_prop_of_true htimed]
    constructor
    · intro heq
      exact (congrArg RowContext.eventCode heq).symm
    · intro hcode
      rw [← hcode]
      rfl
  next hother => exact iff_of_true rfl fun htimed => absurd htimed hother

/-- The kind of event that a row stands for is the one that it names, but for timed action lists. -/
theorem kind_event (row : Row) (source : Source) (kind : Event.Kind) :
    (row.event source kind).kind = if source = .timedActionList then .updateOoc else kind := by
  rw [event]
  split
  · rfl
  · exact Event.kind_decode kind row.eventSlots

/-- The rule that a row spells shows the row's context, but for the event of timed action lists. -/
theorem context_rule (h : row.Names kinds) : (row.rule kinds).context = row.ruleContext := by
  have hsource : kinds.source = .timedActionList ↔
      row.sourceCode = Source.timedActionList.code := by
    rw [← h.source_code]
    exact ⟨congrArg Source.code, Source.code_injective⟩
  have hevent : (row.rule kinds).eventKind =
      if row.sourceCode = Source.timedActionList.code then .updateOoc else kinds.event := by
    rw [← ite_congr (propext hsource) (fun _ => rfl) fun _ => rfl]
    exact kind_event row kinds.source kinds.event
  have haction : (row.rule kinds).action.kind = kinds.action :=
    Action.kind_decode kinds.action row.actionSlots
  have htarget : (row.rule kinds).target.kind = kinds.target :=
    Target.kind_decode kinds.target row.targetSlots row.position
  rw [Rule.context, hevent, haction, htarget, h.action_code, h.target_code, ruleContext, context]
  change (⟨row.owner, kinds.source.code, row.id, row.link, _, _, _⟩ : RowContext) = _
  rw [h.source_code]
  split
  · rfl
  · rw [h.event_code]

/-- A sound row's rule shows the row's context, but for the event of timed action lists. -/
theorem context_of_rule? (h : row.rule? world = some rule) : rule.context = row.ruleContext := by
  obtain ⟨kinds, hpasses, rfl⟩ := passes_of_rule? h
  exact context_rule (names_of_identify hpasses.identified)

end Row

end AiScript
