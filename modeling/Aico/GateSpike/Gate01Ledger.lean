import Aico.GateSpike.Gate01Effects

/-!
# The ledger of decisions

An `Entry` holds the rows of one transaction that is not rolled back. The tables of a proof are the
rows of their entries, in order (`Records`), and the rows of an entry belong together (`Coherent`).
-/

namespace Aico

namespace GateProof

/-- What an allowed command stores besides the decision of the policy. -/
structure Outcome where
  decision : FounderGateDecisionRow
  binding : Option ApprovedArtifactBindingRow
  continuation : ContinuationIntentRow
  event : DomainEventRow
  message : OutboxMessageRow

/-- What a command stores. -/
structure Work where
  policy : PolicyDecisionRow
  event : DomainEventRow
  message : OutboxMessageRow
  outcome : Option Outcome

/-- The rows of one transaction. -/
structure Entry extends Work where
  receipt : CommandReceiptRow

/-! ## Rows that belong together -/

structure BindsArtifact (decision : FounderGateDecisionRow) (binding : ApprovedArtifactBindingRow) :
    Prop where
  companyId : binding.companyId = decision.companyId
  runId : binding.runId = decision.runId
  gateInstanceId : binding.gateInstanceId = decision.gateInstanceId
  artifactId : binding.artifactId = decision.artifactId
  artifactVersionId : binding.artifactVersionId = decision.artifactVersionId
  decisionRecordId : binding.decisionRecordId = decision.id
  policyDecisionId : binding.policyDecisionId = decision.policyDecisionId
  boundAt : binding.boundAt = decision.decidedAt

/-- The artifact is bound where the decision is `APPROVE`, and nowhere else. -/
def Binds (decision : FounderGateDecisionRow) : Option ApprovedArtifactBindingRow → Prop
  | none => decision.decision = .requestRevision
  | some binding => decision.decision = .approve ∧ BindsArtifact decision binding

structure Continues (decision : FounderGateDecisionRow) (intent : ContinuationIntentRow) :
    Prop where
  companyId : intent.companyId = decision.companyId
  runId : intent.runId = decision.runId
  decisionRecordId : intent.decisionRecordId = decision.id
  policyDecisionId : intent.policyDecisionId = decision.policyDecisionId
  kind : intent.kind = continuationKind decision.decision
  logicalKey : intent.logicalKey = logicalKey decision.gateInstanceId decision.decision
  sourceArtifactVersionId : intent.sourceArtifactVersionId = decision.artifactVersionId

/-- The event of the decision comes next in the run after that of the policy. -/
structure Reports (decision : FounderGateDecisionRow) (policyEvent event : DomainEventRow) :
    Prop where
  eventType : event.eventType = .approvalDecided
  aggregateId : event.aggregateId = decision.id
  actorFounderId : event.actorFounderId = decision.founderId
  causationId : event.causationId = policyEvent.id
  next : ∃ n, policyEvent.place = some (decision.companyId, decision.runId, parseInt n) ∧
    event.place = some (decision.companyId, decision.runId, parseInt (n + 1))

structure Outcome.FollowsFrom (outcome : Outcome) (policy : PolicyDecisionRow)
    (policyEvent : DomainEventRow) : Prop where
  policyDecisionId : outcome.decision.policyDecisionId = policy.id
  companyId : outcome.decision.companyId = policy.companyId
  founderId : outcome.decision.founderId = policy.founderId
  commandId : outcome.decision.commandId = policy.commandId
  binding : Binds outcome.decision outcome.binding
  continuation : Continues outcome.decision outcome.continuation
  event : Reports outcome.decision policyEvent outcome.event
  message : IsMessage outcome.event outcome.message

def resultOf (outcome : Option Outcome) : PolicyResult :=
  if outcome.isSome then .allow else .deny

structure Announces (policy : PolicyDecisionRow) (event : DomainEventRow) : Prop where
  eventType : event.eventType = .policyDecided
  companyId : event.companyId = policy.companyId
  aggregateId : event.aggregateId = policy.id
  actorFounderId : event.actorFounderId = policy.founderId
  causationId : event.causationId = policy.commandId

/-- A decision of the policy has an event with its message, and where it is an `ALLOW`, and only
there, all that follows from it. -/
structure Work.Coherent (work : Work) : Prop where
  result : work.policy.result = resultOf work.outcome
  event : Announces work.policy work.event
  message : IsMessage work.event work.message
  outcome : ∀ outcome ∈ work.outcome, outcome.FollowsFrom work.policy work.event

/-- The answer says how the command has ended, and what was decided. -/
structure Tells (outcome : Option Outcome) (status : ℕ) (body : Json) : Prop where
  status : status = if outcome.isSome then 200 else 403
  result : body.field "outcome" = some (.text (resultOf outcome).text)
  decision : ∀ o ∈ outcome,
    body.member "receipt" "decision_record_id" = some (.uuid o.decision.id)

structure Entry.Coherent (entry : Entry) : Prop where
  work : entry.toWork.Coherent
  companyId : entry.receipt.companyId = entry.policy.companyId
  founderId : entry.receipt.founderId = entry.policy.founderId
  sessionId : entry.receipt.sessionId = entry.policy.sessionId
  correlationId : entry.receipt.correlationId = entry.policy.correlationId
  tells : Tells entry.outcome entry.receipt.responseStatus entry.receipt.responseBody

/-! ## The tables of a ledger -/

def Work.decisions (work : Work) : List FounderGateDecisionRow :=
  (work.outcome.map Outcome.decision).toList

def Work.bindings (work : Work) : List ApprovedArtifactBindingRow :=
  (work.outcome.bind Outcome.binding).toList

def Work.continuations (work : Work) : List ContinuationIntentRow :=
  (work.outcome.map Outcome.continuation).toList

def Work.events (work : Work) : List DomainEventRow :=
  work.event :: (work.outcome.map Outcome.event).toList

def Work.messages (work : Work) : List OutboxMessageRow :=
  work.message :: (work.outcome.map Outcome.message).toList

/-- The identifiers of an outcome, in the order in which they are drawn. -/
def Outcome.ids (o : Outcome) : List Uuid :=
  [o.decision.id] ++ (o.binding.map (·.id)).toList ++ [o.continuation.id] ++
    [o.event.id, o.message.id]

def Work.ids (work : Work) : List Uuid :=
  [work.event.id, work.message.id] ++ (work.outcome.map Outcome.ids).getD []

def Entry.ids (entry : Entry) : List Uuid := entry.toWork.ids ++ [entry.receipt.id]

theorem Entry.mem_ids {entry : Entry} {o : Outcome} (h : o ∈ entry.outcome) :
    o.decision.id ∈ entry.ids := by
  have hids : entry.outcome.map Outcome.ids = some o.ids := by rw [h]; rfl
  refine List.mem_append_left _ (List.mem_append_right _ ?_)
  rw [hids]
  exact List.mem_cons_self

/-- The tables hold the rows of the entries and no others. -/
structure Records (entries : List Entry) (db : ProofDb) : Prop where
  policyDecisions : db.policyDecisions = entries.map (·.policy)
  founderGateDecisions : db.founderGateDecisions = entries.flatMap (·.decisions)
  approvedArtifactBindings : db.approvedArtifactBindings = entries.flatMap (·.bindings)
  continuationIntents : db.continuationIntents = entries.flatMap (·.continuations)
  domainEvents : db.domainEvents = entries.flatMap (·.events)
  outboxMessages : db.outboxMessages = entries.flatMap (·.messages)
  commandReceipts : db.commandReceipts = entries.map (·.receipt)

structure Work.Stores (work : Work) (db db' : ProofDb) : Prop where
  policyDecisions : db'.policyDecisions = db.policyDecisions ++ [work.policy]
  founderGateDecisions : db'.founderGateDecisions = db.founderGateDecisions ++ work.decisions
  approvedArtifactBindings :
    db'.approvedArtifactBindings = db.approvedArtifactBindings ++ work.bindings
  continuationIntents : db'.continuationIntents = db.continuationIntents ++ work.continuations
  domainEvents : db'.domainEvents = db.domainEvents ++ work.events
  outboxMessages : db'.outboxMessages = db.outboxMessages ++ work.messages
  commandReceipts : db'.commandReceipts = db.commandReceipts

theorem Records.append {entries : List Entry} {db db' : ProofDb} {work : Work}
    {receipt : CommandReceiptRow} (h : Records entries db) (hwork : work.Stores db db') :
    Records (entries ++ [⟨work, receipt⟩])
      { db' with commandReceipts := db'.commandReceipts ++ [receipt] } where
  policyDecisions := by
    rw [List.map_append, ← h.policyDecisions]
    exact hwork.policyDecisions
  founderGateDecisions := by
    rw [List.flatMap_append, List.flatMap_singleton, ← h.founderGateDecisions]
    exact hwork.founderGateDecisions
  approvedArtifactBindings := by
    rw [List.flatMap_append, List.flatMap_singleton, ← h.approvedArtifactBindings]
    exact hwork.approvedArtifactBindings
  continuationIntents := by
    rw [List.flatMap_append, List.flatMap_singleton, ← h.continuationIntents]
    exact hwork.continuationIntents
  domainEvents := by
    rw [List.flatMap_append, List.flatMap_singleton, ← h.domainEvents]
    exact hwork.domainEvents
  outboxMessages := by
    rw [List.flatMap_append, List.flatMap_singleton, ← h.outboxMessages]
    exact hwork.outboxMessages
  commandReceipts := by
    rw [List.map_append, ← h.commandReceipts, ← hwork.commandReceipts]
    rfl

end GateProof

end Aico
