import Aico.GateSpike.Gate01Command

/-!
# What a decision writes

A statement that returns has read texts and rows, and has written the rows said here. An
`Outcome` is the rows of an allowed decision, an `Entry` all rows of one transaction.
-/

namespace Aico

namespace GateProof

namespace GateOp

variable {α β : Type} {platform : GatePlatform} {w w' : GateWorld}

theorem newId_bind (k : Uuid → GateOp β) :
    (newId >>= k) w = k w.nextId { w with nextId := w.nextId + 1 } := rfl

theorem now_bind (k : JsString → GateOp β) :
    (now >>= k) w = k (w.clock 0) { w with clock := fun n => w.clock (n + 1) } := rfl

theorem query_bind (f : ProofDb → α) (k : α → GateOp β) : (query f >>= k) w = k (f w.db) w := rfl

theorem exec_bind (f : ProofDb → ProofDb) (k : PUnit → GateOp β) :
    (exec f >>= k) w = k ⟨⟩ { w with db := f w.db } := rfl

theorem exec_eq_ok {f : ProofDb → ProofDb} {u : PUnit} :
    exec f w = (.ok u, w') ↔ w' = { w with db := f w.db } := Prog.modify_eq_ok

theorem uuid_eq_ok {s : JsString} {u : Uuid} :
    uuid platform s w = (.ok u, w') ↔ platform.readUuid s = some u ∧ w' = w := Prog.require_eq_ok

theorem uuid_bind_eq_ok {s : JsString} {k : Uuid → GateOp β} {b : β} :
    (uuid platform s >>= k) w = (.ok b, w') ↔
      ∃ u, platform.readUuid s = some u ∧ k u w = (.ok b, w') :=
  Prog.require_bind_eq_ok

theorem timestamp_bind_eq_ok {s : JsString} {k : ℤ → GateOp β} {b : β} :
    (timestamp platform s >>= k) w = (.ok b, w') ↔
      ∃ t, platform.readTimestamp s = some t ∧ k t w = (.ok b, w') :=
  Prog.require_bind_eq_ok

/-- A failpoint that is passed does nothing. -/
theorem failpoint_bind_eq_ok {stage : Gate01Failpoint} {k : PUnit → GateOp β} {b : β}
    (h : (failpoint stage >>= k) w = (.ok b, w')) : k ⟨⟩ w = (.ok b, w') := by
  obtain ⟨u, w₁, hpass, hk⟩ := Prog.bind_eq_ok.mp h
  obtain ⟨throws, w₂, hgets, hensure⟩ := Prog.bind_eq_ok.mp hpass
  obtain ⟨-, rfl⟩ := Prog.gets_eq_ok.mp hgets
  obtain ⟨-, rfl⟩ := Prog.ensure_eq_ok.mp hensure
  exact hk

theorem uuid_reads (s : JsString) : Prog.Respects (· = ·) (uuid platform s) := .require _ _

theorem timestamp_reads (s : JsString) : Prog.Respects (· = ·) (timestamp platform s) :=
  .require _ _

end GateOp

section

variable {platform : GatePlatform} {context : DecisionWorkContext} {r : Gate01CommandRequest}
  {state : Gate01StateRow} {w w' : GateWorld}

/-! ## The policy decision -/

theorem uuidParameter_reads (value : Option Json) :
    Prog.Respects (· = ·) (uuidParameter platform value) := by
  unfold uuidParameter
  split
  · exact .pure _
  · exact .bind (GateOp.uuid_reads _) fun _ => .pure _
  · exact .throw _

theorem textParameter_reads (value : Json) : Prog.Respects (· = ·) (textParameter value) := by
  unfold textParameter
  split
  · exact .bind (.ensure _ _) fun _ => .pure _
  · exact .throw _

theorem integerParameter_reads (value : Option Json) :
    Prog.Respects (· = ·) (integerParameter value) := by
  unfold integerParameter
  split
  · exact .bind (.ensure _ _) fun _ => .pure _
  · exact .throw _

theorem timestampParameter_reads (value : Option JsString) :
    Prog.Respects (· = ·) (timestampParameter platform value) := by
  cases value with
  | none => exact .pure _
  | some s => exact .bind (GateOp.timestamp_reads s) fun _ => .pure _

theorem gateReferences_reads (decision : PolicyDecisionV1) :
    Prog.Respects (· = ·) (gateReferences platform r decision) := by
  cases decision with
  | allow d =>
      exact .bind (uuidParameter_reads _) fun _ => .bind (GateOp.uuid_reads _) fun _ =>
        .bind (uuidParameter_reads _) fun _ => .bind (integerParameter_reads _) fun _ => .pure _
  | deny d => exact .pure _

theorem policyDecisionRow_reads (decision : PolicyDecisionV1) :
    Prog.Respects (· = ·) (policyDecisionRow platform context r decision) :=
  .bind (GateOp.uuid_reads _) fun _ => .bind (.require _ _) fun _ =>
    .bind (GateOp.uuid_reads _) fun _ => .bind (uuidParameter_reads _) fun _ =>
    .bind (gateReferences_reads _) fun _ => .bind (textParameter_reads _) fun _ =>
    .bind (uuidParameter_reads _) fun _ => .bind (.bind (.ensure _ _) fun _ => .pure _) fun _ =>
    .bind (GateOp.timestamp_reads _) fun _ => .bind (timestampParameter_reads _) fun _ =>
    .bind (GateOp.uuid_reads _) fun _ => .pure _

structure IsPolicyRow (platform : GatePlatform) (context : DecisionWorkContext)
    (r : Gate01CommandRequest) (decision : PolicyDecisionV1) (row : PolicyDecisionRow) : Prop where
  id : platform.readUuid decision.base.policyDecisionId = some row.id
  commandId : platform.readUuid r.command.commandId = some row.commandId
  correlationId : platform.readUuid context.correlationId = some row.correlationId
  companyId : row.companyId = context.authority.companyId
  founderId : row.founderId = context.authority.founderId
  sessionId : row.sessionId = context.authority.sessionId
  result : row.result = decision.effect

theorem policyDecisionRow_eq_ok {decision : PolicyDecisionV1} {row : PolicyDecisionRow}
    (h : policyDecisionRow platform context r decision w = (.ok row, w')) :
    IsPolicyRow platform context r decision row ∧ w' = w := by
  have hreads : Prog.Respects (· = ·) (policyDecisionRow platform context r decision) :=
    policyDecisionRow_reads decision
  have hw := hreads w
  rw [h] at hw
  obtain ⟨id, w₁, hid, h₁⟩ := Prog.bind_eq_ok.mp h
  obtain ⟨reasonCode, w₂, -, h₂⟩ := Prog.bind_eq_ok.mp h₁
  obtain ⟨commandId, w₃, hcommand, h₃⟩ := Prog.bind_eq_ok.mp h₂
  obtain ⟨runId, w₄, -, h₄⟩ := Prog.bind_eq_ok.mp h₃
  obtain ⟨gate, w₅, -, h₅⟩ := Prog.bind_eq_ok.mp h₄
  obtain ⟨policyVersion, w₆, -, h₆⟩ := Prog.bind_eq_ok.mp h₅
  obtain ⟨targetingVersionId, w₇, -, h₇⟩ := Prog.bind_eq_ok.mp h₆
  obtain ⟨binding, w₈, -, h₈⟩ := Prog.bind_eq_ok.mp h₇
  obtain ⟨issuedAt, w₉, -, h₉⟩ := Prog.bind_eq_ok.mp h₈
  obtain ⟨_, w₁₀, -, h₁₀⟩ := Prog.bind_eq_ok.mp h₉
  obtain ⟨correlationId, w₁₁, hcorrelation, h₁₁⟩ := Prog.bind_eq_ok.mp h₁₀
  obtain ⟨rfl, -⟩ := Prog.pure_eq_ok.mp h₁₁
  exact ⟨⟨(GateOp.uuid_eq_ok.mp hid).1, (GateOp.uuid_eq_ok.mp hcommand).1,
    (GateOp.uuid_eq_ok.mp hcorrelation).1, rfl, rfl, rfl, rfl⟩, hw.symm⟩

theorem insertPolicyDecision_eq_ok {decision : PolicyDecisionV1} {u : PUnit}
    (h : insertPolicyDecision platform context r decision w = (.ok u, w')) :
    ∃ row, IsPolicyRow platform context r decision row ∧ policyDecisionFree w.db row = true ∧
      w' = { w with db := { w.db with policyDecisions := w.db.policyDecisions ++ [row] } } := by
  obtain ⟨row, w₁, hrun, h₁⟩ := Prog.bind_eq_ok.mp h
  obtain ⟨hrow, rfl⟩ := policyDecisionRow_eq_ok hrun
  obtain ⟨-, h₂⟩ := Prog.ensure_bind_eq_ok.mp h₁
  rw [GateOp.query_bind] at h₂
  obtain ⟨hfree, h₃⟩ := Prog.ensure_bind_eq_ok.mp h₂
  rw [GateOp.query_bind] at h₃
  obtain ⟨-, h₄⟩ := Prog.ensure_bind_eq_ok.mp h₃
  exact ⟨row, hrow, hfree, GateOp.exec_eq_ok.mp h₄⟩

/-! ## Events -/

structure IsMessage (event : DomainEventRow) (message : OutboxMessageRow) : Prop where
  companyId : message.companyId = event.companyId
  eventId : message.eventId = event.id
  topic : message.topic = event.eventType.text

/-- The event of a draft at its place in the run. -/
structure IsEvent (platform : GatePlatform) (context : DecisionWorkContext) (draft : EventDraft)
    (sequence : ℕ) (event : DomainEventRow) : Prop where
  eventType : event.eventType = draft.eventType
  companyId : event.companyId = context.authority.companyId
  runId : event.runId = platform.readUuid draft.runId
  runSequence : event.runSequence = some (parseInt sequence)
  aggregateId : platform.readUuid draft.aggregateId = some event.aggregateId
  actorFounderId : event.actorFounderId = context.authority.founderId
  causationId : platform.readUuid draft.causationId = some event.causationId

def ProofDb.withEvent (db : ProofDb) (companyId runId : Uuid) (event : DomainEventRow)
    (message : OutboxMessageRow) : ProofDb :=
  { db with
    runEventCounters := allocated companyId runId db.runEventCounters
    domainEvents := db.domainEvents ++ [event]
    outboxMessages := db.outboxMessages ++ [message] }

theorem appendEvent_eq_ok {draft : EventDraft} {id : Uuid}
    (h : appendEvent platform context draft w = (.ok id, w')) :
    ∃ runId event message, platform.readUuid draft.runId = some runId ∧
      IsEvent platform context draft
        (nextSequence context.authority.companyId runId w.db.runEventCounters) event ∧
      IsMessage event message ∧ event.id = w.nextId ∧ id = w.nextId ∧
      Supply.Drawn w.nextId w'.nextId [event.id, message.id] ∧
      w'.db = w.db.withEvent context.authority.companyId runId event message := by
  obtain ⟨runId, hrun, h₁⟩ := GateOp.uuid_bind_eq_ok.mp h
  rw [GateOp.query_bind, GateOp.exec_bind, GateOp.newId_bind, GateOp.now_bind] at h₁
  obtain ⟨aggregateId, haggregate, h₂⟩ := GateOp.uuid_bind_eq_ok.mp h₁
  obtain ⟨correlationId, -, h₃⟩ := GateOp.uuid_bind_eq_ok.mp h₂
  obtain ⟨causationId, hcausation, h₄⟩ := GateOp.uuid_bind_eq_ok.mp h₃
  obtain ⟨_, -, h₅⟩ := GateOp.timestamp_bind_eq_ok.mp h₄
  rw [GateOp.query_bind] at h₅
  obtain ⟨-, h₆⟩ := Prog.ensure_bind_eq_ok.mp h₅
  rw [GateOp.exec_bind] at h₆
  have h₇ := GateOp.failpoint_bind_eq_ok h₆
  rw [GateOp.newId_bind, GateOp.exec_bind] at h₇
  have h₈ := GateOp.failpoint_bind_eq_ok h₇
  obtain ⟨rfl, rfl⟩ := Prog.pure_eq_ok.mp h₈
  exact ⟨runId, _, _, hrun, ⟨rfl, rfl, hrun.symm, rfl, haggregate, rfl, hcausation⟩,
    ⟨rfl, rfl, rfl⟩, rfl, rfl, .two _, rfl⟩

theorem appendCompanyPolicyEvent_eq_ok {commandId : JsString} {decision : DenyPolicyDecisionV1}
    {id : Uuid} (h : appendCompanyPolicyEvent platform context commandId decision w = (.ok id, w')) :
    ∃ event message, event.eventType = .policyDecided ∧
      event.companyId = context.authority.companyId ∧
      platform.readUuid decision.policyDecisionId = some event.aggregateId ∧
      event.actorFounderId = context.authority.founderId ∧
      platform.readUuid commandId = some event.causationId ∧ IsMessage event message ∧
      event.id = w.nextId ∧ id = w.nextId ∧
      Supply.Drawn w.nextId w'.nextId [event.id, message.id] ∧
      w'.db =
        { w.db with
          domainEvents := w.db.domainEvents ++ [event]
          outboxMessages := w.db.outboxMessages ++ [message] } := by
  unfold appendCompanyPolicyEvent at h
  rw [GateOp.newId_bind, GateOp.now_bind] at h
  obtain ⟨aggregateId, haggregate, h₁⟩ := GateOp.uuid_bind_eq_ok.mp h
  obtain ⟨correlationId, -, h₂⟩ := GateOp.uuid_bind_eq_ok.mp h₁
  obtain ⟨causationId, hcausation, h₃⟩ := GateOp.uuid_bind_eq_ok.mp h₂
  obtain ⟨_, -, h₄⟩ := GateOp.timestamp_bind_eq_ok.mp h₃
  obtain ⟨stored, w₁, hstored, h₅⟩ := Prog.bind_eq_ok.mp h₄
  obtain ⟨-, hpure⟩ := Prog.ensure_bind_eq_ok.mp hstored
  obtain ⟨-, rfl⟩ := Prog.pure_eq_ok.mp hpure
  rw [GateOp.exec_bind, GateOp.newId_bind, GateOp.exec_bind] at h₅
  obtain ⟨rfl, rfl⟩ := Prog.pure_eq_ok.mp h₅
  exact ⟨_, _, rfl, rfl, haggregate, rfl, hcausation, ⟨rfl, rfl, rfl⟩, rfl, rfl, .two _, rfl⟩

/-! ## What follows from an `ALLOW` -/

section

variable {decision : AllowPolicyDecisionV1} {policyId commandId : Uuid}

theorem insertFounderDecision_eq_ok {id : Uuid}
    (hpolicy : platform.readUuid decision.policyDecisionId = some policyId)
    (hcommand : platform.readUuid r.command.commandId = some commandId)
    (h : insertFounderDecision platform context r state decision w = (.ok id, w')) :
    ∃ correlationId row,
      row = founderDecisionRow platform context r state decision id policyId commandId
        correlationId ∧
      founderDecisionFree w.db row = true ∧ Supply.Drawn w.nextId w'.nextId [row.id] ∧
      w'.db = { w.db with founderGateDecisions := w.db.founderGateDecisions ++ [row] } := by
  unfold insertFounderDecision at h
  rw [GateOp.newId_bind] at h
  obtain ⟨policyId', hpolicy', h₁⟩ := GateOp.uuid_bind_eq_ok.mp h
  obtain ⟨commandId', hcommand', h₂⟩ := GateOp.uuid_bind_eq_ok.mp h₁
  obtain ⟨correlationId, -, h₃⟩ := GateOp.uuid_bind_eq_ok.mp h₂
  obtain rfl : policyId = policyId' := Option.some.inj (hpolicy.symm.trans hpolicy')
  obtain rfl : commandId = commandId' := Option.some.inj (hcommand.symm.trans hcommand')
  obtain ⟨-, h₄⟩ := Prog.ensure_bind_eq_ok.mp h₃
  obtain ⟨-, h₅⟩ := Prog.ensure_bind_eq_ok.mp h₄
  rw [GateOp.query_bind] at h₅
  obtain ⟨hfree, h₆⟩ := Prog.ensure_bind_eq_ok.mp h₅
  rw [GateOp.exec_bind] at h₆
  obtain ⟨rfl, rfl⟩ := Prog.pure_eq_ok.mp h₆
  exact ⟨correlationId, _, rfl, hfree, .one _, rfl⟩

def movedGates (context : DecisionWorkContext) (r : Gate01CommandRequest) (state : Gate01StateRow)
    (decidedAt : JsString) : List GateInstanceRow → List GateInstanceRow :=
  Table.updateWhere (isPendingGate context state)
    (decidedGate (resultingGateStatus r.command.decision.type) decidedAt)

def movedRuns (context : DecisionWorkContext) (r : Gate01CommandRequest) (state : Gate01StateRow)
    (decidedAt : JsString) : List RunRow → List RunRow :=
  Table.updateWhere (isAwaitingRun context state) (decidedRun r.command.decision.type decidedAt)

theorem moveGate_eq_ok {u : PUnit}
    (h : moveGate context r state decision w = (.ok u, w')) :
    w.db.gateInstances.any (isPendingGate context state) = true ∧ w'.nextId = w.nextId ∧
      w'.db =
        { w.db with
          gateInstances := movedGates context r state decision.issuedAt w.db.gateInstances } := by
  unfold moveGate at h
  rw [GateOp.query_bind] at h
  obtain ⟨hfound, h₁⟩ := Prog.ensure_bind_eq_ok.mp h
  obtain ⟨-, h₂⟩ := Prog.ensure_bind_eq_ok.mp h₁
  obtain rfl := GateOp.exec_eq_ok.mp h₂
  exact ⟨hfound, rfl, rfl⟩

theorem moveRun_eq_ok {u : PUnit}
    (h : moveRun context r state decision w = (.ok u, w')) :
    w.db.runs.any (isAwaitingRun context state) = true ∧ w'.nextId = w.nextId ∧
      w'.db = { w.db with runs := movedRuns context r state decision.issuedAt w.db.runs } := by
  unfold moveRun at h
  rw [GateOp.query_bind] at h
  obtain ⟨hfound, h₁⟩ := Prog.ensure_bind_eq_ok.mp h
  obtain ⟨-, h₂⟩ := Prog.ensure_bind_eq_ok.mp h₁
  obtain rfl := GateOp.exec_eq_ok.mp h₂
  exact ⟨hfound, rfl, rfl⟩

def bindingOf (context : DecisionWorkContext) (r : Gate01CommandRequest) (state : Gate01StateRow)
    (decision : AllowPolicyDecisionV1) (id decisionRecordId policyDecisionId : Uuid) :
    Option ApprovedArtifactBindingRow :=
  match r.command.decision.type with
  | .requestRevision => none
  | .approve => some (bindingRow context state decision id decisionRecordId policyDecisionId)

theorem bindArtifact_eq_ok {decisionRecordId : Uuid} {id : Option Uuid}
    (hpolicy : platform.readUuid decision.policyDecisionId = some policyId)
    (h : bindArtifact platform context r state decision decisionRecordId w = (.ok id, w')) :
    ∃ binding, binding = bindingOf context r state decision w.nextId decisionRecordId policyId ∧
      id = binding.map (·.id) ∧
      Supply.Drawn w.nextId w'.nextId (binding.map (·.id)).toList ∧
      w'.db =
        { w.db with
          approvedArtifactBindings := w.db.approvedArtifactBindings ++ binding.toList } := by
  unfold bindArtifact at h
  unfold bindingOf
  cases htype : r.command.decision.type with
  | requestRevision =>
      rw [htype] at h
      obtain ⟨rfl, rfl⟩ := Prog.pure_eq_ok.mp h
      exact ⟨none, rfl, rfl, .nil (le_refl _), by simp⟩
  | approve =>
      rw [htype] at h
      change (GateOp.newId >>= _) w = _ at h
      rw [GateOp.newId_bind] at h
      obtain ⟨policyId', hpolicy', h₁⟩ := GateOp.uuid_bind_eq_ok.mp h
      obtain rfl : policyId = policyId' := Option.some.inj (hpolicy.symm.trans hpolicy')
      rw [GateOp.query_bind] at h₁
      obtain ⟨-, h₂⟩ := Prog.ensure_bind_eq_ok.mp h₁
      rw [GateOp.exec_bind] at h₂
      have h₃ := GateOp.failpoint_bind_eq_ok h₂
      obtain ⟨rfl, rfl⟩ := Prog.pure_eq_ok.mp h₃
      exact ⟨_, rfl, rfl, .one _, rfl⟩

theorem insertContinuation_eq_ok {decisionRecordId id : Uuid}
    (hpolicy : platform.readUuid decision.policyDecisionId = some policyId)
    (h : insertContinuation platform context r state decision decisionRecordId w = (.ok id, w')) :
    ∃ row, row = continuationRow context r state decision id decisionRecordId policyId ∧
      Supply.Drawn w.nextId w'.nextId [row.id] ∧
      w'.db = { w.db with continuationIntents := w.db.continuationIntents ++ [row] } := by
  unfold insertContinuation at h
  rw [GateOp.newId_bind] at h
  obtain ⟨policyId', hpolicy', h₁⟩ := GateOp.uuid_bind_eq_ok.mp h
  obtain rfl : policyId = policyId' := Option.some.inj (hpolicy.symm.trans hpolicy')
  rw [GateOp.query_bind] at h₁
  obtain ⟨-, h₂⟩ := Prog.ensure_bind_eq_ok.mp h₁
  rw [GateOp.exec_bind] at h₂
  have h₃ := GateOp.failpoint_bind_eq_ok h₂
  obtain ⟨rfl, rfl⟩ := Prog.pure_eq_ok.mp h₃
  exact ⟨_, rfl, .one _, rfl⟩

end

end

end GateProof

end Aico
