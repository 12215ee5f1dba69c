import Aico.GateSpike.Gate01Ledger

/-!
# The work of a command

A piece of work that returns has stored a decision of the policy, and where that is an `ALLOW`, an
`Outcome` as well. `decide` and `denyRedacted` so add the rows of one coherent `Work` to the tables,
and the answer they return tells what it is.
-/

namespace Json

theorem field_jsonb_of_nodup {entries : List (String × Json)}
    (hnodup : (entries.map Prod.fst).Nodup) {name : String} {v : Json}
    (h : (name, v) ∈ entries) : (jsonb (object entries)).field name = some (jsonb v) := by
  apply field_jsonb
  · have hkeys : (entries.map fun e => js e.1) = (entries.map Prod.fst).map js := by
      rw [List.map_map]
      rfl
    rw [hkeys]
    exact hnodup.map js_injective
  · exact h

theorem member_jsonb_of_nodup {entries inner : List (String × Json)} {outer name : String} {v : Json}
    (hnodup : (entries.map Prod.fst).Nodup) (hinner : (inner.map Prod.fst).Nodup)
    (h : (outer, object inner) ∈ entries) (hv : (name, v) ∈ inner) :
    (jsonb (object entries)).member outer name = some (jsonb v) := by
  rw [member, field_jsonb_of_nodup hnodup h]
  exact field_jsonb_of_nodup hinner hv

end Json

namespace Aico

namespace GateProof

section

variable {platform : GatePlatform} {context : DecisionWorkContext} {r : Gate01CommandRequest}
  {state : Gate01StateRow} {decision : AllowPolicyDecisionV1} {w w' : GateWorld}

/-! ## Answers -/

theorem outcome_deniedBody (d : DenyPolicyDecisionV1) (eventId : Uuid) :
    (deniedBody d eventId).jsonb.field "outcome" = some (.text "DENY") := by
  have hnames : ["outcome", "reasonCode", "policyDecisionId", "eventId"].Nodup := by decide
  unfold deniedBody
  refine Json.field_jsonb_of_nodup (v := .text "DENY") ?_ List.mem_cons_self
  exact hnames

theorem outcome_allowedBody (decisionRecordId eventId continuationIntentId : Uuid)
    (bindingId : Option Uuid) :
    (allowedBody context r state decision decisionRecordId eventId continuationIntentId
      bindingId).jsonb.field "outcome" = some (.text "ALLOW") := by
  have hnames : ["outcome", "receipt"].Nodup := by decide
  unfold allowedBody
  refine Json.field_jsonb_of_nodup (v := .text "ALLOW") ?_ List.mem_cons_self
  exact hnames

theorem decisionRecordId_allowedBody (decisionRecordId eventId continuationIntentId : Uuid)
    (bindingId : Option Uuid) :
    (allowedBody context r state decision decisionRecordId eventId continuationIntentId
      bindingId).jsonb.member "receipt" "decision_record_id" = some (.uuid decisionRecordId) := by
  have houter : ["outcome", "receipt"].Nodup := by decide
  have hinner : ["receipt_schema", "command_id", "decision_record_id", "policy_decision_id",
      "event_id", "company_id", "run_id", "gate", "gate_instance_id",
      "resulting_gate_instance_status", "artifact_version_id", "artifact_version",
      "artifact_checksum", "decision", "prior_run_state", "resulting_run_state",
      "resulting_run_stage", "resulting_run_row_version", "approved_artifact_binding_id",
      "continuation", "decided_at", "correlation_id", "replayed"].Nodup := by decide
  unfold allowedBody
  refine Json.member_jsonb_of_nodup (v := .uuid decisionRecordId) ?_ ?_
    (List.mem_cons_of_mem _ List.mem_cons_self)
    (List.mem_cons_of_mem _ (List.mem_cons_of_mem _ List.mem_cons_self))
  · exact houter
  · exact hinner

theorem isText_deniedBody (d : DenyPolicyDecisionV1) (eventId : Uuid) :
    Json.isText ((deniedBody d eventId).field "outcome") "DENY" = true := by
  rw [deniedBody, Json.field_object]
  simp [Json.isText, Json.text, Json.strictEquals]

theorem isText_allowedBody (decisionRecordId eventId continuationIntentId : Uuid)
    (bindingId : Option Uuid) :
    Json.isText ((allowedBody context r state decision decisionRecordId eventId
      continuationIntentId bindingId).field "outcome") "DENY" = false := by
  have hne : js "ALLOW" ≠ js "DENY" := by decide
  rw [allowedBody, Json.field_object]
  simp [Json.isText, Json.text, Json.strictEquals, hne]

/-! ## The outcome of an `ALLOW` -/

/-- A text that the database prints for an identifier is read as that identifier. -/
def GatePlatform.ReadsUuids (platform : GatePlatform) : Prop :=
  ∀ u, platform.readUuid (Uuid.text u) = some u

theorem nextSequence_allocated (companyId runId : Uuid) (counters : List RunEventCounterRow) :
    nextSequence companyId runId (allocated companyId runId counters) =
      nextSequence companyId runId counters + 1 := by
  unfold allocated nextSequence
  cases hfind : counters.find? (isCounter companyId runId) with
  | none =>
      have hnew : isCounter companyId runId ⟨companyId, runId, 2⟩ = true := by simp [isCounter]
      simp [List.find?_append, hfind, hnew]
  | some c =>
      have hc : isCounter companyId runId c = true := List.find?_some hfind
      have hkeep : ∀ c' : RunEventCounterRow, isCounter companyId runId
          { c' with nextSequence := c'.nextSequence + 1 } = isCounter companyId runId c' :=
        fun _ => rfl
      rw [if_pos (by rfl), Table.find?_updateWhere hkeep, hfind]
      simp [hc]

theorem IsEvent.place {draft : EventDraft} {n : ℕ} {event : DomainEventRow} {runId : Uuid}
    (h : IsEvent platform context draft n event) (hrun : platform.readUuid draft.runId = some runId) :
    event.place = some (context.authority.companyId, runId, parseInt n) := by
  rw [DomainEventRow.place, h.runId, hrun, h.runSequence, h.companyId]

structure DecidesGate (context : DecisionWorkContext) (r : Gate01CommandRequest)
    (state : Gate01StateRow) (decidedAt : JsString) (row : FounderGateDecisionRow) : Prop where
  companyId : row.companyId = context.authority.companyId
  runId : row.runId = state.run.id
  gateInstanceId : row.gateInstanceId = state.gate.id
  artifactId : row.artifactId = state.gate.artifactId
  artifactVersionId : row.artifactVersionId = state.gate.artifactVersionId
  decision : row.decision = r.command.decision.type
  decidedAt : row.decidedAt = decidedAt

/-- The tables with what follows from an `ALLOW`. -/
def ProofDb.withOutcome (db : ProofDb) (context : DecisionWorkContext) (r : Gate01CommandRequest)
    (state : Gate01StateRow) (decidedAt : JsString) (outcome : Outcome) : ProofDb :=
  { db.withEvent context.authority.companyId state.run.id outcome.event outcome.message with
    founderGateDecisions := db.founderGateDecisions ++ [outcome.decision]
    gateInstances := movedGates context r state decidedAt db.gateInstances
    runs := movedRuns context r state decidedAt db.runs
    approvedArtifactBindings := db.approvedArtifactBindings ++ outcome.binding.toList
    continuationIntents := db.continuationIntents ++ [outcome.continuation] }

theorem binds_bindingOf {policyId id correlationId commandId bindingId : Uuid} :
    Binds (founderDecisionRow platform context r state decision id policyId commandId correlationId)
      (bindingOf context r state decision bindingId id policyId) := by
  unfold bindingOf
  cases htype : r.command.decision.type with
  | requestRevision => exact htype
  | approve => exact ⟨htype, rfl, rfl, rfl, rfl, rfl, rfl, rfl, rfl⟩

/-- The rows that are made from one decision belong together. -/
theorem followsFrom_of_rows (hreads : platform.ReadsUuids) {policy : PolicyDecisionRow}
    {policyEvent event : DomainEventRow} {message : OutboxMessageRow} {n : ℕ}
    {row : FounderGateDecisionRow} {binding : Option ApprovedArtifactBindingRow}
    {continuation : ContinuationIntentRow}
    {correlationId decisionRecordId bindingId continuationIntentId : Uuid}
    (hpolicy : IsPolicyRow platform context r (.allow decision) policy)
    (hpolicyEvent : IsEvent platform context (policyEventDraft r (.allow decision)) n policyEvent)
    (hrun : platform.readUuid r.command.runId = some state.run.id)
    (hrow : row = founderDecisionRow platform context r state decision decisionRecordId policy.id
      policy.commandId correlationId)
    (hbinding : binding = bindingOf context r state decision bindingId decisionRecordId policy.id)
    (hcontinuation : continuation = continuationRow context r state decision continuationIntentId
      decisionRecordId policy.id)
    (hevent : IsEvent platform context (approvalEventDraft r state decision decisionRecordId
      continuationIntentId policyEvent.id) (n + 1) event)
    (hmessage : IsMessage event message) :
    Outcome.FollowsFrom ⟨row, binding, continuation, event, message⟩ policy policyEvent := by
  have haggregate : event.aggregateId = decisionRecordId :=
    Option.some.inj (hevent.aggregateId.symm.trans (hreads _))
  have hcausation : event.causationId = policyEvent.id :=
    Option.some.inj (hevent.causationId.symm.trans (hreads _))
  have hplace := hpolicyEvent.place hrun
  have hplace' := hevent.place (hreads state.run.id)
  subst hrow hbinding hcontinuation
  exact
    { policyDecisionId := rfl
      companyId := hpolicy.companyId.symm
      founderId := hpolicy.founderId.symm
      commandId := rfl
      binding := binds_bindingOf
      continuation := ⟨rfl, rfl, rfl, rfl, rfl, rfl, rfl⟩
      event := ⟨hevent.eventType, haggregate, hevent.actorFounderId, hcausation, n, hplace, hplace'⟩
      message := hmessage }

/-- What is stored after an `ALLOW` follows from it. -/
theorem recordDecision_eq_ok (hreads : platform.ReadsUuids) {policy : PolicyDecisionRow}
    {event : DomainEventRow} {n : ℕ} {answer : ℕ × Json}
    (hpolicy : IsPolicyRow platform context r (.allow decision) policy)
    (hevent : IsEvent platform context (policyEventDraft r (.allow decision)) n event)
    (hrun : platform.readUuid r.command.runId = some state.run.id)
    (hnext : nextSequence context.authority.companyId state.run.id w.db.runEventCounters = n + 1)
    (h : recordDecision platform context r state decision event.id w = (.ok answer, w')) :
    ∃ outcome, Outcome.FollowsFrom outcome policy event ∧
      DecidesGate context r state decision.issuedAt outcome.decision ∧
      founderDecisionFree w.db outcome.decision = true ∧
      Supply.Drawn w.nextId w'.nextId outcome.ids ∧
      Tells (some outcome) answer.1 answer.2.jsonb ∧
      Json.isText (answer.2.field "outcome") "DENY" = false ∧
      w'.db = w.db.withOutcome context r state decision.issuedAt outcome := by
  obtain ⟨decisionRecordId, w₁, hdecision, h₁⟩ := Prog.bind_eq_ok.mp h
  obtain ⟨correlationId, row, hrow, hfree, hdrawn₁, hdb₁⟩ :=
    insertFounderDecision_eq_ok hpolicy.id hpolicy.commandId hdecision
  have h₂ := GateOp.failpoint_bind_eq_ok h₁
  obtain ⟨_, w₂, hgate, h₃⟩ := Prog.bind_eq_ok.mp h₂
  obtain ⟨-, hid₂, hdb₂⟩ := moveGate_eq_ok hgate
  obtain ⟨_, w₃, hmove, h₄⟩ := Prog.bind_eq_ok.mp h₃
  obtain ⟨-, hid₃, hdb₃⟩ := moveRun_eq_ok hmove
  have h₅ := GateOp.failpoint_bind_eq_ok h₄
  obtain ⟨bindingId, w₄, hbind, h₆⟩ := Prog.bind_eq_ok.mp h₅
  obtain ⟨binding, hbinding, -, hdrawn₄, hdb₄⟩ := bindArtifact_eq_ok hpolicy.id hbind
  obtain ⟨continuationIntentId, w₅, hcontinue, h₇⟩ := Prog.bind_eq_ok.mp h₆
  obtain ⟨continuation, hcontinuation, hdrawn₅, hdb₅⟩ := insertContinuation_eq_ok hpolicy.id hcontinue
  obtain ⟨eventId, w₆, happend, h₈⟩ := Prog.bind_eq_ok.mp h₇
  obtain ⟨runId, event', message, hread, hevent', hmessage, -, -, hdrawn₆, hdb₆⟩ :=
    appendEvent_eq_ok happend
  obtain ⟨rfl, rfl⟩ := Prog.pure_eq_ok.mp h₈
  obtain rfl : runId = state.run.id := Option.some.inj (hread.symm.trans (hreads _))
  have hcounters : w₅.db.runEventCounters = w.db.runEventCounters := by
    rw [hdb₅, hdb₄, hdb₃, hdb₂, hdb₁]
  rw [hcounters, hnext] at hevent'
  rw [← hid₂, ← hid₃] at hdrawn₁
  refine ⟨⟨row, binding, continuation, event', message⟩, ?_, ?_, hfree, ?_, ?_,
    isText_allowedBody .., ?_⟩
  · exact followsFrom_of_rows hreads hpolicy hevent hrun hrow hbinding hcontinuation hevent' hmessage
  · subst hrow
    exact ⟨rfl, rfl, rfl, rfl, rfl, rfl, rfl⟩
  · exact ((hdrawn₁.append hdrawn₄).append hdrawn₅).append hdrawn₆
  · refine ⟨rfl, outcome_allowedBody .., fun o ho => ?_⟩
    cases ho
    rw [hrow]
    exact decisionRecordId_allowedBody ..
  · rw [hdb₆, hdb₅, hdb₄, hdb₃, hdb₂, hdb₁]
    rfl

/-! ## The work -/

/-- The work is done in the context of a request, from one world to another. -/
structure Work.DoneBy (work : Work) (platform : GatePlatform) (context : DecisionWorkContext)
    (answer : ℕ × Json) (w w' : GateWorld) : Prop where
  coherent : work.Coherent
  stores : work.Stores w.db w'.db
  drawn : Supply.Drawn w.nextId w'.nextId work.ids
  tells : Tells work.outcome answer.1 answer.2.jsonb
  denies : Json.isText (answer.2.field "outcome") "DENY" = work.outcome.isNone
  policyFree : policyDecisionFree w.db work.policy = true
  decisionFree : ∀ o ∈ work.outcome, founderDecisionFree w.db o.decision = true
  companyId : work.policy.companyId = context.authority.companyId
  founderId : work.policy.founderId = context.authority.founderId
  sessionId : work.policy.sessionId = context.authority.sessionId
  correlationId : platform.readUuid context.correlationId = some work.policy.correlationId

/-- The gate and its run are moved where the work has an outcome, and there they are as the command
expects them. -/
def Work.Moves (work : Work) (context : DecisionWorkContext) (r : Gate01CommandRequest)
    (state : Gate01StateRow) (db : ProofDb) (gates : List GateInstanceRow) (runs : List RunRow) :
    Prop :=
  match work.outcome with
  | none => gates = db.gateInstances ∧ runs = db.runs
  | some outcome => matchesExactGate01 r state = true ∧
      DecidesGate context r state outcome.decision.decidedAt outcome.decision ∧
      gates = movedGates context r state outcome.decision.decidedAt db.gateInstances ∧
      runs = movedRuns context r state outcome.decision.decidedAt db.runs

theorem announces_of_rows {d : PolicyDecisionV1} {policy : PolicyDecisionRow}
    {event : DomainEventRow} {n : ℕ} (hpolicy : IsPolicyRow platform context r d policy)
    (hevent : IsEvent platform context (policyEventDraft r d) n event) :
    Announces policy event where
  eventType := hevent.eventType
  companyId := hevent.companyId.trans hpolicy.companyId.symm
  aggregateId := Option.some.inj (hevent.aggregateId.symm.trans hpolicy.id)
  actorFounderId := hevent.actorFounderId.trans hpolicy.founderId.symm
  causationId := Option.some.inj (hevent.causationId.symm.trans hpolicy.commandId)

theorem doneBy_of_denial {d : DenyPolicyDecisionV1} {policy : PolicyDecisionRow}
    {event : DomainEventRow} {message : OutboxMessageRow} (eventId : Uuid)
    (hpolicy : IsPolicyRow platform context r (.deny d) policy) (hannounces : Announces policy event)
    (hmessage : IsMessage event message) (hfree : policyDecisionFree w.db policy = true)
    (hstores : Work.Stores ⟨policy, event, message, none⟩ w.db w'.db)
    (hdrawn : Supply.Drawn w.nextId w'.nextId [event.id, message.id]) :
    Work.DoneBy ⟨policy, event, message, none⟩ platform context (403, deniedBody d eventId) w w' where
  coherent := ⟨hpolicy.result, hannounces, hmessage, fun _ ho => by cases ho⟩
  stores := hstores
  drawn := hdrawn
  tells := ⟨rfl, outcome_deniedBody .., fun _ ho => by cases ho⟩
  denies := isText_deniedBody ..
  policyFree := hfree
  decisionFree := fun _ ho => by cases ho
  companyId := hpolicy.companyId
  founderId := hpolicy.founderId
  sessionId := hpolicy.sessionId
  correlationId := hpolicy.correlationId

theorem recordPolicyDecision_eq_ok {svc : Gate01CommandService} {parts : PolicyInputParts}
    {d : PolicyDecisionV1} {answer : ℕ × Json} (hreads : svc.platform.ReadsUuids)
    (hrun : svc.platform.readUuid parts.request.command.runId = some parts.state.run.id)
    (h : svc.recordPolicyDecision parts d w = (.ok answer, w')) :
    ∃ work, Work.DoneBy work svc.platform parts.context answer w w' ∧
      work.Moves parts.context parts.request parts.state w.db w'.db.gateInstances w'.db.runs := by
  obtain ⟨_, w₁, hinsert, h₁⟩ := Prog.bind_eq_ok.mp h
  obtain ⟨policy, hpolicy, hfree, rfl⟩ := insertPolicyDecision_eq_ok hinsert
  have h₂ := GateOp.failpoint_bind_eq_ok h₁
  obtain ⟨policyEventId, w₂, happend, h₃⟩ := Prog.bind_eq_ok.mp h₂
  obtain ⟨runId, event, message, hread, hevent, hmessage, hid, rfl, hdrawn, hdb⟩ :=
    appendEvent_eq_ok happend
  obtain rfl : runId = parts.state.run.id := Option.some.inj (hread.symm.trans hrun)
  have hannounces := announces_of_rows hpolicy hevent
  cases d with
  | deny d =>
      obtain ⟨rfl, rfl⟩ := Prog.pure_eq_ok.mp h₃
      have hstores : Work.Stores ⟨policy, event, message, none⟩ w.db w'.db := by
        rw [hdb]
        exact ⟨rfl, (List.append_nil _).symm, (List.append_nil _).symm, (List.append_nil _).symm,
          rfl, rfl, rfl⟩
      refine ⟨⟨policy, event, message, none⟩,
        doneBy_of_denial _ hpolicy hannounces hmessage hfree hstores hdrawn, ?_⟩
      rw [hdb]
      exact ⟨rfl, rfl⟩
  | allow d =>
      obtain ⟨hexact, h₄⟩ := Prog.ensure_bind_eq_ok.mp h₃
      rw [← hid] at h₄
      have hsequence : nextSequence parts.context.authority.companyId parts.state.run.id
          w₂.db.runEventCounters = nextSequence parts.context.authority.companyId
            parts.state.run.id w.db.runEventCounters + 1 := by
        rw [hdb]
        exact nextSequence_allocated _ _ _
      obtain ⟨outcome, hfollows, hdecides, hfree', hdrawn', htells, hdenies, hdb'⟩ :=
        recordDecision_eq_ok hreads hpolicy hevent hrun hsequence h₄
      refine ⟨⟨policy, event, message, some outcome⟩, ?_, ?_⟩
      · exact
          { coherent := ⟨hpolicy.result, hannounces, hmessage, fun _ ho => by cases ho; exact hfollows⟩
            stores := by
              rw [hdb', hdb]
              exact ⟨rfl, rfl, rfl, rfl, List.append_assoc .., List.append_assoc .., rfl⟩
            drawn := hdrawn.append hdrawn'
            tells := htells
            denies := hdenies
            policyFree := hfree
            decisionFree := by
              rintro _ ⟨⟩
              rw [hdb] at hfree'
              exact hfree'
            companyId := hpolicy.companyId
            founderId := hpolicy.founderId
            sessionId := hpolicy.sessionId
            correlationId := hpolicy.correlationId }
      · have hdecidedAt := hdecides.decidedAt
        rw [hdb', hdb]
        change _ ∧ _
        rw [hdecidedAt]
        exact ⟨hexact, hdecides, rfl, rfl⟩

theorem gate01State_eq_some {db : ProofDb} {companyId runId gateInstanceId : Uuid}
    (h : gate01State db companyId runId gateInstanceId = some state) :
    state.run.id = runId ∧ state.run.companyId = companyId ∧
      isGate companyId runId gateInstanceId state.gate = true ∧ state.run ∈ db.runs ∧
      state.gate ∈ db.gateInstances := by
  obtain ⟨run, hrun, h₁⟩ := Option.bind_eq_some_iff.mp h
  obtain ⟨gate, hgate, h₂⟩ := Option.bind_eq_some_iff.mp h₁
  obtain ⟨artifactVersion, -, h₃⟩ := Option.bind_eq_some_iff.mp h₂
  obtain ⟨targeting, -, h₄⟩ := Option.bind_eq_some_iff.mp h₃
  cases h₄
  have hkey := List.find?_some hrun
  simp only [Bool.and_eq_true, decide_eq_true_eq] at hkey
  exact ⟨hkey.2, hkey.1, List.find?_some hgate, List.mem_of_find?_eq_some hrun,
    List.mem_of_find?_eq_some hgate⟩

theorem lockGate01State_eq_ok {companyId : Uuid}
    (h : lockGate01State platform companyId r w = (.ok state, w')) :
    w' = w ∧ ∃ runId gateInstanceId, platform.readUuid r.command.runId = some runId ∧
      platform.readUuid r.command.expected.gateInstanceId = some gateInstanceId ∧
      gate01State w.db companyId runId gateInstanceId = some state := by
  obtain ⟨runId, hrun, h₁⟩ := GateOp.uuid_bind_eq_ok.mp h
  rw [GateOp.query_bind] at h₁
  obtain ⟨_, -, h₂⟩ := Prog.require_bind_eq_ok.mp h₁
  obtain ⟨_, -, h₃⟩ := GateOp.uuid_bind_eq_ok.mp h₂
  obtain ⟨gateInstanceId, hgate, h₄⟩ := GateOp.uuid_bind_eq_ok.mp h₃
  rw [GateOp.query_bind] at h₄
  obtain ⟨hstate, rfl⟩ := Prog.require_eq_ok.mp h₄
  exact ⟨rfl, runId, gateInstanceId, hrun, hgate, hstate⟩

/-! ## What only reads -/

/-- The tables are the same, and identifiers may have been drawn. -/
def Quiet (w w' : GateWorld) : Prop := w'.db = w.db ∧ w.nextId ≤ w'.nextId

instance : IsPreorder GateWorld Quiet where
  refl _ := ⟨rfl, le_refl _⟩
  trans _ _ _ h h' := ⟨h'.1.trans h.1, h.2.trans h'.2⟩

theorem quiet_now : Prog.Respects Quiet GateOp.now := fun _ => ⟨rfl, le_refl _⟩

theorem quiet_lift {α : Type} (x : Except CommandError α) :
    Prog.Respects Quiet (Prog.lift x : GateOp α) := fun _ => ⟨rfl, le_refl _⟩

theorem Work.DoneBy.of_quiet {work : Work} {answer : ℕ × Json} {w₁ : GateWorld}
    (h : work.DoneBy platform context answer w₁ w') (hquiet : Quiet w w₁) :
    work.DoneBy platform context answer w w' where
  coherent := h.coherent
  stores := hquiet.1 ▸ h.stores
  drawn := (Supply.Drawn.nil hquiet.2).append h.drawn
  tells := h.tells
  denies := h.denies
  policyFree := hquiet.1 ▸ h.policyFree
  decisionFree := hquiet.1 ▸ h.decisionFree
  companyId := h.companyId
  founderId := h.founderId
  sessionId := h.sessionId
  correlationId := h.correlationId

theorem buildPolicyInput_eq_ok {now : JsString} {parts : PolicyInputParts}
    (h : buildPolicyInput platform context r state now w = (.ok parts, w')) :
    parts.context = context ∧ parts.request = r ∧ parts.state = state ∧ Quiet w w' := by
  unfold buildPolicyInput at h
  rw [GateOp.newId_bind, GateOp.newId_bind] at h
  obtain ⟨authenticatedAt, -, h₁⟩ := Prog.require_bind_eq_ok.mp h
  cases hcancel : state.run.cancellationRequestedAt with
  | none =>
      rw [hcancel] at h₁
      obtain ⟨rfl, rfl⟩ := Prog.pure_eq_ok.mp h₁
      exact ⟨rfl, rfl, rfl, rfl, Nat.le_add_right _ 2⟩
  | some at_ =>
      rw [hcancel] at h₁
      obtain ⟨text, -, h₂⟩ := Prog.require_bind_eq_ok.mp h₁
      obtain ⟨rfl, rfl⟩ := Prog.pure_eq_ok.mp h₂
      exact ⟨rfl, rfl, rfl, rfl, Nat.le_add_right _ 2⟩

theorem quiet_settle (svc : Gate01CommandService) (parts : PolicyInputParts) :
    Prog.Respects Quiet (svc.settle parts) := by
  have hevaluate : ∀ input, Prog.Respects Quiet (svc.evaluate input) :=
    fun input => .bind quiet_now fun _ => quiet_lift _
  have hexact : Prog.Respects Quiet (svc.evaluateExact parts) :=
    .bind (hevaluate _) fun _ => .ite (hevaluate _) (.pure _)
  refine .bind hexact fun d => ?_
  cases d with
  | deny d => exact .pure _
  | allow d => exact .ite (.pure _) (.bind quiet_now fun _ => .ite (.pure _) (.pure _))

/-! ## Both kinds of work -/

theorem decide_eq_ok {svc : Gate01CommandService} {answer : ℕ × Json}
    (hreads : svc.platform.ReadsUuids) (h : svc.decide r context w = (.ok answer, w')) :
    ∃ work state runId gateInstanceId, Work.DoneBy work svc.platform context answer w w' ∧
      gate01State w.db context.authority.companyId runId gateInstanceId = some state ∧
      work.Moves context r state w.db w'.db.gateInstances w'.db.runs := by
  obtain ⟨state, w₁, hlock, h₁⟩ := Prog.bind_eq_ok.mp h
  obtain ⟨rfl, runId, gateInstanceId, hrun, -, hstate⟩ := lockGate01State_eq_ok hlock
  rw [GateOp.now_bind] at h₁
  obtain ⟨parts, w₂, hbuild, h₂⟩ := Prog.bind_eq_ok.mp h₁
  obtain ⟨rfl, rfl, rfl, hquiet⟩ := buildPolicyInput_eq_ok hbuild
  obtain ⟨d, w₃, hsettle, h₃⟩ := Prog.bind_eq_ok.mp h₂
  have hquiet' := quiet_settle svc parts w₂
  rw [hsettle] at hquiet'
  have hquiet'' : Quiet w₁ w₃ := ⟨hquiet'.1.trans hquiet.1, hquiet.2.trans hquiet'.2⟩
  obtain ⟨hid, -⟩ := gate01State_eq_some hstate
  obtain ⟨work, hwork, hmoves⟩ := recordPolicyDecision_eq_ok hreads (by rw [hid]; exact hrun) h₃
  rw [hquiet''.1] at hmoves
  exact ⟨work, parts.state, runId, gateInstanceId, hwork.of_quiet hquiet'', hstate, hmoves⟩

theorem denyRedacted_eq_ok {svc : Gate01CommandService} {answer : ℕ × Json}
    {input : Gate01CommandService.RedactedDenialRequest}
    (h : svc.denyRedacted input context w = (.ok answer, w')) :
    ∃ work, Work.DoneBy work svc.platform context answer w w' ∧ work.outcome = none ∧
      w'.db.gateInstances = w.db.gateInstances ∧ w'.db.runs = w.db.runs := by
  unfold Gate01CommandService.denyRedacted at h
  rw [GateOp.query_bind] at h
  obtain ⟨target, -, h₁⟩ := Prog.require_bind_eq_ok.mp h
  rw [GateOp.now_bind, GateOp.newId_bind, GateOp.newId_bind] at h₁
  obtain ⟨_, w₁, hinsert, h₂⟩ := Prog.bind_eq_ok.mp h₁
  obtain ⟨policy, hpolicy, hfree, rfl⟩ := insertPolicyDecision_eq_ok hinsert
  obtain ⟨eventId, w₂, happend, h₃⟩ := Prog.bind_eq_ok.mp h₂
  obtain ⟨event, message, htype, hcompany, haggregate, hactor, hcausation, hmessage, -, -, hdrawn,
    hdb⟩ := appendCompanyPolicyEvent_eq_ok happend
  obtain ⟨rfl, rfl⟩ := Prog.pure_eq_ok.mp h₃
  have hannounces : Announces policy event :=
    ⟨htype, hcompany.trans hpolicy.companyId.symm,
      Option.some.inj (haggregate.symm.trans hpolicy.id), hactor.trans hpolicy.founderId.symm,
      Option.some.inj (hcausation.symm.trans hpolicy.commandId)⟩
  have hstores : Work.Stores ⟨policy, event, message, none⟩ w.db w'.db := by
    rw [hdb]
    exact ⟨rfl, (List.append_nil _).symm, (List.append_nil _).symm, (List.append_nil _).symm,
      rfl, rfl, rfl⟩
  have hdone := doneBy_of_denial (w := { w with nextId := w.nextId + 1 + 1 }) eventId hpolicy
    hannounces hmessage hfree hstores hdrawn
  refine ⟨⟨policy, event, message, none⟩, ?_, rfl, ?_⟩
  · exact hdone.of_quiet ⟨rfl, Nat.le_add_right _ 2⟩
  · rw [hdb]
    exact ⟨rfl, rfl⟩

end

end GateProof

end Aico
