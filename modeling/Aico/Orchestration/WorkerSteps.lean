import Aico.Orchestration.Worker

/-!
# What the transactions of the worker commit

One lemma for each transaction that writes: the database it commits, where it
commits, in terms of the one it found. A transaction that throws leaves the
database as it was (`Op.transaction_error`), and none hands identifiers back.
-/

namespace Aico.Worker

variable {rt : Runtime} {claim : ClaimedTask} {w w' : World}

/-! ## Reads -/

theorem loadContext_reads (companyId runId : Uuid) :
    Prog.Respects (· = ·) (loadContext companyId runId) :=
  .bind (.query _) fun _ => .require _ _

theorem isLeaseCurrent_reads (claim : ClaimedTask) :
    Prog.Respects (· = ·) (isLeaseCurrent claim) :=
  .bind .now fun _ => .bind (.query _) fun _ => .pure _

/-! ## Before the invocation -/

def begin (claim : ClaimedTask) (db : Db) : Db :=
  { db with
    modelInvocationEffects := Table.updateWhere (isEffectOf claim)
      (fun e => { e with invocationCount := 1 }) db.modelInvocationEffects }

theorem beginModelInvocation_run :
    beginModelInvocation claim w =
      if (w.db.modelInvocationEffects.find? (isEffectOf claim)).any canBegin then
        (.ok true, { w with db := begin claim w.db })
      else (.ok false, w) := by
  have hbody : beginModelInvocation claim w =
      Op.transaction (if (w.db.modelInvocationEffects.find? (isEffectOf claim)).any canBegin
        then do
          Op.exec (begin claim)
          pure true
        else pure false) w := by
    simp only [beginModelInvocation, Op.transaction, Prog.transaction, Op.query_bind,
      List.head?_filter]
    rfl
  rw [hbody]
  split <;> rfl

/-! ## Ways out -/

def block (claim : ClaimedTask) (bump : ℕ) (now : Timestamp) (db : Db) : Db :=
  blockRun claim now
    { db with tasks := Table.updateWhere (isHeldTask claim) (blockedTask bump now) db.tasks }

theorem blockUnknownModelOutcome_stale (hstale : stale claim (currentRow claim w.db) = true) :
    blockUnknownModelOutcome claim w =
      (.ok ⟨⟩,
        { w with db := abandonRunning claim "STALE_RECONCILIATION" w.now w.db }) := by
  simp only [blockUnknownModelOutcome, Op.transaction, Prog.transaction, Op.query_bind,
    Op.now_bind, hstale, if_true]
  rfl

theorem blockUnknownModelOutcome_held {u : PUnit}
    (hheld : stale claim (currentRow claim w.db) = false)
    (hrun : blockUnknownModelOutcome claim w = (.ok u, w')) :
    ∃ sequence, w' = DomainEvent.appended (reconciliationEvent claim) sequence
      { w with db :=
          block claim 1 w.now (abandonRunning claim "UNKNOWN_EXTERNAL_OUTCOME" w.now w.db) } := by
  rw [blockUnknownModelOutcome, Op.transaction_eq_ok, Op.query_bind, Op.now_bind, hheld,
    if_neg Bool.false_ne_true, Op.exec_bind, Op.exec_bind, Op.exec_bind] at hrun
  obtain ⟨eventId, w₁, happend, hpure⟩ := Prog.bind_eq_ok.mp hrun
  obtain ⟨sequence, -, -, -, rfl⟩ := DomainEvent.append_eq_ok.mp happend
  obtain ⟨-, rfl⟩ := Prog.pure_eq_ok.mp hpure
  exact ⟨sequence, rfl⟩

def failRunning (claim : ClaimedTask) (now : Timestamp) (db : Db) : Db :=
  { db with
    taskAttempts := Table.updateWhere
      (fun a => a.companyId = claim.companyId ∧ a.id = claim.attemptId ∧
        a.status = .running)
      (fun a =>
        { a with
          status := .failed
          resultClass := some "UNKNOWN_EXTERNAL_OUTCOME"
          completedAt := some now })
      db.taskAttempts }

theorem failTask_stale (hstale : stale claim (currentRow claim w.db) = true) :
    failTask claim w =
      (.ok ⟨⟩,
        { w with db :=
            markUnknown claim w.now (abandonRunning claim "STALE_FAILURE" w.now w.db) }) := by
  simp only [failTask, Op.transaction, Prog.transaction, Op.query_bind, Op.now_bind, hstale,
    if_true]
  rfl

theorem failTask_held {u : PUnit} (hheld : stale claim (currentRow claim w.db) = false)
    (hrun : failTask claim w = (.ok u, w')) :
    ∃ sequence, w' = DomainEvent.appended (reconciliationEvent claim) sequence
      { w with db :=
          block claim 0 w.now (markUnknown claim w.now (failRunning claim w.now w.db)) } := by
  rw [failTask, Op.transaction_eq_ok, Op.query_bind, Op.now_bind, hheld,
    if_neg Bool.false_ne_true, Op.exec_bind, Op.exec_bind, Op.exec_bind, Op.exec_bind] at hrun
  obtain ⟨eventId, w₁, happend, hpure⟩ := Prog.bind_eq_ok.mp hrun
  obtain ⟨sequence, -, -, -, rfl⟩ := DomainEvent.append_eq_ok.mp happend
  obtain ⟨-, rfl⟩ := Prog.pure_eq_ok.mp hpure
  exact ⟨sequence, rfl⟩

/-! ## Completion -/

def insertArtifact (rt : Runtime) (claim : ClaimedTask) (result : ModelResult)
    (artifactId artifactVersionId : Uuid) (now : Timestamp) (db : Db) : Db :=
  { db with
    artifacts := Table.updateWhere
      (fun a => a.companyId = claim.companyId ∧ a.id = artifactId)
      (fun a => { a with currentVersionId := some artifactVersionId, updatedAt := now })
      (db.artifacts ++ [artifactRow claim artifactId now])
    artifactVersions := db.artifactVersions ++
      [artifactVersionRow rt claim result artifactId artifactVersionId] }

def acceptResult (rt : Runtime) (claim : ClaimedTask) (result : ModelResult)
    (artifactVersionId : Uuid) (now : Timestamp) (db : Db) : Db :=
  { db with
    taskAttempts := Table.updateWhere
      (fun a => a.companyId = claim.companyId ∧ a.id = claim.attemptId)
      (succeededAttempt artifactVersionId result now) db.taskAttempts
    modelInvocationEffects := Table.updateWhere
      (fun e => isEffectOf claim e ∧ e.status = .running)
      (succeededEffect rt result now) db.modelInvocationEffects
    tasks := Table.updateWhere
      (fun t => t.companyId = claim.companyId ∧ t.id = claim.id)
      (succeededTask now) db.tasks
    runs := Table.updateWhere
      (fun r => r.id = claim.runId ∧ r.companyId = claim.companyId)
      (awaitingBriefApproval now) db.runs }

theorem completeTask_stale {result : ModelResult}
    (hstale : stale claim (currentRow claim w.db) = true) :
    completeTask rt claim result w =
      (.ok ⟨⟩,
        { w with
          db := markUnknown claim w.now
            (abandonRunning claim "STALE_COMPLETION" w.now w.db) }) := by
  simp only [completeTask, Op.transaction, Prog.transaction, Op.query_bind, Op.now_bind,
    hstale, if_true]
  rfl

theorem completeTask_held {result : ModelResult} {u : PUnit}
    (hheld : stale claim (currentRow claim w.db) = false)
    (hrun : completeTask rt claim result w = (.ok u, w')) :
    ∃ sequence, w' =
      DomainEvent.appended (publishedEvent claim w.nextId (w.nextId + 1)) sequence
        { w with
          nextId := w.nextId + 2
          db := acceptResult rt claim result (w.nextId + 1) w.now
            (insertArtifact rt claim result w.nextId (w.nextId + 1) w.now w.db) } := by
  rw [completeTask, Op.transaction_eq_ok, Op.query_bind, Op.now_bind, hheld,
    if_neg Bool.false_ne_true, publish, Op.newId_bind, Op.newId_bind, Op.query_bind] at hrun
  obtain ⟨_, w₁, hfree, hrun⟩ := Prog.bind_eq_ok.mp hrun
  obtain ⟨-, rfl⟩ := Prog.ensure_eq_ok.mp hfree
  simp only [Op.exec_bind] at hrun
  obtain ⟨eventId, w₁, happend, hpure⟩ := Prog.bind_eq_ok.mp hrun
  obtain ⟨sequence, -, -, -, rfl⟩ := DomainEvent.append_eq_ok.mp happend
  obtain ⟨-, rfl⟩ := Prog.pure_eq_ok.mp hpure
  exact ⟨sequence, rfl⟩

/-! ## Claiming -/

def ensureEffect (claim : ClaimedTask) (db : Db) : Db :=
  if db.modelInvocationEffects.any fun e =>
      e.companyId = claim.companyId ∧ e.runId = claim.runId ∧ e.taskId = claim.id then db
  else { db with modelInvocationEffects := db.modelInvocationEffects ++ [effectRow claim] }

theorem insertEffect_eq_ok {u : PUnit} (hrun : insertEffect claim w = (.ok u, w')) :
    w' = { w with db := ensureEffect claim w.db } ∧
      ((w.db.modelInvocationEffects.any fun e =>
          e.companyId = claim.companyId ∧ e.runId = claim.runId ∧ e.taskId = claim.id) = true ∨
        ∀ e ∈ w.db.modelInvocationEffects, e.effectKey ≠ claim.effectKey) := by
  rw [insertEffect, Op.query_bind] at hrun
  rcases Prog.ite_eq_ok.mp hrun with ⟨hconflict, hrun⟩ | ⟨hnew, hrun⟩
  · obtain ⟨-, rfl⟩ := Prog.pure_eq_ok.mp hrun
    refine ⟨?_, .inl hconflict⟩
    rw [ensureEffect, if_pos hconflict]
  · rw [Op.query_bind] at hrun
    obtain ⟨_, w₁, hfree, hinsert⟩ := Prog.bind_eq_ok.mp hrun
    obtain ⟨hfree, rfl⟩ := Prog.ensure_eq_ok.mp hfree
    obtain rfl := Prog.modify_eq_ok.mp hinsert
    refine ⟨?_, .inr ?_⟩
    · rw [ensureEffect, if_neg hnew]
    · simpa using hfree

/-- The task is leased and its running attempts are given up for the new one. -/
def lease (config : WorkerConfig) (claim : ClaimedTask) (rt : Runtime)
    (policyDecisionId : Uuid) (now : Timestamp) (db : Db) : Db :=
  { db with
    tasks := Table.updateWhere
      (fun t => t.companyId = claim.companyId ∧ t.id = claim.id)
      (leased config claim.leaseToken now) db.tasks
    taskAttempts := Table.updateWhere
        (fun a => a.companyId = claim.companyId ∧ a.taskId = claim.id ∧
          a.status = .running)
        (abandoned "LEASE_EXPIRED" now) db.taskAttempts ++
      [attemptRow claim policyDecisionId]
    policyDecisions := db.policyDecisions ++
      [policyDecisionRow rt claim policyDecisionId now] }

def startRun (claim : ClaimedTask) (now : Timestamp) (db : Db) : Db :=
  { db with
    runs := Table.updateWhere
      (fun r => r.companyId = claim.companyId ∧ r.id = claim.runId ∧ r.state = .draft)
      (qualifying now) db.runs }

theorem takeTask_eq_ok {config : WorkerConfig} {t : TaskRow} {r : RunRow}
    (hrun : takeTask rt config t r w = (.ok claim, w')) :
    claim = claimOf rt t r w.nextId (w.nextId + 1) ∧
      ((w.db.modelInvocationEffects.any fun e =>
          e.companyId = claim.companyId ∧ e.runId = claim.runId ∧ e.taskId = claim.id) = true ∨
        ∀ e ∈ w.db.modelInvocationEffects, e.effectKey ≠ claim.effectKey) ∧
      ∃ sequence, w' = DomainEvent.appended (taskStartedEvent config claim) sequence
        { w with
          nextId := w.nextId + 3
          db := startRun claim w.now (ensureEffect claim
            (lease config claim rt (w.nextId + 2) w.now w.db)) } := by
  rw [takeTask, Op.newId_bind, Op.newId_bind, Op.newId_bind] at hrun
  simp only [Op.now_bind, Op.exec_bind, Op.query_bind] at hrun
  obtain ⟨_, w₁, hfree, hrun⟩ := Prog.bind_eq_ok.mp hrun
  obtain ⟨-, rfl⟩ := Prog.ensure_eq_ok.mp hfree
  rw [Op.exec_bind] at hrun
  obtain ⟨_, w₁, hinsert, hrun⟩ := Prog.bind_eq_ok.mp hrun
  obtain ⟨rfl, heffects⟩ := insertEffect_eq_ok hinsert
  rw [Op.exec_bind] at hrun
  obtain ⟨eventId, w₁, happend, hpure⟩ := Prog.bind_eq_ok.mp hrun
  obtain ⟨sequence, -, -, -, rfl⟩ := DomainEvent.append_eq_ok.mp happend
  obtain ⟨rfl, rfl⟩ := Prog.pure_eq_ok.mp hpure
  exact ⟨rfl, heffects, sequence, rfl⟩

theorem claimTask_none {config : WorkerConfig} {runId : Option Uuid} {locked : List Uuid}
    (hrun : claimTask rt config runId locked w = (.ok none, w')) : w' = w := by
  rw [claimTask, Op.transaction_eq_ok, Op.now_bind, Op.query_bind] at hrun
  cases hrow : candidate w.now runId locked w.db with
  | none =>
      rw [hrow] at hrun
      exact (Prog.pure_eq_ok.mp hrun).2
  | some row =>
      rw [hrow] at hrun
      obtain ⟨c, w₁, _, hpure⟩ := Prog.bind_eq_ok.mp hrun
      cases (Prog.pure_eq_ok.mp hpure).1

theorem claimTask_some {config : WorkerConfig} {runId : Option Uuid} {locked : List Uuid}
    (hrun : claimTask rt config runId locked w = (.ok (some claim), w')) :
    ∃ t r, (t, r) ∈ joinRuns w.db ∧ claimable w.now runId t r = true ∧
      takeTask rt config t r w = (.ok claim, w') := by
  rw [claimTask, Op.transaction_eq_ok, Op.now_bind, Op.query_bind] at hrun
  cases hrow : candidate w.now runId locked w.db with
  | none =>
      rw [hrow] at hrun
      cases (Prog.pure_eq_ok.mp hrun).1
  | some row =>
      rw [hrow] at hrun
      obtain ⟨c, w₁, htake, hpure⟩ := Prog.bind_eq_ok.mp hrun
      obtain ⟨hc, rfl⟩ := Prog.pure_eq_ok.mp hpure
      obtain rfl := Option.some.inj hc
      have hmem := List.mem_of_mem_head? hrow
      rw [List.mem_insertionSort] at hmem
      obtain ⟨hjoin, hclaimable⟩ := List.mem_filter.mp hmem
      exact ⟨row.1, row.2, hjoin, (of_decide_eq_true hclaimable).1, htake⟩

/-! ## What the transactions leave alone -/

section Keeps

variable {R : World → World → Prop} [ViewOrder Db.context R]

theorem keepsContext_updateRuns {p : RunRow → Bool} {f : RunRow → RunRow}
    (hf : ∀ r, (f r).pointer = r.pointer) :
    Prog.Respects R (Op.exec fun db => { db with runs := Table.updateWhere p f db.runs }) :=
  .keepsContext (Db.context_updateRuns hf)

theorem insertEffect_keepsContext (claim : ClaimedTask) :
    Prog.Respects R (insertEffect claim) :=
  .bind (.query _) fun _ => .ite (.pure _) (.bind (.query _) fun _ =>
    .bind (.ensure _ _) fun _ => .keepsContext fun _ => rfl)

theorem takeTask_keepsContext (config : WorkerConfig) (t : TaskRow) (r : RunRow) :
    Prog.Respects R (takeTask rt config t r) :=
  .bind .newId fun _ => .bind .newId fun _ => .bind .newId fun _ => .bind .now fun _ =>
    .bind (.keepsContext fun _ => rfl) fun _ => .bind (.keepsContext fun _ => rfl) fun _ =>
    .bind (.keepsContext fun _ => rfl) fun _ => .bind (.query _) fun _ =>
    .bind (.ensure _ _) fun _ => .bind (.keepsContext fun _ => rfl) fun _ =>
    .bind (insertEffect_keepsContext _) fun _ =>
    .bind (keepsContext_updateRuns fun _ => by rfl) fun _ =>
    .bind (DomainEvent.append_keepsContext _) fun _ => .pure _

theorem claimTask_keepsContext (config : WorkerConfig) (runId : Option Uuid)
    (locked : List Uuid) : Prog.Respects R (claimTask rt config runId locked) := by
  refine .transact (.bind .now fun now => .bind (.query _) fun row => ?_)
  cases row with
  | none => exact .pure _
  | some row => exact .bind (takeTask_keepsContext config row.1 row.2) fun _ => .pure _

theorem beginModelInvocation_keepsContext (claim : ClaimedTask) :
    Prog.Respects R (beginModelInvocation claim) :=
  .transact (.bind (.query _) fun _ =>
    .ite (.bind (.keepsContext fun _ => rfl) fun _ => .pure _) (.pure _))

theorem abandonAttempt_keepsContext (claim : ClaimedTask) (resultClass : String) :
    Prog.Respects R (abandonAttempt claim resultClass) :=
  .bind .now fun _ => .keepsContext fun _ => rfl

theorem blockUnknownModelOutcome_keepsContext (claim : ClaimedTask) :
    Prog.Respects R (blockUnknownModelOutcome claim) :=
  .transact (.bind (.query _) fun _ => .bind .now fun _ =>
    .ite (.keepsContext fun _ => rfl)
      (.bind (.keepsContext fun _ => rfl) fun _ => .bind (.keepsContext fun _ => rfl) fun _ =>
        .bind (keepsContext_updateRuns fun _ => by rfl) fun _ =>
        .bind (DomainEvent.append_keepsContext _) fun _ => .pure _))

theorem failTask_keepsContext (claim : ClaimedTask) : Prog.Respects R (failTask claim) :=
  .transact (.bind (.query _) fun _ => .bind .now fun _ =>
    .ite (.bind (.keepsContext fun _ => rfl) fun _ => .keepsContext fun _ => rfl)
      (.bind (.keepsContext fun _ => rfl) fun _ => .bind (.keepsContext fun _ => rfl) fun _ =>
        .bind (.keepsContext fun _ => rfl) fun _ =>
        .bind (keepsContext_updateRuns fun _ => by rfl) fun _ =>
        .bind (DomainEvent.append_keepsContext _) fun _ => .pure _))

theorem publish_keepsContext (claim : ClaimedTask) (result : ModelResult) (now : Timestamp) :
    Prog.Respects R (publish rt claim result now) :=
  .bind .newId fun _ => .bind .newId fun _ => .bind (.query _) fun _ =>
    .bind (.ensure _ _) fun _ => .bind (.keepsContext fun _ => rfl) fun _ =>
    .bind (.keepsContext fun _ => rfl) fun _ => .bind (.keepsContext fun _ => rfl) fun _ =>
    .bind (.keepsContext fun _ => rfl) fun _ => .bind (.keepsContext fun _ => rfl) fun _ =>
    .bind (.keepsContext fun _ => rfl) fun _ =>
    .bind (keepsContext_updateRuns fun _ => by rfl) fun _ =>
    .bind (DomainEvent.append_keepsContext _) fun _ => .pure _

theorem completeTask_keepsContext (claim : ClaimedTask) (result : ModelResult) :
    Prog.Respects R (completeTask rt claim result) :=
  .transact (.bind (.query _) fun _ => .bind .now fun _ =>
    .ite (.bind (.keepsContext fun _ => rfl) fun _ => .keepsContext fun _ => rfl)
      (publish_keepsContext claim result _))

end Keeps

end Aico.Worker
