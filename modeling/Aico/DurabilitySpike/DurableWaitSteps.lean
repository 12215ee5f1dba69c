import Aico.DurabilitySpike.DurableWait

/-!
# What the transactions on waits commit

One lemma for each of `openWait`, `answer` and `cancelFixture`: what it has found
and the database it leaves when it returns. When it throws, the database is what
it was.
-/

namespace Aico.DurableWait

variable {rt : Runtime} {w w' : World} {u : PUnit}

/-! ## Locks -/

theorem assertFounder_reads (companyId actorId : Uuid) :
    Prog.Respects (· = ·) (assertFounder companyId actorId) :=
  .bind (.query _) fun _ => .ensure _ _

theorem assertFounder_eq_ok {companyId actorId : Uuid}
    (h : assertFounder companyId actorId w = (.ok u, w')) : w' = w := by
  have hreads := assertFounder_reads companyId actorId w
  rw [h] at hreads
  exact hreads.symm

theorem lockRun_eq_ok {companyId runId : Uuid} {run : RunRow}
    (h : lockRun companyId runId w = (.ok run, w')) :
    w.db.runs.find? (isRun companyId runId) = some run ∧ w' = w := by
  rw [lockRun, Op.query_bind] at h
  exact Prog.require_eq_ok.mp h

theorem lockTask_eq_ok {companyId runId : Uuid} {taskId : Option Uuid} {task : TaskRow}
    (h : lockTask companyId runId taskId w = (.ok task, w')) :
    w.db.tasks.find? (isTask companyId runId taskId) = some task ∧ w' = w := by
  rw [lockTask, Op.query_bind] at h
  exact Prog.require_eq_ok.mp h

theorem lockWait_eq_ok {companyId runId waitId : Uuid} {wait : HumanWaitRow}
    (h : lockWait companyId runId waitId w = (.ok wait, w')) :
    w.db.humanWaits.find? (isWait companyId runId waitId) = some wait ∧ w' = w := by
  rw [lockWait, Op.query_bind] at h
  exact Prog.require_eq_ok.mp h

/-! ## Opening -/

def opened (input : OpenWaitInput) (wait : HumanWaitRow) (now : Timestamp) (db : Db) : Db :=
  { db with
    tasks := Table.updateWhere
      (isTask input.companyId.value input.runId.value (some input.taskId.value))
      (awaitingTask now) db.tasks
    runs := Table.updateWhere (isRun input.companyId.value input.runId.value)
      (awaitingRun now) db.runs
    humanWaits := db.humanWaits ++ [wait] }

theorem openWait_eq_ok {input : OpenWaitInput} {response : Json}
    (h : openWait input w = (.ok response, w')) :
    ∃ run task sequence,
      w.db.runs.find? (isRun input.companyId.value input.runId.value) = some run ∧
      w.db.tasks.find?
        (isTask input.companyId.value input.runId.value (some input.taskId.value)) =
          some task ∧
      run.rowVersion = input.expectedRunVersion ∧ run.state = .draft ∧
      (task.state = .queued ∨ task.state = .ready) ∧ task.leaseToken = none ∧
      w' = DomainEvent.appended
        (inputRequestedEvent input (humanWaitRow input run w.nextId (w.nextId + 1) w.now))
        sequence
        { w with
          nextId := w.nextId + 2
          db := opened input (humanWaitRow input run w.nextId (w.nextId + 1) w.now) w.now
            w.db } := by
  rw [openWait, Op.transaction_eq_ok] at h
  obtain ⟨_, w₁, hfounder, h₁⟩ := Prog.bind_eq_ok.mp h
  obtain rfl := assertFounder_eq_ok hfounder
  obtain ⟨run, w₂, hrun, h₂⟩ := Prog.bind_eq_ok.mp h₁
  obtain ⟨hrun, rfl⟩ := lockRun_eq_ok hrun
  obtain ⟨task, w₃, htask, h₃⟩ := Prog.bind_eq_ok.mp h₂
  obtain ⟨htask, rfl⟩ := lockTask_eq_ok htask
  obtain ⟨_, w₄, hpre, h₄⟩ := Prog.bind_eq_ok.mp h₃
  obtain ⟨⟨hversion, hdraft⟩, rfl⟩ := Prog.ensure_eq_ok.mp hpre
  obtain ⟨_, w₅, hwaitable, hrecord⟩ := Prog.bind_eq_ok.mp h₄
  obtain ⟨⟨hstate, hlease⟩, rfl⟩ := Prog.ensure_eq_ok.mp hwaitable
  rw [recordWait, Op.newId_bind, Op.newId_bind, Op.now_bind, Op.exec_bind,
    Op.exec_bind] at hrecord
  simp only [Op.query_bind] at hrecord
  obtain ⟨_, w₆, hfree, hrecord'⟩ := Prog.bind_eq_ok.mp hrecord
  obtain ⟨-, rfl⟩ := Prog.ensure_eq_ok.mp hfree
  rw [Op.exec_bind] at hrecord'
  obtain ⟨eventId, w₇, happend, hrest⟩ := Prog.bind_eq_ok.mp hrecord'
  obtain ⟨sequence, -, -, -, rfl⟩ := DomainEvent.append_eq_ok.mp happend
  obtain ⟨_, w₈, hrollback, hpure⟩ := Prog.bind_eq_ok.mp hrest
  obtain ⟨-, rfl⟩ := Prog.ensure_eq_ok.mp hrollback
  obtain ⟨-, rfl⟩ := Prog.pure_eq_ok.mp hpure
  exact ⟨run, task, sequence, hrun, htask, hversion, hdraft, hstate, hlease, rfl⟩

theorem openWait_keepsContext {R : World → World → Prop} [ViewOrder Db.context R]
    (input : OpenWaitInput) : Prog.Respects R (openWait input) :=
  .transact (.bind (.bind (.query _) fun _ => .ensure _ _) fun _ =>
    .bind (.bind (.query _) fun _ => .require _ _) fun _ =>
    .bind (.bind (.query _) fun _ => .require _ _) fun _ =>
    .bind (.ensure _ _) fun _ => .bind (.ensure _ _) fun _ =>
    .bind .newId fun _ => .bind .newId fun _ => .bind .now fun _ =>
    .bind (.keepsContext fun _ => rfl) fun _ =>
    .bind (.keepsContext (Db.context_updateRuns fun _ => by rfl)) fun _ =>
    .bind (.query _) fun _ => .bind (.ensure _ _) fun _ =>
    .bind (.keepsContext fun _ => rfl) fun _ =>
    .bind (DomainEvent.append_keepsContext _) fun _ =>
    .bind (.ensure _ _) fun _ => .pure _)

/-! ## Answering -/

def answered (rt : Runtime) (input : AnswerWaitInput) (wait : HumanWaitRow)
    (snapshot : ContextSnapshotRow) (answerVersionId : Uuid) (now : Timestamp) (db : Db) :
    Db :=
  { db with
    clarificationAnswerVersions := db.clarificationAnswerVersions ++
      [answerVersionRow rt input wait answerVersionId now]
    contextSnapshots := db.contextSnapshots ++ [snapshot]
    contextSnapshotAnswers := db.contextSnapshotAnswers ++
      [{ companyId := input.companyId.value
         contextSnapshotId := snapshot.id
         answerVersionId := answerVersionId
         ordinal := snapshot.answerVersionIds.length - 1 }]
    tasks := Table.updateWhere
      (isTask input.companyId.value input.runId.value wait.taskId)
      (readyTask wait snapshot now) db.tasks
    runs := Table.updateWhere (isRun input.companyId.value input.runId.value)
      (resumedRun wait snapshot now) db.runs }

def resolve (input : AnswerWaitInput) (eventId : Uuid) (now : Timestamp) (db : Db) : Db :=
  { db with
    humanWaits := Table.updateWhere
      (fun w => isWait input.companyId.value input.runId.value input.waitId.value w ∧
        w.status = .opened)
      (resolvedWait input eventId now) db.humanWaits }

theorem resolveWait_eq_ok {input : AnswerWaitInput} {response : CommandResponse}
    (h : resolveWait rt input w = (.ok response, w')) :
    ∃ wait run task source sequence,
      w.db.humanWaits.find?
        (isWait input.companyId.value input.runId.value input.waitId.value) = some wait ∧
      w.db.runs.find? (isRun input.companyId.value input.runId.value) = some run ∧
      w.db.tasks.find? (isTask input.companyId.value input.runId.value wait.taskId) =
        some task ∧
      answerable input wait run task = true ∧
      (w.db.contextSnapshots.filter fun cs =>
        cs.companyId = input.companyId.value ∧ cs.id = wait.contextSnapshotId).head? =
          some source ∧
      (∀ a ∈ w.db.clarificationAnswerVersions, a.waitId ≠ input.waitId.value) ∧
      ∃ w₁, w₁ = DomainEvent.appended
          (inputResolvedEvent input wait w.nextId (w.nextId + 1)) sequence
          { w with
            nextId := w.nextId + 2
            db := answered rt input wait
              (resumedSnapshotRow input source (w.nextId + 1) w.nextId w.now) w.nextId w.now
              w.db } ∧
        w' = { w₁ with db := resolve input (w.nextId + 2) w.now w₁.db } := by
  obtain ⟨_, w₁, hfounder, h₁⟩ := Prog.bind_eq_ok.mp h
  obtain rfl := assertFounder_eq_ok hfounder
  obtain ⟨wait, w₂, hwait, h₂⟩ := Prog.bind_eq_ok.mp h₁
  obtain ⟨hwait, rfl⟩ := lockWait_eq_ok hwait
  obtain ⟨run, w₃, hrun, h₃⟩ := Prog.bind_eq_ok.mp h₂
  obtain ⟨hrun, rfl⟩ := lockRun_eq_ok hrun
  obtain ⟨task, w₄, htask, h₄⟩ := Prog.bind_eq_ok.mp h₃
  obtain ⟨htask, rfl⟩ := lockTask_eq_ok htask
  obtain ⟨_, w₅, hensure, hrecord⟩ := Prog.bind_eq_ok.mp h₄
  obtain ⟨hanswerable, rfl⟩ := Prog.ensure_eq_ok.mp hensure
  rw [recordAnswer, Op.newId_bind, Op.newId_bind, Op.now_bind, Op.query_bind] at hrecord
  obtain ⟨source, w₆, hsource, hrecord'⟩ := Prog.bind_eq_ok.mp hrecord
  obtain ⟨hfound, rfl⟩ := Prog.require_eq_ok.mp hsource
  obtain ⟨_, w₇, hstorable, hrecord'⟩ := Prog.bind_eq_ok.mp hrecord'
  obtain ⟨-, rfl⟩ := Prog.ensure_eq_ok.mp hstorable
  rw [Op.query_bind] at hrecord'
  obtain ⟨_, w₈, hunique, hrest⟩ := Prog.bind_eq_ok.mp hrecord'
  obtain ⟨hfree, rfl⟩ := Prog.ensure_eq_ok.mp hunique
  rw [Op.exec_bind] at hrest
  simp only [Op.exec_bind] at hrest
  obtain ⟨eventId, w₉, happend, hpure⟩ := Prog.bind_eq_ok.mp hrest
  obtain ⟨sequence, -, -, rfl, rfl⟩ := DomainEvent.append_eq_ok.mp happend
  rw [Op.exec_bind] at hpure
  obtain ⟨-, rfl⟩ := Prog.pure_eq_ok.mp hpure
  refine ⟨wait, run, task, source, sequence, hwait, hrun, htask, hanswerable, hfound, ?_, _,
    rfl, rfl⟩
  simpa using hfree

theorem resolveWait_dbFree {R : World → World → Prop} [DbFree R] (input : AnswerWaitInput) :
    Prog.Respects R (resolveWait rt input) :=
  .bind (.bind (.query _) fun _ => .ensure _ _) fun _ =>
    .bind (.bind (.query _) fun _ => .require _ _) fun _ =>
    .bind (.bind (.query _) fun _ => .require _ _) fun _ =>
    .bind (.bind (.query _) fun _ => .require _ _) fun _ =>
    .bind (.ensure _ _) fun _ => .bind .newId fun _ => .bind .newId fun _ =>
    .bind .now fun _ => .bind (.query _) fun _ => .bind (.require _ _) fun _ =>
    .bind (.ensure _ _) fun _ => .bind (.query _) fun _ => .bind (.ensure _ _) fun _ =>
    .bind (DbFree.respects_exec _) fun _ => .bind (DbFree.respects_exec _) fun _ =>
    .bind (DbFree.respects_exec _) fun _ => .bind (DbFree.respects_exec _) fun _ =>
    .bind (DbFree.respects_exec _) fun _ => .bind (DomainEvent.append_dbFree _) fun _ =>
    .bind (DbFree.respects_exec _) fun _ => .pure _

theorem answer_dbFree {R : World → World → Prop} [DbFree R] (input : AnswerWaitInput) :
    Prog.Respects R (answer rt input) :=
  .bind (.ensure _ _) fun _ => CommandExecutor.run_dbFree (resolveWait_dbFree input)

def answerCommand (rt : Runtime) (input : AnswerWaitInput) : CommandOptions where
  actorId := input.actorId.value
  operation := "durability-spike.wait.answer"
  idempotencyKey := input.idempotencyKey
  request := answerRequest input
  execute := resolveWait rt input

/-- An answer that returns replays, or resolves the wait over the reserved record
of its command. -/
theorem answer_eq_ok {input : AnswerWaitInput} {result : CommandResult}
    (h : answer rt input w = (.ok result, w')) :
    w' = { w with nextId := w.nextId + 1 } ∨ ∃ rows response w₁,
      resolveWait rt input
        { w with
          nextId := w.nextId + 1
          db := { w.db with idempotencyRecords := rows } } = (.ok response, w₁) ∧
      w' = { w₁ with
        db := CommandExecutor.committed (answerCommand rt input) response w₁.db } := by
  obtain ⟨_, w₀, hshape, hrun⟩ := Prog.bind_eq_ok.mp h
  obtain ⟨-, rfl⟩ := Prog.ensure_eq_ok.mp hshape
  exact CommandExecutor.run_eq_ok hrun

theorem answer_error_db {input : AnswerWaitInput} {e : Failure}
    (h : answer rt input w = (.error e, w')) : w'.db = w.db := by
  rw [answer, Op.ensure_bind] at h
  split at h
  · exact CommandExecutor.run_error_db h
  · cases h
    rfl

/-! ## Canceling -/

/-- The rows `cancelFixture` writes. -/
def canceled (companyId runId : Uuid) (now : Timestamp) (db : Db) : Db :=
  { db with
    humanWaits := Table.updateWhere
      (fun w => w.companyId = companyId ∧ w.runId = runId ∧ w.status = .opened)
      (canceledWait now) db.humanWaits
    tasks := Table.updateWhere
      (fun t => t.companyId = companyId ∧ t.runId = runId ∧ cancelable t.state)
      (canceledTask now) db.tasks
    runs := Table.updateWhere (isRun companyId runId) (canceledRun now) db.runs }

theorem cancelFixture_eq_ok {companyId runId : UuidText} {actorId : JsString}
    {correlationId : UuidText} {response : Json}
    (h : cancelFixture companyId runId actorId correlationId w = (.ok response, w')) :
    ∃ run sequence,
      w.db.runs.find? (isRun companyId.value runId.value) = some run ∧
      run.state.isTerminal = false ∧
      w' = DomainEvent.appended
        (cancelEvent companyId runId actorId correlationId run.state) sequence
        { w with db := canceled companyId.value runId.value w.now w.db } := by
  rw [cancelFixture, Op.transaction_eq_ok] at h
  obtain ⟨run, w₁, hrun, h₁⟩ := Prog.bind_eq_ok.mp h
  obtain ⟨hrun, rfl⟩ := lockRun_eq_ok hrun
  obtain ⟨_, w₂, hensure, hrest⟩ := Prog.bind_eq_ok.mp h₁
  obtain ⟨hactive, rfl⟩ := Prog.ensure_eq_ok.mp hensure
  rw [Op.now_bind, Op.exec_bind, Op.exec_bind, Op.exec_bind] at hrest
  obtain ⟨eventId, w₃, happend, hpure⟩ := Prog.bind_eq_ok.mp hrest
  obtain ⟨sequence, -, -, -, rfl⟩ := DomainEvent.append_eq_ok.mp happend
  obtain ⟨-, rfl⟩ := Prog.pure_eq_ok.mp hpure
  exact ⟨run, sequence, hrun, hactive, rfl⟩

theorem cancelFixture_keepsContext {R : World → World → Prop} [ViewOrder Db.context R]
    (companyId runId : UuidText) (actorId : JsString) (correlationId : UuidText) :
    Prog.Respects R (cancelFixture companyId runId actorId correlationId) :=
  .transact (.bind (.bind (.query _) fun _ => .require _ _) fun _ =>
    .bind (.ensure _ _) fun _ => .bind .now fun _ => .bind (.keepsContext fun _ => rfl) fun _ =>
    .bind (.keepsContext fun _ => rfl) fun _ =>
    .bind (.keepsContext (Db.context_updateRuns fun _ => by rfl)) fun _ =>
    .bind (DomainEvent.append_keepsContext _) fun _ => .pure _)

end Aico.DurableWait
