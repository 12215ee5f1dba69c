import Aico.Workflow.System

/-!
# The life of one run

What the tables hold about one run is small: the run, at most one task, the
attempts and the effect of that task, what it published, the waits and answers,
the events. `Life` is that record, with the workers that hold a claim on the
run. `LifeStep` lists everything that can happen to it, one constructor for each
transition of the program, with the rows the transition writes.

`LifeStep.rest` and `LifeStep.move` are the steps that write nothing: something
happened to another run, or a worker moved without a transaction of effect.
-/

namespace Aico

@[ext] structure Life where
  run : RunRow
  task : Option TaskRow
  attempts : List TaskAttemptRow
  effect : Option ModelInvocationEffectRow
  artifacts : List ArtifactRow
  versions : List ArtifactVersionRow
  waits : List HumanWaitRow
  answers : List ClarificationAnswerVersionRow
  events : List EventRow
  workers : ℕ → Pc
  calls : List ClaimedTask
  nextId : ℕ

namespace Life

/-! ## What the transitions write -/

def moved (l : Life) (w : ℕ) (pc : Pc) (nextId : ℕ) : Life :=
  { l with
    workers := Function.update l.workers w pc
    nextId := nextId }

def drawn (l : Life) (nextId : ℕ) : Life := { l with nextId := nextId }

def abandon (l : Life) (claim : ClaimedTask) (resultClass : String) (now : Timestamp) :
    Life :=
  { l with
    attempts := Table.updateWhere
      (fun a => a.companyId = claim.companyId ∧ a.id = claim.attemptId ∧
        a.status = .running)
      (Worker.abandoned resultClass now) l.attempts }

def unknownEffect (now : Timestamp) (e : ModelInvocationEffectRow) :
    ModelInvocationEffectRow :=
  if e.status = .running then { e with status := .unknown, completedAt := some now } else e

def markUnknown (l : Life) (now : Timestamp) : Life :=
  { l with effect := l.effect.map (unknownEffect now) }

def blockedRun (now : Timestamp) (r : RunRow) : RunRow :=
  { r with
    state := .blocked
    blockingReasonCode := some Worker.reconciliationRequired
    rowVersion := r.rowVersion + 1
    updatedAt := now }

def block (l : Life) (t : TaskRow) (bump : ℕ) (now : Timestamp) (event : EventRow) :
    Life :=
  { l with
    run := blockedRun now l.run
    task := some (Worker.blockedTask bump now t)
    events := l.events ++ [event] }

def claim (l : Life) (config : WorkerConfig) (t : TaskRow) (claim : ClaimedTask)
    (policyDecisionId : Uuid) (now : Timestamp) (event : EventRow) : Life :=
  { l with
    run := if l.run.state = .draft then Worker.qualifying now l.run else l.run
    task := some (Worker.leased config claim.leaseToken now t)
    attempts := Table.updateWhere
        (fun a => a.companyId = claim.companyId ∧ a.taskId = claim.id ∧
          a.status = .running)
        (Worker.abandoned "LEASE_EXPIRED" now) l.attempts ++
      [Worker.attemptRow claim policyDecisionId]
    effect := some (l.effect.getD (Worker.effectRow claim))
    events := l.events ++ [event] }

def failedAttempt (now : Timestamp) (a : TaskAttemptRow) : TaskAttemptRow :=
  { a with
    status := .failed
    resultClass := some "UNKNOWN_EXTERNAL_OUTCOME"
    completedAt := some now }

def failAttempt (l : Life) (claim : ClaimedTask) (now : Timestamp) : Life :=
  { l with
    attempts := Table.updateWhere
      (fun a => a.companyId = claim.companyId ∧ a.id = claim.attemptId ∧
        a.status = .running)
      (failedAttempt now) l.attempts }

def publishedArtifact (claim : ClaimedTask) (artifactId artifactVersionId : Uuid)
    (now : Timestamp) : ArtifactRow :=
  { Worker.artifactRow claim artifactId now with
    currentVersionId := some artifactVersionId
    updatedAt := now }

def publish (l : Life) (rt : Runtime) (claim : ClaimedTask) (t : TaskRow)
    (result : ModelResult) (artifactId artifactVersionId : Uuid) (now : Timestamp)
    (event : EventRow) : Life :=
  { l with
    run := Worker.awaitingBriefApproval now l.run
    task := some (Worker.succeededTask now t)
    attempts := Table.updateWhere
      (fun a => a.companyId = claim.companyId ∧ a.id = claim.attemptId)
      (Worker.succeededAttempt artifactVersionId result now) l.attempts
    effect := l.effect.map fun e =>
      if e.status = .running then Worker.succeededEffect rt result now e else e
    artifacts := l.artifacts ++ [publishedArtifact claim artifactId artifactVersionId now]
    versions := l.versions ++
      [Worker.artifactVersionRow rt claim result artifactId artifactVersionId]
    events := l.events ++ [event] }

def openWait (l : Life) (t : TaskRow) (wait : HumanWaitRow) (now : Timestamp)
    (event : EventRow) : Life :=
  { l with
    run := DurableWait.awaitingRun now l.run
    task := some (DurableWait.awaitingTask now t)
    waits := l.waits ++ [wait]
    events := l.events ++ [event] }

def answer (l : Life) (t : TaskRow) (wait : HumanWaitRow) (snapshot : ContextSnapshotRow)
    (input : AnswerWaitInput) (answerRow : ClarificationAnswerVersionRow)
    (now : Timestamp) (event : EventRow) : Life :=
  { l with
    run := DurableWait.resumedRun wait snapshot now l.run
    task := some (DurableWait.readyTask wait snapshot now t)
    waits := Table.updateWhere (fun w => w.id = wait.id ∧ w.status = .opened)
      (DurableWait.resolvedWait input event.id now) l.waits
    answers := l.answers ++ [answerRow]
    events := l.events ++ [event] }

def cancel (l : Life) (now : Timestamp) (event : EventRow) : Life :=
  { l with
    run := DurableWait.canceledRun now l.run
    task := l.task.map fun t =>
      if DurableWait.cancelable t.state then DurableWait.canceledTask now t else t
    waits := Table.updateWhere (fun w => w.status = .opened)
      (DurableWait.canceledWait now) l.waits
    events := l.events ++ [event] }

theorem state_ne_blocked_of_cancel {l : Life} {now : Timestamp} {event : EventRow} {t' : TaskRow}
    (ht' : (l.cancel now event).task = some t') : t'.state ≠ .blocked := by
  obtain ⟨t, ht, rfl⟩ := Option.map_eq_some_iff.mp ht'
  by_cases hcancelable : DurableWait.cancelable t.state
  · rw [if_pos hcancelable]
    simp [DurableWait.canceledTask]
  · rw [if_neg hcancelable]
    intro hs
    rw [hs] at hcancelable
    exact hcancelable rfl

end Life

def IsEventOf (options : AppendEventOptions) (event : EventRow) : Prop :=
  ∃ eventId sequence occurredAt,
    event = DomainEvent.eventRow options eventId sequence occurredAt

def Life.Held (l : Life) (claim : ClaimedTask) (t : TaskRow) : Prop :=
  l.task = some t ∧ Worker.stale claim (some (t, l.run)) = false

/-- The claim does not hold the lease any more. -/
def Life.Stale (l : Life) (claim : ClaimedTask) : Prop :=
  Worker.stale claim (l.task.map fun t => (t, l.run)) = true

/-- The worker `w`, standing at `pc`, goes away and writes nothing. -/
def Action.Drops (act : Action) (w : ℕ) (pc : Pc) : Prop :=
  act = .crash w ∨ (act = .throws w ∧ pc.thrown.live = false)

/-- Everything that can happen to a run. -/
inductive LifeStep (rt : Runtime) : Action → Life → Life → Prop
  | rest (act : Action) (l : Life) (n : ℕ) (hn : l.nextId ≤ n) :
      LifeStep rt act l (l.drawn n)
  | move (act : Action) (l : Life) (w : ℕ) (pc : Pc) (n : ℕ) (hn : l.nextId ≤ n)
      (hclaim : ∀ c, pc.claim = some c → (l.workers w).claim = some c)
      (hinvoked : pc.invoked = true → (l.workers w).invoked = true)
      (hpending : pc.pending = false)
      (hunknown : ∀ c, pc ≠ .outcomeUnknown c)
      (hlive : (l.workers w).live = true → pc.live = true ∨ act.Drops w (l.workers w) ∨
        ∃ c t, l.Held c t) :
      LifeStep rt act l (l.moved w pc n)
  | claim (w : ℕ) (config : WorkerConfig) (runId : Option Uuid) (locked : List Uuid)
      (l : Life) (t : TaskRow) (leaseToken attemptId policyDecisionId : Uuid)
      (now : Timestamp) (event : EventRow) (n : ℕ)
      (hpc : l.workers w = .idle) (htask : l.task = some t)
      (hclaimable : Worker.claimable now runId t l.run = true)
      (hleaseToken : l.nextId ≤ leaseToken ∧ leaseToken < n)
      (hattemptId : l.nextId ≤ attemptId ∧ attemptId < n)
      (hevent : IsEventOf (Worker.taskStartedEvent config
        (Worker.claimOf rt t l.run leaseToken attemptId)) event) :
      LifeStep rt (.claimTask w config runId locked) l
        ((l.claim config t (Worker.claimOf rt t l.run leaseToken attemptId)
          policyDecisionId now event).moved w
            (.claimed (Worker.claimOf rt t l.run leaseToken attemptId)) n)
  | begin (w : ℕ) (l : Life) (claim : ClaimedTask) (context : ContextRow)
      (e : ModelInvocationEffectRow) (n : ℕ) (hn : l.nextId ≤ n)
      (hpc : l.workers w = .leaseChecked claim context)
      (heffect : l.effect = some e) (hbegin : Worker.canBegin e = true) :
      LifeStep rt (.beginModelInvocation w) l
        ({ l with effect := some { e with invocationCount := 1 } }.moved w
          (.begun claim context) n)
  | refuse (w : ℕ) (l : Life) (claim : ClaimedTask) (context : ContextRow)
      (n : ℕ) (hn : l.nextId ≤ n) (hpc : l.workers w = .leaseChecked claim context)
      (hrefuse : ∀ e, l.effect = some e → Worker.canBegin e = false) :
      LifeStep rt (.beginModelInvocation w) l (l.moved w (.outcomeUnknown claim) n)
  | invoke (w : ℕ) (l : Life) (claim : ClaimedTask) (context : ContextRow)
      (hpc : l.workers w = .begun claim context) :
      LifeStep rt (.invoke w) l
        ({ l with calls := claim :: l.calls }.moved w (.invoking claim) l.nextId)
  | abandon (act : Action) (w : ℕ) (l : Life) (claim : ClaimedTask)
      (resultClass : String) (now : Timestamp) (n : ℕ) (hn : l.nextId ≤ n)
      (hpc : (l.workers w).claim = some claim) (hlive : (l.workers w).live = false) :
      LifeStep rt act l ((l.abandon claim resultClass now).moved w (.returning claim) n)
  | block (w : ℕ) (l : Life) (claim : ClaimedTask) (t : TaskRow) (now : Timestamp)
      (event : EventRow) (n : ℕ) (hn : l.nextId ≤ n)
      (hpc : l.workers w = .outcomeUnknown claim) (hheld : l.Held claim t)
      (hevent : IsEventOf (Worker.reconciliationEvent claim) event) :
      LifeStep rt (.blockUnknownModelOutcome w) l
        (((l.abandon claim "UNKNOWN_EXTERNAL_OUTCOME" now).block t 1 now event).moved w
          (.returning claim) n)
  | staleComplete (w : ℕ) (l : Life) (claim : ClaimedTask) (result : ModelResult)
      (now : Timestamp) (n : ℕ) (hn : l.nextId ≤ n)
      (hpc : l.workers w = .answered claim result) (hstale : l.Stale claim) :
      LifeStep rt (.completeTask w) l
        (((l.abandon claim "STALE_COMPLETION" now).markUnknown now).moved w
          (.returning claim) n)
  | complete (w : ℕ) (l : Life) (claim : ClaimedTask) (result : ModelResult)
      (t : TaskRow) (artifactId artifactVersionId : Uuid) (now : Timestamp)
      (event : EventRow) (n : ℕ) (hn : l.nextId ≤ n)
      (hpc : l.workers w = .answered claim result) (hheld : l.Held claim t)
      (hevent : IsEventOf (Worker.publishedEvent claim artifactId artifactVersionId)
        event) :
      LifeStep rt (.completeTask w) l
        ((l.publish rt claim t result artifactId artifactVersionId now event).moved w
          (.returning claim) n)
  | staleFail (w : ℕ) (l : Life) (claim : ClaimedTask) (now : Timestamp) (n : ℕ)
      (hn : l.nextId ≤ n) (hpc : ∃ begun, l.workers w = .failing claim begun)
      (hstale : l.Stale claim) :
      LifeStep rt (.failTask w) l
        (((l.abandon claim "STALE_FAILURE" now).markUnknown now).moved w .idle n)
  | fail (w : ℕ) (l : Life) (claim : ClaimedTask) (t : TaskRow) (now : Timestamp)
      (event : EventRow) (n : ℕ) (hn : l.nextId ≤ n)
      (hpc : ∃ begun, l.workers w = .failing claim begun) (hheld : l.Held claim t)
      (hevent : IsEventOf (Worker.reconciliationEvent claim) event) :
      LifeStep rt (.failTask w) l
        ((((l.failAttempt claim now).markUnknown now).block t 0 now event).moved w .idle n)
  | openWait (input : OpenWaitInput) (l : Life) (t : TaskRow)
      (waitId requestId : Uuid) (now : Timestamp) (event : EventRow) (n : ℕ)
      (hwaitId : l.nextId ≤ waitId ∧ waitId < n) (htask : l.task = some t)
      (hcompany : input.companyId.value = l.run.companyId)
      (hrun : input.runId.value = l.run.id) (htaskId : input.taskId.value = t.id)
      (hversion : l.run.rowVersion = input.expectedRunVersion)
      (hdraft : l.run.state = .draft)
      (hready : t.state = .queued ∨ t.state = .ready) (hlease : t.leaseToken = none)
      (hevent : IsEventOf (DurableWait.inputRequestedEvent input
        (DurableWait.humanWaitRow input l.run waitId requestId now)) event) :
      LifeStep rt (.openWait input) l
        ((l.openWait t (DurableWait.humanWaitRow input l.run waitId requestId now) now
          event).drawn n)
  | answer (input : AnswerWaitInput) (l : Life) (t : TaskRow) (wait : HumanWaitRow)
      (source : ContextSnapshotRow) (answerVersionId resumedContextSnapshotId : Uuid)
      (now : Timestamp) (event : EventRow) (n : ℕ) (hn : l.nextId ≤ n)
      (htask : l.task = some t) (hwait : wait ∈ l.waits)
      (hwaitId : input.waitId.value = wait.id)
      (hanswerable : DurableWait.answerable input wait l.run t = true)
      (hunanswered : ∀ a ∈ l.answers, a.waitId ≠ wait.id)
      (hevent : IsEventOf (DurableWait.inputResolvedEvent input wait answerVersionId
        resumedContextSnapshotId) event) :
      LifeStep rt (.answer input) l
        ((l.answer t wait
          (DurableWait.resumedSnapshotRow input source resumedContextSnapshotId
            answerVersionId now) input
          (DurableWait.answerVersionRow rt input wait answerVersionId now) now
          event).drawn n)
  | cancel (companyId runId : UuidText) (actorId : JsString) (correlationId : UuidText)
      (l : Life) (now : Timestamp) (event : EventRow) (n : ℕ) (hn : l.nextId ≤ n)
      (hactive : l.run.state.isTerminal = false)
      (hevent : IsEventOf (DurableWait.cancelEvent companyId runId actorId correlationId
        l.run.state) event) :
      LifeStep rt (.cancelFixture companyId runId actorId correlationId) l
        ((l.cancel now event).drawn n)

end Aico
