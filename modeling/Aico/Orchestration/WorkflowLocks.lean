import Aico.Foundation.LockOrder
import Aico.Common.Identifiers

/-!
# The row locks of the workflow transactions

The transactions that move a run, each as the row locks its statements ask for, in order.
What a statement finds is a parameter: the candidate of a claim, the rows an `UPDATE`
matches. A claimed task, its attempt and its run are never deleted. A row that a
transaction inserts is seen by no other one before the commit, so no lock stands for it,
and a plain `SELECT` locks nothing.

A transaction may end early, by a check that throws or by a fault: `reach` says how many
locks it comes to ask for.
-/

namespace Aico.WorkflowLocks

open RowLock

/-- Tables that the inserted rows refer to. Nothing here locks their rows otherwise. -/
inductive Parent
  | founders
  | companies
  | companyProfileVersions
  | goalVersions
  | contextSnapshots
deriving DecidableEq

/-- The rows of one run that its transactions lock. Attempts and effects are those of a
task. -/
inductive Row
  | idempotencyRecord (key : Uuid)
  | humanWait (id : Uuid)
  | task (id : Uuid)
  | taskAttempt (taskId id : Uuid)
  | modelInvocationEffect (taskId : Uuid)
  | run
  | runEventCounter
  | parent (table : Parent)
deriving DecidableEq

abbrev Lock := Request Row

/-! ## Statements -/

/-- `SELECT … FOR UPDATE`. -/
def forUpdate (rows : List Row) : List Lock :=
  rows.map fun row => { row := row, mode := .update }

def update (rows : List Row) : List Lock :=
  rows.map fun row => { row := row, mode := .noKeyUpdate }

def insert (parents : List Row) : List Lock :=
  parents.map fun row => { row := row, mode := .keyShare }

@[grind =] theorem mem_forUpdate {q : Lock} {rows : List Row} :
    q ∈ forUpdate rows ↔ q.row ∈ rows ∧ q.mode = .update ∧ q.skipLocked = false := by
  cases q
  simp [forUpdate, eq_comm]

@[grind =] theorem mem_update {q : Lock} {rows : List Row} :
    q ∈ update rows ↔ q.row ∈ rows ∧ q.mode = .noKeyUpdate ∧ q.skipLocked = false := by
  cases q
  simp [update, eq_comm]

@[grind =] theorem mem_insert {q : Lock} {rows : List Row} :
    q ∈ insert rows ↔ q.row ∈ rows ∧ q.mode = .keyShare ∧ q.skipLocked = false := by
  cases q
  simp [insert, eq_comm]

/-- `DomainEventService.append`; the outbox row refers to the event, which is new. -/
def append : List Lock :=
  forUpdate [.runEventCounter] ++ update [.runEventCounter] ++
    insert [.parent .companies, .run]

/-! ## The worker -/

/-- The task that `claimTask` picks, its attempts that are `RUNNING`, whether the effect
is new and whether the run is a `DRAFT`. -/
structure ClaimCandidate where
  id : Uuid
  running : List Uuid
  newEffect : Bool
  draft : Bool
deriving DecidableEq

/-- `claimTask`: `FOR UPDATE OF t SKIP LOCKED`, then `policy_decisions`, `task_attempts`
and `model_invocation_effects` are inserted. -/
def claimTask : Option ClaimCandidate → List Lock
  | none => []
  | some candidate =>
      [{ row := .task candidate.id, mode := .update, skipLocked := true }] ++
        update [.task candidate.id] ++
        update (candidate.running.map (.taskAttempt candidate.id)) ++
        insert [.run] ++ insert [.task candidate.id] ++
        (if candidate.newEffect then insert [.task candidate.id] else []) ++
        (if candidate.draft then update [.run] else []) ++ append

/-- What the later transactions of a claim find: whether the lease is still current, the
attempt and the effect while they are `RUNNING`, and whether the run may be blocked. -/
structure Settlement where
  taskId : Uuid
  current : Bool
  attempt : Option Uuid
  effect : Bool
  blockable : Bool
deriving DecidableEq

/-- The task and its run, `FOR UPDATE OF t, r`. -/
def Settlement.lock (s : Settlement) : List Lock := forUpdate [.task s.taskId, .run]

def Settlement.updateAttempt (s : Settlement) : List Lock :=
  update (s.attempt.toList.map (.taskAttempt s.taskId))

def Settlement.updateEffect (s : Settlement) : List Lock :=
  if s.effect then update [.modelInvocationEffect s.taskId] else []

/-- The task is blocked, and its run unless it has ended or is to be canceled. -/
def Settlement.block (s : Settlement) : List Lock :=
  update [.task s.taskId] ++ (if s.blockable then update [.run] else []) ++ append

def completeTask (s : Settlement) : List Lock :=
  s.lock ++
    if s.current then
      insert [.run] ++ insert [.run] ++ s.updateAttempt ++ s.updateEffect ++
        update [.task s.taskId] ++ update [.run] ++ append
    else s.updateAttempt ++ s.updateEffect

def failTask (s : Settlement) : List Lock :=
  s.lock ++ s.updateAttempt ++ s.updateEffect ++ if s.current then s.block else []

def blockUnknownModelOutcome (s : Settlement) : List Lock :=
  s.lock ++ s.updateAttempt ++ if s.current then s.block else []

/-! ## The founder -/

def openWait (taskId : Uuid) : List Lock :=
  forUpdate [.run] ++ forUpdate [.task taskId] ++ update [.task taskId] ++ update [.run] ++
    insert [.run, .parent .contextSnapshots, .task taskId] ++ append

/-- `answer`, inside the command executor. -/
def answer (idempotencyKey waitId taskId : Uuid) : List Lock :=
  insert [.parent .founders] ++ forUpdate [.idempotencyRecord idempotencyKey] ++
    forUpdate [.humanWait waitId] ++ forUpdate [.run] ++ forUpdate [.task taskId] ++
    insert [.humanWait waitId, .parent .companies] ++
    insert [.parent .companies, .parent .companyProfileVersions, .parent .goalVersions] ++
    update [.task taskId] ++ update [.run] ++ append ++ update [.humanWait waitId] ++
    insert [.task taskId] ++ update [.idempotencyRecord idempotencyKey]

/-- `cancelFixture`: the waits of the run that are open and the tasks that have not ended,
in the order the statements meet them. -/
def cancelFixture (waitIds taskIds : List Uuid) : List Lock :=
  forUpdate [.run] ++ update (waitIds.map .humanWait) ++ update (taskIds.map .task) ++
    update [.run] ++ append

/-! ## Transactions -/

/-- The transactions of a run, with what their statements find. -/
inductive Workflow
  | claimTask (candidate : Option ClaimCandidate)
  | completeTask (s : Settlement)
  | failTask (s : Settlement)
  | blockUnknownModelOutcome (s : Settlement)
  | openWait (taskId : Uuid)
  | answer (idempotencyKey waitId taskId : Uuid)
  | cancelFixture (waitIds taskIds : List Uuid)
deriving DecidableEq

def Workflow.locks : Workflow → List Lock
  | .claimTask candidate => WorkflowLocks.claimTask candidate
  | .completeTask s => WorkflowLocks.completeTask s
  | .failTask s => WorkflowLocks.failTask s
  | .blockUnknownModelOutcome s => WorkflowLocks.blockUnknownModelOutcome s
  | .openWait taskId => WorkflowLocks.openWait taskId
  | .answer key waitId taskId => WorkflowLocks.answer key waitId taskId
  | .cancelFixture waitIds taskIds => WorkflowLocks.cancelFixture waitIds taskIds

/-- The worker, the founder's commands on a wait, and the cancellation of the run. -/
inductive Side
  | worker
  | founder
  | cancellation
deriving DecidableEq

def Workflow.side : Workflow → Side
  | .claimTask _ | .completeTask _ | .failTask _ | .blockUnknownModelOutcome _ => .worker
  | .openWait _ | .answer .. => .founder
  | .cancelFixture .. => .cancellation

/-- A transaction that comes to ask for the first `reach` of its locks. -/
structure Transaction where
  workflow : Workflow
  reach : ℕ
deriving DecidableEq

def Transaction.script (x : Transaction) : List Lock := x.workflow.locks.take x.reach

/-- It comes to ask for a lock on the row. -/
def Transaction.Locks (x : Transaction) (row : Row) : Prop := ∃ q ∈ x.script, q.row = row

/-- The worker's `x` locks a task on its way to the run that `y` locks after the run, or an
answer does so with a wait that a cancellation closes. -/
def Crosses (x y : Transaction) : Prop :=
  (x.workflow.side = .worker ∧ y.workflow.side ≠ .worker ∧ x.Locks .run ∧
    ∃ taskId, x.Locks (.task taskId) ∧ y.Locks (.task taskId)) ∨
  (x.workflow.side = .founder ∧ y.workflow.side = .cancellation ∧ x.Locks .run ∧
    ∃ waitId, x.Locks (.humanWait waitId) ∧ y.Locks (.humanWait waitId))

end Aico.WorkflowLocks
