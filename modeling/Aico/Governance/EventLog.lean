import Aico.Foundation.Locks
import Aico.Foundation.ReadCommitted
import Aico.Foundation.Transition
import Aico.Governance.DomainEvent

/-!
# Transactions that append events

`DomainEvent.append` as the database sees it: one statement after the other, inside
transactions that overlap. A transaction starts runs and appends events, as often as
it likes, and then commits or rolls back; a statement may fail, after which only a
rollback is left. What else it writes does not touch these tables.

The first statement of `append` locks the counter of the run to the end of the
transaction, so a second transaction waits there. The insert of an event would also
wait for an uncommitted event with the same number; there never is one, since the
number was read under the lock.
-/

namespace Aico

/-- What a statement writes. -/
inductive LogWrite where
  | run (row : RunRow)
  | bump (options : AppendEventOptions)
  | event (row : EventRow)
  | message (row : OutboxMessageRow)

/-- The effect of the statement; a run is inserted with its counter. -/
def LogWrite.apply (db : Db) : LogWrite → Db
  | run row =>
      { db with
        runs := db.runs ++ [row]
        runEventCounters := db.runEventCounters ++
          [{ companyId := row.companyId, runId := row.id, nextSequence := 1 }] }
  | bump options =>
      { db with runEventCounters := DomainEvent.bumpCounter options db.runEventCounters }
  | event row => { db with events := db.events ++ [row] }
  | message row => { db with outboxMessages := db.outboxMessages ++ [row] }

/-- Where a transaction stands: outside `append`, after one of its first three
statements, or after a statement that failed. -/
inductive AppendPlace where
  | ready
  | selected (options : AppendEventOptions) (eventId : Uuid) (sequence : Option ℕ)
  | counted (options : AppendEventOptions) (eventId : Uuid) (sequence : Option ℕ)
  | inserted (options : AppendEventOptions) (eventId : Uuid) (sequence : Option ℕ)
      (occurredAt : Timestamp)
  | aborted

/-- A transaction that has not ended. -/
structure EventTx where
  writes : List LogWrite
  place : AppendPlace

/-- The committed world, the locks on the counters, and the open transactions. -/
structure EventLog where
  world : World
  locks : Uuid → Option ℕ
  txs : ℕ → Option EventTx

/-- What can happen next. The transactions are numbered. -/
inductive LogAction where
  | tick (elapsed : ℕ)
  | begin (i : ℕ)
  | insertRun (i : ℕ) (row : RunRow)
  | selectCounter (i : ℕ) (options : AppendEventOptions)
  | updateCounter (i : ℕ)
  | insertEvent (i : ℕ)
  | insertMessage (i : ℕ)
  | fails (i : ℕ)
  | commit (i : ℕ)
  | rollback (i : ℕ)

namespace EventLog

/-- The tables as a transaction with these writes sees them. -/
def view (s : EventLog) (writes : List LogWrite) : Db :=
  ReadCommitted.view LogWrite.apply s.world.db writes

def put (s : EventLog) (i : ℕ) (tx : EventTx) : EventLog :=
  { s with txs := Function.update s.txs i (some tx) }

def drawn (s : EventLog) : EventLog :=
  { s with world := { s.world with nextId := s.world.nextId + 1 } }

def lock (s : EventLog) (i : ℕ) (runId : Uuid) : EventLog :=
  { s with locks := Locks.acquire s.locks runId i }

def close (s : EventLog) (i : ℕ) : EventLog :=
  { s with
    locks := Locks.release s.locks i
    txs := Function.update s.txs i none }

/-- Whether the counter of the options is free for the transaction; an event of the
company needs none. -/
def mayLock (s : EventLog) (i : ℕ) (options : AppendEventOptions) : Bool :=
  options.runId.all fun runId => Locks.Free s.locks runId.value i

def lockCounter (s : EventLog) (i : ℕ) (options : AppendEventOptions) : EventLog :=
  options.runId.elim s fun runId => s.lock i runId.value

/-- The step of the system. An action that is not enabled, because another
transaction holds the lock or the transaction stands elsewhere, does nothing. A
counter that is missing is a `TypeError` of the program, which the transaction
survives. -/
def step (s : EventLog) : LogAction → EventLog
  | .tick elapsed => { s with world := { s.world with now := s.world.now + elapsed } }
  | .begin i =>
      match s.txs i with
      | none => s.put i { writes := [], place := .ready }
      | some _ => s
  | .insertRun i row =>
      match s.txs i with
      | some ⟨writes, .ready⟩ =>
          if (s.view writes).runs.any fun r => r.id = row.id then s.put i ⟨writes, .aborted⟩
          else if Locks.Free s.locks row.id i then
            (s.put i ⟨writes ++ [.run row], .ready⟩).lock i row.id
          else s
      | _ => s
  | .selectCounter i options =>
      match s.txs i with
      | some ⟨writes, .ready⟩ =>
          match DomainEvent.allocated options (s.view writes).runEventCounters with
          | .error _ => s.drawn
          | .ok sequence =>
              if s.mayLock i options then
                ((s.put i ⟨writes, .selected options s.world.nextId sequence⟩).lockCounter i
                  options).drawn
              else s
      | _ => s
  | .updateCounter i =>
      match s.txs i with
      | some ⟨writes, .selected options eventId sequence⟩ =>
          s.put i ⟨writes ++ [.bump options], .counted options eventId sequence⟩
      | _ => s
  | .insertEvent i =>
      match s.txs i with
      | some ⟨writes, .counted options eventId sequence⟩ =>
          let row := DomainEvent.eventRow options eventId sequence s.world.now
          if DomainEvent.sequenceTaken row (s.view writes).events then
            s.put i ⟨writes, .aborted⟩
          else
            s.put i ⟨writes ++ [.event row],
              .inserted options eventId sequence s.world.now⟩
      | _ => s
  | .insertMessage i =>
      match s.txs i with
      | some ⟨writes, .inserted options eventId sequence occurredAt⟩ =>
          (s.put i ⟨writes ++ [.message (DomainEvent.outboxMessageRow options s.world.nextId
            eventId sequence occurredAt)], .ready⟩).drawn
      | _ => s
  | .fails i =>
      match s.txs i with
      | some tx => s.put i ⟨tx.writes, .aborted⟩
      | none => s
  | .commit i =>
      match s.txs i with
      | some ⟨writes, .ready⟩ =>
          { s with world := { s.world with db := s.view writes } }.close i
      | _ => s
  | .rollback i =>
      match s.txs i with
      | some _ => s.close i
      | none => s

def after (s : EventLog) (acts : List LogAction) : EventLog := Transition.run step s acts

/-! ## One append alone -/

section

variable (s : EventLog) (i : ℕ) (tx : EventTx) (options : AppendEventOptions)

@[simp] theorem world_put : (s.put i tx).world = s.world := rfl

@[simp] theorem txs_put_self : (s.put i tx).txs i = some tx := Function.update_self ..

@[simp] theorem world_drawn :
    s.drawn.world = { s.world with nextId := s.world.nextId + 1 } := rfl

@[simp] theorem txs_drawn : s.drawn.txs = s.txs := rfl

@[simp] theorem world_lockCounter : (s.lockCounter i options).world = s.world := by
  unfold lockCounter
  cases options.runId <;> rfl

@[simp] theorem txs_lockCounter : (s.lockCounter i options).txs = s.txs := by
  unfold lockCounter
  cases options.runId <;> rfl

theorem view_concat (writes : List LogWrite) (w : LogWrite) :
    s.view (writes ++ [w]) = w.apply (s.view writes) :=
  ReadCommitted.view_concat LogWrite.apply s.world.db writes w

end

/-- The four statements in a row do to what the transaction sees what `append` does to
the world. -/
theorem after_append {s : EventLog} {i : ℕ} {writes : List LogWrite}
    {options : AppendEventOptions} {eventId : Uuid} {w : World}
    (htx : s.txs i = some ⟨writes, .ready⟩) (hlock : s.mayLock i options = true)
    (h : DomainEvent.append options { s.world with db := s.view writes } = (.ok eventId, w)) :
    let s' := s.after [.selectCounter i options, .updateCounter i, .insertEvent i,
      .insertMessage i]
    ∃ writes', s'.txs i = some ⟨writes', .ready⟩ ∧
      { s'.world with db := s'.view writes' } = w := by
  obtain ⟨sequence, hallocated, hfree, -, rfl⟩ := DomainEvent.append_eq_ok.mp h
  set eventId := s.world.nextId
  set row := DomainEvent.eventRow options eventId sequence s.world.now
  set s₁ := ((s.put i ⟨writes, .selected options eventId sequence⟩).lockCounter i options).drawn
    with hs₁
  have hworld₁ : s₁.world = { s.world with nextId := eventId + 1 } := by simp [hs₁]; rfl
  have h₁ : s.step (.selectCounter i options) = s₁ := by
    rw [step, htx]
    dsimp only
    rw [hallocated]
    exact if_pos hlock
  set s₂ := s₁.put i ⟨writes ++ [.bump options], .counted options eventId sequence⟩ with hs₂
  have h₂ : s₁.step (.updateCounter i) = s₂ := by
    have htx₁ : s₁.txs i = some ⟨writes, .selected options eventId sequence⟩ := by simp [hs₁]
    rw [step, htx₁]
  set s₃ := s₂.put i ⟨writes ++ [.bump options] ++ [.event row],
    .inserted options eventId sequence s.world.now⟩ with hs₃
  have hview (writes : List LogWrite) : s₂.view writes = s.view writes := by
    rw [view, hs₂, world_put, hworld₁]
    rfl
  have h₃ : s₂.step (.insertEvent i) = s₃ := by
    have htx₂ : s₂.txs i = some ⟨_, .counted options eventId sequence⟩ := txs_put_self ..
    have hnow : s₂.world.now = s.world.now := by rw [hs₂, world_put, hworld₁]
    rw [step, htx₂]
    dsimp only
    rw [hnow, hview, view_concat]
    apply if_neg
    rw [Bool.not_eq_true]
    exact hfree
  set s₄ := (s₃.put i ⟨writes ++ [.bump options] ++ [.event row] ++
    [.message (DomainEvent.outboxMessageRow options s₃.world.nextId eventId sequence
      s.world.now)], .ready⟩).drawn with hs₄
  have h₄ : s₃.step (.insertMessage i) = s₄ := by
    have htx₃ : s₃.txs i = some ⟨_, .inserted options eventId sequence s.world.now⟩ :=
      txs_put_self ..
    rw [step, htx₃]
  have hafter : s.after [.selectCounter i options, .updateCounter i, .insertEvent i,
      .insertMessage i] = s₄ := by
    rw [after, Transition.run_cons, h₁, Transition.run_cons, h₂, Transition.run_cons, h₃,
      Transition.run_cons, h₄]
    rfl
  intro s'
  refine ⟨_, (congrArg (fun s => s.txs i) hafter).trans (txs_put_self s₃ i _), ?_⟩
  have hworld₃ : s₃.world = { s.world with nextId := eventId + 1 } := hworld₁
  have hs' : s' = s₄ := hafter
  rw [hs', view_concat, view_concat, view_concat, view, hs₄, world_drawn, world_put, hworld₃]
  rfl

end EventLog

/-- A world without runs and events: every other table is arbitrary. -/
structure InitialLog where
  world : World
  runs : world.db.runs = []
  runEventCounters : world.db.runEventCounters = []
  events : world.db.events = []
  outboxMessages : world.db.outboxMessages = []

/-- No transaction is open. -/
def InitialLog.log (init : InitialLog) : EventLog where
  world := init.world
  locks := fun _ => none
  txs := fun _ => none

end Aico
