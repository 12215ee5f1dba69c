import Aico.Orchestration.LockCycles
import Mathlib.Data.Fin.VecNotation

/-!
# Crossing transactions deadlock

Where two transactions cross, each of them can take the row that the other one asks for
next, whatever else runs. So a set of transactions can deadlock exactly if two of them
cross.
-/

namespace Aico.WorkflowLocks

open RowLock

/-! ## The moment before the second row -/

/-- A transaction that comes to lock the row stands once before its first lock on it. -/
theorem prefix_take {pre rest : List Lock} {q : Lock} {row : Row} {n : ℕ}
    (hpre : ∀ p ∈ pre, p.row ≠ row) (h : ∃ p ∈ (pre ++ q :: rest).take n, p.row = row) :
    pre ++ [q] <+: (pre ++ q :: rest).take n := by
  rw [List.take_append] at h ⊢
  cases hn : n - pre.length with
  | zero =>
      obtain ⟨p, hp, hrow⟩ := h
      rw [hn, List.take_zero, List.append_nil] at hp
      exact absurd hrow (hpre p (List.mem_of_mem_take hp))
  | succ k =>
      rw [List.take_of_length_le (by omega), List.take_succ_cons]
      exact ⟨rest.take k, by simp⟩

theorem Owns.blocks {A : List Lock} {q : Lock} (h : Owns A q.row) : ∃ p ∈ A, p.Blocks q := by
  obtain ⟨p, hp, hrow, hmode⟩ := h
  exact ⟨p, hp, hrow, by rw [hmode]; rfl⟩

/-- The transaction stands before its first lock on `second`. It owns `first`, and has
locked only rows that are `free`. -/
def Stands (x : Transaction) (first second : Row) (free : Row → Prop) : Prop :=
  ∃ A q, A ++ [q] <+: x.script ∧ q.row = second ∧ q.skipLocked = false ∧ Owns A first ∧
    ∀ p ∈ A, free p.row

variable {x y : Transaction} {taskId waitId : Uuid}

theorem eq_of_mem_answer {key answeredWait answeredTask : Uuid} {q : Lock}
    (h : q ∈ answer key answeredWait answeredTask) :
    (∀ taskId, q.row = .task taskId → taskId = answeredTask) ∧
      ∀ waitId, q.row = .humanWait waitId → waitId = answeredWait := by
  have hrow : q.row ∈ (answer key answeredWait answeredTask).map (·.row) :=
    List.mem_map_of_mem h
  refine ⟨fun taskId heq => ?_, fun waitId heq => ?_⟩
  all_goals
    rw [heq] at hrow
    simpa [answer, append, insert, update, forUpdate] using hrow

theorem stands_of_locks {first second : Row} {free : Row → Prop} {pre rest : List Lock} {q : Lock}
    (hlocks : x.workflow.locks = pre ++ q :: rest) (hrow : q.row = second)
    (hskip : q.skipLocked = false) (howns : Owns pre first)
    (hfree : ∀ p ∈ pre, p.row ≠ second ∧ free p.row) (h : x.Locks second) :
    Stands x first second free := by
  refine ⟨pre, q, ?_, hrow, hskip, howns, fun p hp => (hfree p hp).2⟩
  rw [Transaction.Locks, Transaction.script, hlocks] at h
  rw [Transaction.script, hlocks]
  exact prefix_take (fun p hp => (hfree p hp).1) h

theorem locks_of_script {row : Row} (h : x.Locks row) : ∃ q ∈ x.workflow.locks, q.row = row := by
  obtain ⟨q, hq, hrow⟩ := h
  exact ⟨q, List.mem_of_mem_take hq, hrow⟩

theorem stands_settlement {s : Settlement} {rest : List Lock}
    (hlocks : x.workflow.locks = s.lock ++ rest) (hrun : x.Locks .run) :
    Stands x (.task s.taskId) .run
      fun row => row = .task s.taskId ∨ ∃ id, row = .taskAttempt s.taskId id := by
  have hfirst : x.workflow.locks = forUpdate [.task s.taskId] ++
      { row := .run, mode := .update } :: rest := hlocks
  exact stands_of_locks hfirst rfl rfl (by simp) (by simp [forUpdate]) hrun

theorem eq_of_mem_claimTask {c : ClaimCandidate} {q : Lock} (h : q ∈ claimTask (some c))
    (hrow : q.row = .task taskId) : taskId = c.id := by
  grind [claimTask, append]

theorem Settlement.eq_of_mem_lock {s : Settlement} {q : Lock} (h : q ∈ s.lock)
    (hrow : q.row = .task taskId) : taskId = s.taskId := by
  grind [Settlement.lock]

theorem Settlement.ne_task_of_mem {s : Settlement} {q : Lock}
    (h : q ∈ s.updateAttempt ∨ q ∈ s.updateEffect) : q.row ≠ .task taskId := by
  grind [Settlement.updateAttempt, Settlement.updateEffect]

theorem Settlement.eq_of_mem_block {s : Settlement} {q : Lock} (h : q ∈ s.block)
    (hrow : q.row = .task taskId) : taskId = s.taskId := by
  grind [Settlement.block, append]

theorem eq_of_mem_settlement {s : Settlement} {q : Lock}
    (h : q ∈ completeTask s ∨ q ∈ failTask s ∨ q ∈ blockUnknownModelOutcome s)
    (hrow : q.row = .task taskId) : taskId = s.taskId := by
  have hrest : q ∈ s.updateAttempt ∨ q ∈ s.updateEffect → q.row ≠ .task taskId :=
    Settlement.ne_task_of_mem
  rcases h with h | h | h
  · grind [completeTask, append, Settlement.eq_of_mem_lock]
  · grind [failTask, Settlement.eq_of_mem_lock, Settlement.eq_of_mem_block]
  · grind [blockUnknownModelOutcome, Settlement.eq_of_mem_lock, Settlement.eq_of_mem_block]

/-- A transaction of the worker that comes to lock the run stands before it with its task. -/
theorem stands_worker (hside : x.workflow.side = .worker) (htask : x.Locks (.task taskId))
    (hrun : x.Locks .run) : Stands x (.task taskId) .run
      fun row => row = .task taskId ∨ ∃ id, row = .taskAttempt taskId id := by
  obtain ⟨q, hq, hrow⟩ := locks_of_script htask
  cases hworkflow : x.workflow with
  | openWait | answer | cancelFixture =>
      rw [hworkflow] at hside
      cases hside
  | claimTask candidate =>
      rw [hworkflow] at hq
      cases candidate with
      | none => cases hq
      | some c =>
          obtain rfl := eq_of_mem_claimTask hq hrow
          have hlocks : x.workflow.locks =
              ([{ row := .task c.id, mode := .update, skipLocked := true }] ++
                update [.task c.id] ++ update (c.running.map (.taskAttempt c.id))) ++
              { row := .run, mode := .keyShare } :: (insert [.task c.id] ++
                (if c.newEffect then insert [.task c.id] else []) ++
                (if c.draft then update [.run] else []) ++ append) := by
            rw [hworkflow]
            simp [Workflow.locks, claimTask, insert]
          refine stands_of_locks hlocks rfl rfl ?_ ?_ hrun
          · simp
          · simp [update, or_imp, forall_and]
  | completeTask s =>
      rw [hworkflow] at hq
      obtain rfl := eq_of_mem_settlement (.inl hq) hrow
      exact stands_settlement (by rw [hworkflow]; rfl) hrun
  | failTask s =>
      rw [hworkflow] at hq
      obtain rfl := eq_of_mem_settlement (.inr (.inl hq)) hrow
      exact stands_settlement (by rw [hworkflow]; rfl) hrun
  | blockUnknownModelOutcome s =>
      rw [hworkflow] at hq
      obtain rfl := eq_of_mem_settlement (.inr (.inr hq)) hrow
      exact stands_settlement (by rw [hworkflow]; rfl) hrun

/-- A transaction of the founder that comes to lock a task stands before it with the run. -/
theorem stands_founder (hside : x.workflow.side ≠ .worker) (htask : x.Locks (.task taskId)) :
    Stands x .run (.task taskId)
      fun row => row ≠ .task taskId ∧ ∀ id, row ≠ .taskAttempt taskId id := by
  obtain ⟨q, hq, hrow⟩ := locks_of_script htask
  cases hworkflow : x.workflow with
  | claimTask | completeTask | failTask | blockUnknownModelOutcome =>
      rw [hworkflow] at hside
      exact absurd rfl hside
  | openWait openId =>
      rw [hworkflow] at hq
      obtain rfl : taskId = openId := by grind [Workflow.locks, openWait, append]
      have hlocks : x.workflow.locks = forUpdate [.run] ++
          { row := .task taskId, mode := .update } :: (update [.task taskId] ++ update [.run] ++
            insert [.run, .parent .contextSnapshots, .task taskId] ++ append) := by
        rw [hworkflow]
        rfl
      exact stands_of_locks hlocks rfl rfl (by simp) (by simp [forUpdate]) htask
  | answer key waitId answeredId =>
      rw [hworkflow] at hq
      obtain rfl : taskId = answeredId := (eq_of_mem_answer hq).1 _ hrow
      have hlocks : x.workflow.locks = (insert [.parent .founders] ++
          forUpdate [.idempotencyRecord key, .humanWait waitId, .run]) ++
          { row := .task taskId, mode := .update } :: (insert [.humanWait waitId,
            .parent .companies, .parent .companies, .parent .companyProfileVersions,
            .parent .goalVersions] ++ update [.task taskId] ++ update [.run] ++ append ++
            update [.humanWait waitId] ++ insert [.task taskId] ++
            update [.idempotencyRecord key]) := by
        rw [hworkflow]
        rfl
      exact stands_of_locks hlocks rfl rfl (by simp) (by simp [insert, forUpdate]) htask
  | cancelFixture waitIds taskIds =>
      rw [hworkflow] at hq
      have hmem : taskId ∈ taskIds := by grind [Workflow.locks, cancelFixture, append]
      obtain ⟨before, rest, rfl, hfirst⟩ := List.eq_append_cons_of_mem hmem
      have hlocks : x.workflow.locks =
          (forUpdate [.run] ++ update (waitIds.map .humanWait) ++ update (before.map .task)) ++
          { row := .task taskId, mode := .noKeyUpdate } ::
            (update (rest.map .task) ++ update [.run] ++ append) := by
        rw [hworkflow]
        simp [Workflow.locks, cancelFixture, update]
      refine stands_of_locks hlocks rfl rfl (by simp) (fun p hp => ?_) htask
      grind

theorem stands_answer (hside : x.workflow.side = .founder) (hwait : x.Locks (.humanWait waitId))
    (hrun : x.Locks .run) : Stands x (.humanWait waitId) .run
      fun row => row ≠ .run ∧ ∀ id, id ≠ waitId → row ≠ .humanWait id := by
  obtain ⟨q, hq, hrow⟩ := locks_of_script hwait
  cases hworkflow : x.workflow with
  | claimTask | completeTask | failTask | blockUnknownModelOutcome | cancelFixture =>
      rw [hworkflow] at hside
      cases hside
  | openWait openId =>
      rw [hworkflow] at hq
      grind [Workflow.locks, openWait, append]
  | answer key answeredId taskId =>
      rw [hworkflow] at hq
      obtain rfl : waitId = answeredId := (eq_of_mem_answer hq).2 _ hrow
      have hlocks : x.workflow.locks =
          (insert [.parent .founders] ++ forUpdate [.idempotencyRecord key, .humanWait waitId]) ++
          { row := .run, mode := .update } :: (forUpdate [.task taskId] ++ insert [.humanWait waitId,
            .parent .companies, .parent .companies, .parent .companyProfileVersions,
            .parent .goalVersions] ++ update [.task taskId] ++ update [.run] ++ append ++
            update [.humanWait waitId] ++ insert [.task taskId] ++
            update [.idempotencyRecord key]) := by
        rw [hworkflow]
        rfl
      refine stands_of_locks hlocks rfl rfl (by simp) (fun p hp => ?_) hrun
      grind

theorem stands_cancellation (hside : x.workflow.side = .cancellation)
    (hwait : x.Locks (.humanWait waitId)) : Stands x .run (.humanWait waitId)
      fun row => row = .run ∨ ∃ id, id ≠ waitId ∧ row = .humanWait id := by
  obtain ⟨q, hq, hrow⟩ := locks_of_script hwait
  cases hworkflow : x.workflow with
  | claimTask | completeTask | failTask | blockUnknownModelOutcome | openWait | answer =>
      rw [hworkflow] at hside
      cases hside
  | cancelFixture waitIds taskIds =>
      rw [hworkflow] at hq
      have hmem : waitId ∈ waitIds := by grind [Workflow.locks, cancelFixture, append]
      obtain ⟨before, rest, rfl, hfirst⟩ := List.eq_append_cons_of_mem hmem
      have hlocks : x.workflow.locks = (forUpdate [.run] ++ update (before.map .humanWait)) ++
          { row := .humanWait waitId, mode := .noKeyUpdate } ::
            (update (rest.map .humanWait) ++ update (taskIds.map .task) ++ update [.run] ++
              append) := by
        rw [hworkflow]
        simp [Workflow.locks, cancelFixture, update]
      refine stands_of_locks hlocks rfl rfl (by simp) (fun p hp => ?_) hwait
      grind

theorem deadlocked_of_stands {ι : Type*} [DecidableEq ι] [Fintype ι] {x : ι → Transaction}
    {i j : ι} (hij : i ≠ j) {row row' : Row} {free free' : Row → Prop}
    (hi : Stands (x i) row row' free) (hj : Stands (x j) row' row free')
    (hfree : ∀ row, free row → ¬ free' row) :
    ∃ acts, Deadlocked (Transition.run step (start fun i => (x i).script) acts) := by
  obtain ⟨A, q, hA, rfl, hskip, howns, hrows⟩ := hi
  obtain ⟨A', q', hA', rfl, hskip', howns', hrows'⟩ := hj
  refine deadlocked_of_crossing hij hA hA' ?_ hskip hskip' howns'.blocks howns.blocks
  intro p hp p' hp' hblocks
  have hfree' := hrows' p' hp'
  rw [← hblocks.1] at hfree'
  exact hfree p.row (hrows p hp) hfree'

theorem deadlocked_of_crosses {ι : Type*} [DecidableEq ι] [Fintype ι] {x : ι → Transaction}
    {i j : ι} (h : Crosses (x i) (x j)) :
    ∃ acts, Deadlocked (Transition.run step (start fun i => (x i).script) acts) := by
  rcases h with ⟨hi, hj, hrun, taskId, htask, htask'⟩ | ⟨hi, hj, hrun, waitId, hwait, hwait'⟩
  · have hij : i ≠ j := fun heq => hj (heq ▸ hi)
    refine deadlocked_of_stands hij (stands_worker hi htask hrun) (stands_founder hj htask') ?_
    rintro row (rfl | ⟨id, rfl⟩) ⟨htask, hattempt⟩
    · exact htask rfl
    · exact hattempt id rfl
  · have hij : i ≠ j := fun heq => by
      rw [heq, hj] at hi
      cases hi
    refine deadlocked_of_stands hij (stands_answer hi hwait hrun) (stands_cancellation hj hwait') ?_
    rintro row ⟨hne, hwait⟩ (rfl | ⟨id, hid, rfl⟩)
    · exact hne rfl
    · exact hwait id hid rfl

/-! ## Sets of transactions -/

/-- No interleaving of the transactions leads to a deadlock exactly if no two of them
cross. -/
theorem neverDeadlocked_iff {n : ℕ} (x : Fin n → Transaction) :
    (∀ acts, ¬ Deadlocked (Transition.run step (start fun i => (x i).script) acts)) ↔
      ∀ i j, ¬ Crosses (x i) (x j) := by
  constructor
  · intro h i j hcross
    obtain ⟨acts, hdead⟩ := deadlocked_of_crosses hcross
    exact h acts hdead
  · exact fun h acts => (ranked h).not_deadlocked acts

def canceledCompletion : Fin 2 → Transaction :=
  ![{ workflow := .completeTask
        { taskId := 1
          current := true
          attempt := some 2
          effect := true
          blockable := true }
      reach := 20 },
    { workflow := .cancelFixture [] [1]
      reach := 20 }]

/-- The worker has the task and waits for the run, the cancellation has the run and waits
for the task. -/
theorem neverDeadlocked_fails :
    ¬ ∀ (n : ℕ) (x : Fin n → Transaction) (acts : List (Action (Fin n))),
      ¬ Deadlocked (Transition.run step (start fun i => (x i).script) acts) := by
  intro h
  apply h 2 canceledCompletion [.proceed 0, .proceed 1]
  refine ⟨0, .tail (.single (b := 1) ?_) ?_⟩
  · decide
  · decide

end Aico.WorkflowLocks
