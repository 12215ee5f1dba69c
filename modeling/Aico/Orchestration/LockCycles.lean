import Aico.Orchestration.WorkflowLocks

/-!
# Deadlocks of the workflow transactions

The worker locks a task before its run, the founder's transactions lock the run before a
task, and an answer locks its wait before the run that a cancellation locks first. Two
transactions that meet on such a pair of rows can deadlock, and a set of transactions in
which no two meet so never does: `level` ranks what a transaction waits for.
-/

namespace Aico.WorkflowLocks

open RowLock

/-! ## What is asked, and after what -/

/-- What a transaction of the side waits for ranks above what it holds. -/
def level (side : Side) (q : Lock) : ℕ :=
  match q.row with
  | .idempotencyRecord _ => 0
  | .humanWait _ => if side = .cancellation then 4 else 1
  | .task _ => if side = .worker then 1 else 4
  | .run => if q.mode = .noKeyUpdate then 3 else 2
  | .runEventCounter => 6
  | .taskAttempt .. | .modelInvocationEffect _ | .parent _ => 7

def Row.shield : Row → Option Uuid
  | .taskAttempt taskId _ | .modelInvocationEffect taskId => some taskId
  | _ => none

def Owns (A : List Lock) (row : Row) : Prop := ∃ p ∈ A, p.row = row ∧ p.mode = .update

theorem Owns.mono {A A' : List Lock} {row : Row} (h : Owns A row) (hA : A ⊆ A') : Owns A' row := by
  obtain ⟨p, hp, hrow, hmode⟩ := h
  exact ⟨p, hA hp, hrow, hmode⟩

@[simp] theorem owns_append {A A' : List Lock} {row : Row} :
    Owns (A ++ A') row ↔ Owns A row ∨ Owns A' row := by
  simp [Owns, or_and_right, exists_or]

@[simp] theorem owns_forUpdate {rows : List Row} {row : Row} :
    Owns (forUpdate rows) row ↔ row ∈ rows := by
  simp [Owns, forUpdate]

@[simp] theorem owns_cons {p : Lock} {A : List Lock} {row : Row} :
    Owns (p :: A) row ↔ p.row = row ∧ p.mode = .update ∨ Owns A row := by
  simp [Owns]

theorem Owns.covered {A : List Lock} {q : Lock} (h : Owns A q.row) : Covered A q := by
  obtain ⟨p, hp, hrow, hmode⟩ := h
  exact covered_of_update hp hmode hrow

/-- No two transactions own a row. -/
theorem Owns.not_compatible {A A' : List Lock} {row : Row} (h : Owns A row) (h' : Owns A' row) :
    ¬ Compatible A A' := by
  obtain ⟨p, hp, hrow, hmode⟩ := h
  obtain ⟨p', hp', hrow', -⟩ := h'
  refine fun hcompat => hcompat p hp p' hp' ⟨hrow.trans hrow'.symm, ?_⟩
  rw [hmode]
  rfl

/-- The lock `q` that a transaction asks for after `A`. It owns the task of an attempt or
an effect. Where the lock is new, it ranks above the others, or the run is owned. -/
structure Ordered (side : Side) (A : List Lock) (q : Lock) : Prop where
  mode : q.mode ≠ .share
  parent : ∀ table, q.row = .parent table → q.mode = .keyShare
  shielded : ∀ taskId, q.row.shield = some taskId → Owns A (.task taskId)
  above : ¬ Covered A q → ∀ p ∈ A, level side p < level side q ∨
    level side p = 7 ∨ level side p = 4 ∧ level side q = 4
  owned : ¬ Covered A q → level side q = 4 → Owns A .run

/-- A row that two transactions may meet on. -/
def Row.exposed : Row → Bool
  | .taskAttempt .. | .modelInvocationEffect _ | .parent _ => false
  | _ => true

theorem Ordered.exposed {side : Side} {A : List Lock} {q : Lock} (hrow : q.row.exposed = true)
    (hmode : q.mode ≠ .share)
    (h : ¬ Covered A q →
      (∀ p ∈ A, level side p < level side q ∨ level side p = 7 ∨
        level side p = 4 ∧ level side q = 4) ∧
      (level side q = 4 → Owns A .run)) : Ordered side A q where
  mode := hmode
  parent table heq := by
    rw [heq] at hrow
    cases hrow
  shielded taskId hshield := by
    unfold Row.shield at hshield
    split at hshield
    · rw [‹q.row = _›] at hrow
      cases hrow
    · rw [‹q.row = _›] at hrow
      cases hrow
    · cases hshield
  above hnew := (h hnew).1
  owned hnew := (h hnew).2

/-- Asking for the row cannot make the transaction wait. -/
def Row.Quiet (A : List Lock) : Row → Prop
  | .parent _ => True
  | .taskAttempt taskId _ | .modelInvocationEffect taskId => Owns A (.task taskId)
  | row => Owns A row

theorem Row.Quiet.mono {A A' : List Lock} {row : Row} (h : row.Quiet A) (hA : A ⊆ A') :
    row.Quiet A' := by
  cases row with
  | parent table => trivial
  | _ => exact Owns.mono h hA

theorem level_le (side : Side) (q : Lock) : level side q ≤ 7 := by
  unfold level
  split <;> (try split) <;> omega

/-- Only the event counter ranks next to the last. -/
theorem lt_six_or {side : Side} {p : Lock} (h : p.row ≠ .runEventCounter) :
    level side p < 6 ∨ level side p = 7 := by
  unfold level
  split <;> (try split) <;> first | omega | exact absurd ‹_› h

theorem Ordered.of_quiet {side : Side} {A : List Lock} {q : Lock} (h : q.row.Quiet A)
    (hmode : q.mode ≠ .share) (hparent : ∀ table, q.row = .parent table → q.mode = .keyShare) :
    Ordered side A q := by
  obtain ⟨row, mode, skipLocked⟩ := q
  have hlast : ∀ side, level side ⟨row, mode, skipLocked⟩ = 7 ∨ Owns A row := by
    intro side
    cases row with
    | parent | taskAttempt | modelInvocationEffect => exact .inl rfl
    | _ => exact .inr h
  refine ⟨hmode, hparent, fun taskId hshield => ?_, fun hnew p _ => ?_, fun hnew hlevel => ?_⟩
  · cases row with
    | taskAttempt | modelInvocationEffect =>
        obtain rfl := Option.some.inj hshield
        exact h
    | _ => cases hshield
  · rcases hlast side with hseven | howns
    · rw [hseven]
      rcases (level_le side p).lt_or_eq with hlt | heq
      · exact .inl hlt
      · exact .inr (.inl heq)
    · exact absurd howns.covered hnew
  · rcases hlast side with hseven | howns
    · rw [hseven] at hlevel
      cases hlevel
    · exact absurd howns.covered hnew

def InOrder (side : Side) : List Lock → List Lock → Prop
  | _, [] => True
  | A, q :: l => Ordered side A q ∧ InOrder side (A ++ [q]) l

section InOrder

variable {side : Side} {A l l₁ l₂ : List Lock} {q : Lock} {rows : List Row}

theorem inOrder_append :
    InOrder side A (l₁ ++ l₂) ↔ InOrder side A l₁ ∧ InOrder side (A ++ l₁) l₂ := by
  induction l₁ generalizing A with
  | nil => simp [InOrder]
  | cons q l ih => simp [InOrder, ih, and_assoc]

theorem InOrder.asks (h : InOrder side [] l) (hq : A ++ [q] <+: l) : Ordered side A q := by
  obtain ⟨rest, rfl⟩ := hq
  exact (inOrder_append.mp (inOrder_append.mp h).1).2.1

theorem InOrder.of_forall
    (h : ∀ q ∈ l, ∀ A', A ⊆ A' → A' ⊆ A ++ l → Ordered side A' q) : InOrder side A l := by
  induction l generalizing A with
  | nil => trivial
  | cons q l ih =>
      refine ⟨h q List.mem_cons_self A (List.Subset.refl A) (List.subset_append_left _ _), ?_⟩
      apply ih
      intro q' hq' A' hsub hsup
      rw [List.append_assoc] at hsup
      exact h q' (List.mem_cons_of_mem q hq') A' (List.Subset.trans (List.subset_append_left A [q]) hsub) hsup

theorem InOrder.of_quiet (h : ∀ q ∈ l, q.row.Quiet A ∧ q.mode ≠ .share ∧
    ∀ table, q.row = .parent table → q.mode = .keyShare) : InOrder side A l := by
  apply InOrder.of_forall
  intro q hq A' hsub _
  obtain ⟨hquiet, hmode, hparent⟩ := h q hq
  exact .of_quiet (hquiet.mono hsub) hmode hparent

theorem InOrder.update (h : ∀ row ∈ rows, row.Quiet A ∧ ∀ table, row ≠ .parent table) :
    InOrder side A (update rows) := by
  apply InOrder.of_quiet
  intro q hq
  obtain ⟨row, hrow, rfl⟩ := List.mem_map.mp hq
  exact ⟨(h row hrow).1, by simp, fun table heq => absurd heq ((h row hrow).2 table)⟩

theorem InOrder.insert (h : ∀ row ∈ rows, row.Quiet A) : InOrder side A (insert rows) := by
  apply InOrder.of_quiet
  intro q hq
  obtain ⟨row, hrow, rfl⟩ := List.mem_map.mp hq
  exact ⟨h row hrow, by simp, fun _ _ => rfl⟩

/-- Whoever holds the run may append its event at last. -/
theorem InOrder.append (hrun : ∃ p ∈ A, p.row = .run)
    (hlast : ∀ p ∈ A, p.row ≠ .runEventCounter) : InOrder side A append := by
  rw [WorkflowLocks.append, inOrder_append, inOrder_append]
  refine ⟨⟨⟨?_, trivial⟩, .update ?_⟩, ?_, ?_, trivial⟩
  · refine .exposed rfl (by simp) fun _ => ⟨fun p hp => ?_, fun heq => by cases heq⟩
    rcases lt_six_or (hlast p hp) with hlt | heq
    · exact .inl hlt
    · exact .inr (.inl heq)
  · intro row hrow
    rw [List.mem_singleton.mp hrow]
    exact ⟨⟨_, List.mem_append_right _ (List.mem_singleton_self _), rfl, rfl⟩, by simp⟩
  · exact .of_quiet trivial (by simp) fun _ _ => rfl
  · obtain ⟨p, hp, hprow⟩ := hrun
    refine .exposed rfl (by simp) fun hnew => absurd (covered_of_keyShare ?_ rfl hprow) hnew
    simp only [List.mem_append]
    exact .inl (.inl hp)

end InOrder

/-! ## The transactions ask in order -/

/-- After its task and its run, a transaction of the worker asks for rows of the task. -/
def Settlement.Settles (s : Settlement) (l : List Lock) : Prop :=
  ∀ q ∈ l, q.mode ≠ .share ∧
    (q.row = .task s.taskId ∨ q.row = .run ∨ q.row.shield = some s.taskId)

theorem Settlement.settle_inOrder {s : Settlement} {l : List Lock} (h : s.Settles l) :
    InOrder .worker [] (s.lock ++ l) := by
  rw [inOrder_append]
  refine ⟨⟨?_, ?_, trivial⟩, InOrder.of_quiet fun q hq => ?_⟩
  · exact .exposed rfl (by simp) fun _ => ⟨by simp, fun h => by cases h⟩
  · exact .exposed rfl (by simp) fun _ => ⟨by simp [level], fun h => by cases h⟩
  · obtain ⟨hmode, hrow⟩ := h q hq
    obtain ⟨row, mode, skipLocked⟩ := q
    cases row <;> simp_all [Row.Quiet, Row.shield, lock]

theorem Settlement.settle_append_inOrder {s : Settlement} {l : List Lock} (h : s.Settles l) :
    InOrder .worker [] (s.lock ++ l ++ append) := by
  rw [inOrder_append]
  refine ⟨settle_inOrder h, InOrder.append ⟨⟨.run, .update, false⟩, ?_, rfl⟩ fun p hp heq => ?_⟩
  · simp [lock, forUpdate]
  · have hheld : p ∈ s.lock ++ l := hp
    rcases List.mem_append.mp hheld with hlock | hl
    · simp only [lock, forUpdate, List.map_cons, List.map_nil, List.mem_cons, List.not_mem_nil,
        or_false] at hlock
      rcases hlock with rfl | rfl <;> cases heq
    · have hrow := (h p hl).2
      rw [heq] at hrow
      simp [Row.shield] at hrow

theorem Settlement.settles_updateAttempt (s : Settlement) : s.Settles s.updateAttempt := by
  intro q hq
  simp only [updateAttempt, update, List.mem_map] at hq
  obtain ⟨_, ⟨a, _, rfl⟩, rfl⟩ := hq
  simp [Row.shield]

theorem Settlement.settles_updateEffect (s : Settlement) : s.Settles s.updateEffect := by
  intro q hq
  unfold updateEffect at hq
  split at hq
  · rw [List.mem_singleton.mp hq]
    simp [Row.shield]
  · cases hq

theorem Settlement.Settles.append {s : Settlement} {l l' : List Lock} (h : s.Settles l)
    (h' : s.Settles l') : s.Settles (l ++ l') :=
  fun q hq => (List.mem_append.mp hq).elim (h q) (h' q)

theorem Settlement.settles_update (s : Settlement) : s.Settles (update [.task s.taskId]) := by
  intro q hq
  rw [List.mem_singleton.mp hq]
  simp

theorem Settlement.settles_updateRun (s : Settlement) : s.Settles (update [.run]) := by
  intro q hq
  rw [List.mem_singleton.mp hq]
  simp

theorem completeTask_inOrder (s : Settlement) : InOrder .worker [] (completeTask s) := by
  unfold completeTask
  split
  · have hrefers : s.Settles (insert [.run]) := by
      intro q hq
      rw [List.mem_singleton.mp hq]
      simp
    rw [← List.append_assoc]
    exact Settlement.settle_append_inOrder (((((hrefers.append hrefers).append
      s.settles_updateAttempt).append s.settles_updateEffect).append s.settles_update).append
      s.settles_updateRun)
  · exact Settlement.settle_inOrder (s.settles_updateAttempt.append s.settles_updateEffect)

/-- A settlement that goes on to block its task, or ends there. -/
theorem Settlement.block_inOrder {s : Settlement} {l : List Lock} (h : s.Settles l) :
    InOrder .worker [] (s.lock ++ l ++ if s.current then s.block else []) := by
  split
  · have hrun : s.Settles (if s.blockable then update [.run] else []) := by
      split
      · exact s.settles_updateRun
      · exact fun q hq => absurd hq List.not_mem_nil
    have hblock := settle_append_inOrder ((h.append s.settles_update).append hrun)
    simp only [block, List.append_assoc] at hblock ⊢
    exact hblock
  · rw [List.append_nil]
    exact settle_inOrder h

theorem failTask_inOrder (s : Settlement) : InOrder .worker [] (failTask s) := by
  have h := Settlement.block_inOrder (s.settles_updateAttempt.append s.settles_updateEffect)
  rw [← List.append_assoc] at h
  exact h

theorem blockUnknownModelOutcome_inOrder (s : Settlement) :
    InOrder .worker [] (blockUnknownModelOutcome s) :=
  Settlement.block_inOrder s.settles_updateAttempt

theorem claimTask_inOrder (candidate : Option ClaimCandidate) :
    InOrder .worker [] (claimTask candidate) := by
  cases candidate with
  | none => trivial
  | some c =>
      obtain ⟨id, running, newEffect, draft⟩ := c
      simp only [claimTask, inOrder_append]
      refine ⟨⟨⟨⟨⟨⟨⟨?_, ?_⟩, ?_⟩, ?_⟩, ?_⟩, ?_⟩, ?_⟩, ?_⟩
      · exact ⟨.exposed rfl (by simp) fun _ => ⟨by simp, fun h => by cases h⟩, trivial⟩
      · apply InOrder.update
        simp [Row.Quiet]
      · apply InOrder.update
        simp [Row.Quiet]
      · refine ⟨.exposed rfl (by simp) fun _ => ⟨?_, fun h => by cases h⟩, trivial⟩
        simp [update, level]
      · apply InOrder.insert
        simp [Row.Quiet]
      · cases newEffect with
        | false => trivial
        | true =>
            apply InOrder.insert
            simp [Row.Quiet]
      · cases draft with
        | false => trivial
        | true =>
            refine ⟨.exposed rfl (by simp) fun _ => ⟨?_, fun h => by cases h⟩, trivial⟩
            cases newEffect <;> simp [update, insert, level, or_imp, forall_and]
      · apply InOrder.append
        · exact ⟨⟨.run, .keyShare, false⟩, by simp [insert], rfl⟩
        · cases newEffect <;> cases draft <;> simp [insert, update, or_imp, forall_and]

theorem openWait_inOrder (taskId : Uuid) : InOrder .founder [] (openWait taskId) := by
  simp only [openWait, inOrder_append]
  refine ⟨⟨⟨⟨⟨?_, ?_⟩, ?_⟩, ?_⟩, ?_⟩, ?_⟩
  · exact ⟨.exposed rfl (by simp) fun _ => ⟨by simp, fun h => by cases h⟩, trivial⟩
  · refine ⟨.exposed rfl (by simp) fun _ => ⟨?_, fun _ => ?_⟩, trivial⟩
    · simp [forUpdate, level]
    · simp
  · apply InOrder.update
    simp [Row.Quiet]
  · apply InOrder.update
    simp [Row.Quiet]
  · apply InOrder.insert
    simp [Row.Quiet]
  · apply InOrder.append
    · simp [forUpdate]
    · simp [forUpdate, update, insert]

theorem answer_inOrder (key waitId taskId : Uuid) :
    InOrder .founder [] (answer key waitId taskId) := by
  simp only [answer, inOrder_append]
  refine ⟨⟨⟨⟨⟨⟨⟨⟨⟨⟨⟨⟨?_, ?_⟩, ?_⟩, ?_⟩, ?_⟩, ?_⟩, ?_⟩, ?_⟩, ?_⟩, ?_⟩, ?_⟩, ?_⟩, ?_⟩
  · apply InOrder.insert
    simp [Row.Quiet]
  · refine ⟨.exposed rfl (by simp) fun _ => ⟨?_, fun h => by cases h⟩, trivial⟩
    simp [insert, level]
  · refine ⟨.exposed rfl (by simp) fun _ => ⟨?_, fun h => by cases h⟩, trivial⟩
    simp [insert, forUpdate, level]
  · refine ⟨.exposed rfl (by simp) fun _ => ⟨?_, fun h => by cases h⟩, trivial⟩
    simp [insert, forUpdate, level]
  · refine ⟨.exposed rfl (by simp) fun _ => ⟨?_, fun _ => ?_⟩, trivial⟩
    · simp [insert, forUpdate, level]
    · simp
  · apply InOrder.insert
    simp [Row.Quiet]
  · apply InOrder.insert
    simp [Row.Quiet]
  · apply InOrder.update
    simp [Row.Quiet]
  · apply InOrder.update
    simp [Row.Quiet]
  · apply InOrder.append
    · exact ⟨⟨.run, .update, false⟩, by simp [forUpdate], rfl⟩
    · simp [forUpdate, insert, update]
  · apply InOrder.update
    simp [Row.Quiet]
  · apply InOrder.insert
    simp [Row.Quiet]
  · apply InOrder.update
    simp [Row.Quiet]

theorem cancelFixture_inOrder (waitIds taskIds : List Uuid) :
    InOrder .cancellation [] (cancelFixture waitIds taskIds) := by
  simp only [cancelFixture, inOrder_append]
  refine ⟨⟨⟨⟨?_, ?_⟩, ?_⟩, ?_⟩, ?_⟩
  · exact ⟨.exposed rfl (by simp) fun _ => ⟨by simp, fun h => by cases h⟩, trivial⟩
  · apply InOrder.of_forall
    intro q hq A' hsub hsup
    obtain ⟨row, hrow, rfl⟩ := List.mem_map.mp hq
    obtain ⟨waitId, -, rfl⟩ := List.mem_map.mp hrow
    refine .exposed rfl (by simp) fun _ => ⟨fun p hp => ?_, fun _ => ?_⟩
    · have hheld := hsup hp
      simp only [forUpdate, update, List.map_cons, List.map_nil, List.nil_append,
        List.mem_append, List.mem_singleton, List.mem_map] at hheld
      rcases hheld with rfl | ⟨_, ⟨_, -, rfl⟩, rfl⟩ <;> simp [level]
    · exact Owns.mono (by simp) hsub
  · apply InOrder.of_forall
    intro q hq A' hsub hsup
    obtain ⟨row, hrow, rfl⟩ := List.mem_map.mp hq
    obtain ⟨taskId, -, rfl⟩ := List.mem_map.mp hrow
    refine .exposed rfl (by simp) fun _ => ⟨fun p hp => ?_, fun _ => ?_⟩
    · have hheld := hsup hp
      simp only [forUpdate, update, List.map_cons, List.map_nil, List.nil_append,
        List.mem_append, List.mem_singleton, List.mem_map] at hheld
      rcases hheld with (rfl | ⟨_, ⟨_, -, rfl⟩, rfl⟩) | ⟨_, ⟨_, -, rfl⟩, rfl⟩ <;> simp [level]
    · exact Owns.mono (by simp) hsub
  · apply InOrder.update
    simp [Row.Quiet]
  · apply InOrder.append
    · exact ⟨⟨.run, .update, false⟩, by simp [forUpdate], rfl⟩
    · simp [forUpdate, update, or_imp, forall_and]

theorem Workflow.inOrder (workflow : Workflow) :
    InOrder workflow.side [] workflow.locks := by
  cases workflow with
  | claimTask candidate => exact claimTask_inOrder candidate
  | completeTask s => exact completeTask_inOrder s
  | failTask s => exact failTask_inOrder s
  | blockUnknownModelOutcome s => exact blockUnknownModelOutcome_inOrder s
  | openWait taskId => exact openWait_inOrder taskId
  | answer key waitId taskId => exact answer_inOrder key waitId taskId
  | cancelFixture waitIds taskIds => exact cancelFixture_inOrder waitIds taskIds

/-- A transaction asks in order, however far it comes. -/
theorem Transaction.ordered {x : Transaction} {A : List Lock} {q : Lock}
    (h : A ++ [q] <+: x.script) : Ordered x.workflow.side A q :=
  x.workflow.inOrder.asks (h.trans (List.take_prefix _ _))

/-! ## No deadlock without a crossing -/

section Ranked

variable {x y : Transaction} {A A' : List Lock} {p q : Lock}

theorem Transaction.locks_of_mem (h : A ++ [q] <+: x.script) (hp : p ∈ A) : x.Locks p.row :=
  ⟨p, h.subset (List.mem_append_left _ hp), rfl⟩

theorem Transaction.locks_next (h : A ++ [q] <+: x.script) : x.Locks q.row :=
  ⟨q, h.subset (List.mem_append_right _ (List.mem_singleton_self q)), rfl⟩

/-- The locks a transaction holds were asked for in order. -/
theorem Transaction.ordered_of_mem (h : A ++ [q] <+: x.script) (hp : p ∈ A) :
    ∃ A₁, A₁ ⊆ A ∧ Ordered x.workflow.side A₁ p := by
  obtain ⟨A₁, A₂, rfl⟩ := List.append_of_mem hp
  refine ⟨A₁, List.subset_append_left _ _, Transaction.ordered (.trans ?_ h)⟩
  exact ⟨A₂ ++ [q], by simp⟩

theorem Workflow.ne_worker_of_locks {workflow : Workflow} {waitId : Uuid}
    (h : q ∈ workflow.locks) (hrow : q.row = .humanWait waitId) : workflow.side ≠ .worker := by
  obtain ⟨row, mode, skipLocked⟩ := q
  obtain rfl : row = .humanWait waitId := hrow
  cases workflow with
  | openWait | answer | cancelFixture => exact fun heq => by cases heq
  | claimTask candidate =>
      cases candidate with
      | none => cases h
      | some c => simp [locks, WorkflowLocks.claimTask, update, insert, append, forUpdate] at h
  | completeTask s | failTask s | blockUnknownModelOutcome s =>
      obtain ⟨taskId, current, attempt, effect, blockable⟩ := s
      cases current <;> simp [locks, WorkflowLocks.completeTask, WorkflowLocks.failTask,
        WorkflowLocks.blockUnknownModelOutcome, Settlement.lock, Settlement.updateAttempt,
        Settlement.updateEffect, Settlement.block, update, insert, append, forUpdate] at h

/-- Between the locks on its first rows and those behind the run, a transaction asks for
the run. -/
theorem Transaction.locks_run (h : A ++ [q] <+: x.script) (hnew : ¬ Covered A q)
    (hlow : 1 < level x.workflow.side q) (hhigh : level x.workflow.side q ≤ 4) : x.Locks .run := by
  by_cases hfour : level x.workflow.side q = 4
  · obtain ⟨p, hp, hrow, -⟩ := (Transaction.ordered h).owned hnew hfour
    rw [← hrow]
    exact Transaction.locks_of_mem h hp
  · have hrow : q.row = .run := by
      unfold level at hlow hhigh hfour
      split at hlow <;> (try split at hlow) <;> first | assumption | omega | simp_all
    rw [← hrow]
    exact Transaction.locks_next h

variable {ι : Type*} {x : ι → Transaction}

/-- Two transactions that meet on a wait or a task at different ranks cross. -/
theorem crosses_of_level {i j : ι} {A A' : List Lock} {p q q' : Lock}
    (hA : A ++ [q] <+: (x i).script) (hA' : A' ++ [q'] <+: (x j).script) (hp : p ∈ A')
    (hrow : p.row = q.row) (hmeet : (∃ waitId, q.row = .humanWait waitId) ∨
      ∃ taskId, q.row = .task taskId)
    (hlow : level (x j).workflow.side p = 1) (hhigh : level (x i).workflow.side q = 4)
    (hrun : (x j).Locks .run) : Crosses (x j) (x i) := by
  have hi := Transaction.locks_next hA
  have hj := Transaction.locks_of_mem hA' hp
  rw [hrow] at hj
  rcases hmeet with ⟨waitId, hwait⟩ | ⟨taskId, htask⟩
  · rw [hwait] at hi hj
    have hworker : (x j).workflow.side ≠ .worker := by
      obtain ⟨p', hp', hrow'⟩ := hj
      exact Workflow.ne_worker_of_locks (List.mem_of_mem_take hp') hrow'
    simp only [level, hrow, hwait] at hlow hhigh
    refine .inr ⟨?_, by simpa using hhigh, hrun, waitId, hj, hi⟩
    cases hside : (x j).workflow.side with
    | founder => rfl
    | worker => exact absurd hside hworker
    | cancellation => simp [hside] at hlow
  · rw [htask] at hi hj
    simp only [level, hrow, htask] at hlow hhigh
    exact .inl ⟨by simpa using hlow, by simpa using hhigh, hrun, taskId, hj, hi⟩

/-- Without a crossing, whoever waits for a wait or a task waits for less than its holder. -/
theorem level_lt (h : ∀ i j, ¬ Crosses (x i) (x j)) {i j : ι} {A A' : List Lock} {p q q' : Lock}
    (hA : A ++ [q] <+: (x i).script) (hnew : ¬ Covered A q)
    (hA' : A' ++ [q'] <+: (x j).script) (hnew' : ¬ Covered A' q')
    (hcompat : Compatible A A') (hp : p ∈ A') (hrow : p.row = q.row)
    (hmeet : (∃ waitId, q.row = .humanWait waitId) ∨ ∃ taskId, q.row = .task taskId) :
    level (x i).workflow.side q < level (x j).workflow.side q' := by
  have hlevel : ∀ (side : Side) (q : Lock), ((∃ waitId, q.row = .humanWait waitId) ∨
      ∃ taskId, q.row = .task taskId) → level side q = 1 ∨ level side q = 4 := by
    rintro side q (⟨_, hq⟩ | ⟨_, hq⟩) <;> cases side <;> simp [level, hq]
  have hq := hlevel (x i).workflow.side q hmeet
  have hp' := hlevel (x j).workflow.side p (by rw [hrow]; exact hmeet)
  have habove := (Transaction.ordered hA').above hnew' p hp
  by_contra hle
  rcases hp' with hone | hfour
  · refine h j i (crosses_of_level hA hA' hp hrow hmeet hone ?_ ?_)
    · omega
    · exact Transaction.locks_run hA' hnew' (by omega) (by omega)
  · have hown := (Transaction.ordered hA).owned hnew (by omega)
    have hown' := (Transaction.ordered hA').owned hnew' (by omega)
    exact hown.not_compatible hown' hcompat

theorem run_of_level_eq {side : Side} {q : Lock} (h : level side q = 3) : q.row = .run := by
  unfold level at h
  split at h <;> (try split at h) <;> first | assumption | cases h

theorem ranked (h : ∀ i j, ¬ Crosses (x i) (x j)) :
    Ranked (fun i q => level (x i).workflow.side q) fun i => (x i).script := by
  rintro i j - A q A' q' ⟨hA, hnew, -⟩ ⟨hA', hnew', -⟩ hcompat ⟨p, hpmem, hrow, hmode⟩
  have hqord := Transaction.ordered hA
  have habove := (Transaction.ordered hA').above hnew' p hpmem
  obtain ⟨A₁, hsub, hpord⟩ := Transaction.ordered_of_mem hA' hpmem
  cases hqrow : q.row with
  | parent table =>
      rw [hpord.parent table (hrow.trans hqrow), hqord.parent table hqrow] at hmode
      cases hmode
  | taskAttempt taskId id | modelInvocationEffect taskId =>
      have howns := hqord.shielded taskId (by rw [hqrow]; rfl)
      have howns' := hpord.shielded taskId (by rw [hrow, hqrow]; rfl)
      exact absurd hcompat (howns.not_compatible (howns'.mono hsub))
  | idempotencyRecord key | runEventCounter =>
      simp only [level, hrow, hqrow] at habove ⊢
      omega
  | run =>
      have hp : level (x j).workflow.side p = if p.mode = .noKeyUpdate then 3 else 2 := by
        simp only [level, hrow, hqrow]
      have hq : level (x i).workflow.side q = if q.mode = .noKeyUpdate then 3 else 2 := by
        simp only [level, hqrow]
      by_contra hle
      have hweak : p.mode ≠ .noKeyUpdate := fun heq => by grind
      have hstrong : q.mode = .noKeyUpdate := by grind
      have hthree : level (x j).workflow.side q' = 3 := by grind
      -- the holder would ask for the run again, which it already owns
      have howns : p.mode = .update := by
        rw [hstrong] at hmode
        cases hpmode : p.mode with
        | update => rfl
        | share => exact absurd hpmode hpord.mode
        | keyShare | noKeyUpdate => simp [hpmode, Mode.conflicts] at hmode hweak
      refine hnew' (covered_of_update hpmem howns ?_)
      rw [hrow, hqrow, run_of_level_eq hthree]
  | humanWait waitId => exact level_lt h hA hnew hA' hnew' hcompat hpmem hrow (.inl ⟨_, hqrow⟩)
  | task taskId => exact level_lt h hA hnew hA' hnew' hcompat hpmem hrow (.inr ⟨_, hqrow⟩)

end Ranked

end Aico.WorkflowLocks
