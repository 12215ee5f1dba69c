import Aico.Workflow.Life

/-!
# The states of a run and of its task

`Coherent` lists the pairs of states a run and its task are in. With it go the
columns that depend on the states: the lease of the task, the cancellation mark
of the run, and the state a wait returns the run to, which is always `DRAFT`.
-/

namespace Aico

/-- The states a run and its task are in together. -/
inductive Coherent : RunState → Option TaskState → Prop
  | queued : Coherent .draft (some .queued)
  | ready : Coherent .draft (some .ready)
  | running : Coherent .qualifying (some .running)
  | awaitingInput : Coherent .awaitingFounderInput (some .awaitingInput)
  | needsClarification : Coherent .awaitingFounderInput none
  | published : Coherent .awaitingBriefApproval (some .succeeded)
  | blocked : Coherent .blocked (some .blocked)
  | canceled : Coherent .canceled (some .canceled)
  | canceledPublished : Coherent .canceled (some .succeeded)
  | canceledUntasked : Coherent .canceled none

namespace Coherent

variable {s : RunState} {t : TaskState}

theorem qualifying_of_running (h : Coherent s (some .running)) : s = .qualifying := by
  cases h
  rfl

theorem draft_of_waiting (h : Coherent s (some t))
    (ht : t = .queued ∨ t = .ready ∨ t = .retryWait) : s = .draft := by
  rcases ht with rfl | rfl | rfl <;> cases h <;> rfl

theorem waiting_of_draft (h : Coherent .draft (some t)) : t = .queued ∨ t = .ready := by
  cases h
  · exact .inl rfl
  · exact .inr rfl

/-- Canceling a run that has not ended. -/
theorem cancel {o : Option TaskState} (h : Coherent s o) (hs : s.isTerminal = false) :
    Coherent .canceled
      (o.map fun t => if DurableWait.cancelable t then .canceled else t) := by
  cases h
  case canceled | canceledPublished | canceledUntasked => cases hs
  case needsClarification => exact .canceledUntasked
  case published => exact .canceledPublished
  all_goals exact .canceled

end Coherent

/-- The invariant of a run, second part. -/
structure Life.Coherence (l : Life) : Prop where
  states : Coherent l.run.state (l.task.map TaskRow.state)
  lease : ∀ t, l.task = some t →
    (t.leaseToken.isSome ↔ t.state = .running) ∧
    (t.leaseExpiresAt.isSome ↔ t.state = .running)
  cancellation : l.run.cancellationRequestedAt.isSome ↔ l.run.state = .canceled
  resume : ∀ w ∈ l.waits, w.resumeRunState = .draft

namespace Life

variable {rt : Runtime} {l l' : Life} {t : TaskRow}

namespace Coherence

theorem of_eq (h : l.Coherence) (hrun : l'.run = l.run) (htask : l'.task = l.task)
    (hwaits : l'.waits = l.waits) : l'.Coherence where
  states := by
    rw [hrun, htask]
    exact h.states
  lease := by
    rw [htask]
    exact h.lease
  cancellation := by
    rw [hrun]
    exact h.cancellation
  resume := by
    rw [hwaits]
    exact h.resume

theorem moved (h : l.Coherence) (w : ℕ) (pc : Pc) (n : ℕ) : (l.moved w pc n).Coherence :=
  h.of_eq rfl rfl rfl

theorem drawn (h : l.Coherence) (n : ℕ) : (l.drawn n).Coherence :=
  h.of_eq rfl rfl rfl

theorem coherent (h : l.Coherence) (ht : l.task = some t) :
    Coherent l.run.state (some t.state) := by
  simpa [ht] using h.states

/-- The cancellation mark stays as it is on a run that stays uncanceled. -/
theorem cancellation_of (h : l.Coherence) (hnot : l.run.state ≠ .canceled)
    {r : RunRow} (hr : r.cancellationRequestedAt = l.run.cancellationRequestedAt)
    (hstate : r.state ≠ .canceled) :
    r.cancellationRequestedAt.isSome ↔ r.state = .canceled := by
  rw [hr, h.cancellation]
  exact iff_of_false hnot hstate

theorem not_canceled_of_active (hactive : l.run.state.isTerminal = false) :
    l.run.state ≠ .canceled := by
  intro hs
  rw [hs] at hactive
  cases hactive

theorem cancellationRequestedAt_eq_none (h : l.Coherence)
    (hactive : l.run.state.isTerminal = false) :
    l.run.cancellationRequestedAt = none := by
  have := (not_congr h.cancellation).mpr (not_canceled_of_active hactive)
  simpa using this

end Coherence

/-! ## Holding the lease -/

theorem Held.running {claim : ClaimedTask} (h : l.Held claim t) : t.state = .running := by
  have := h.2
  simp only [Worker.stale, decide_eq_false_iff_not, not_or, not_not] at this
  exact this.1

theorem Held.leaseToken {claim : ClaimedTask} (h : l.Held claim t) :
    t.leaseToken = some claim.leaseToken := by
  have := h.2
  simp only [Worker.stale, decide_eq_false_iff_not, not_or, not_not] at this
  exact this.2.1

theorem Held.active {claim : ClaimedTask} (h : l.Held claim t) :
    l.run.state.isTerminal = false := by
  have := h.2
  simp only [Worker.stale, decide_eq_false_iff_not, not_or, not_not] at this
  simpa using this.2.2

theorem Held.qualifying {claim : ClaimedTask} (h : l.Held claim t)
    (hcoherence : l.Coherence) : l.run.state = .qualifying := by
  have hs := hcoherence.coherent h.1
  rw [h.running] at hs
  exact hs.qualifying_of_running

/-- A task that can be claimed is waiting in a draft run or running in a
qualifying one. -/
theorem claimable_cases (h : l.Coherence) (ht : l.task = some t) {now : Timestamp}
    {runId : Option Uuid} (hclaimable : Worker.claimable now runId t l.run = true) :
    (l.run.state = .draft ∧ (t.state = .queued ∨ t.state = .ready)) ∨
      (l.run.state = .qualifying ∧ t.state = .running) := by
  have hs := h.coherent ht
  simp only [Worker.claimable, decide_eq_true_eq] at hclaimable
  rcases hclaimable.1 with ⟨hstate, -⟩ | ⟨hstate, -⟩
  · have hdraft := hs.draft_of_waiting hstate
    rw [hdraft] at hs
    exact .inl ⟨hdraft, hs.waiting_of_draft⟩
  · rw [hstate] at hs
    exact .inr ⟨hs.qualifying_of_running, hstate⟩

namespace Coherence

variable {now : Timestamp} {event : EventRow}

theorem claim (h : l.Coherence) (ht : l.task = some t) {runId : Option Uuid}
    (hclaimable : Worker.claimable now runId t l.run = true) {config : WorkerConfig}
    {claim : ClaimedTask} {policyDecisionId : Uuid} :
    (l.claim config t claim policyDecisionId now event).Coherence where
  states := by
    have hs : (if l.run.state = .draft then Worker.qualifying now l.run
        else l.run).state = .qualifying := by
      rcases claimable_cases h ht hclaimable with ⟨hdraft, -⟩ | ⟨hqualifying, -⟩
      · rw [if_pos hdraft]
        rfl
      · rw [if_neg (by simp [hqualifying])]
        exact hqualifying
    simp only [Life.claim, Option.map_some, hs]
    exact .running
  lease t' ht' := by
    obtain rfl := Option.some.inj ht'
    exact ⟨iff_of_true rfl rfl, iff_of_true rfl rfl⟩
  cancellation := by
    have hnot : l.run.state ≠ .canceled := by
      rcases claimable_cases h ht hclaimable with ⟨hdraft, -⟩ | ⟨hqualifying, -⟩
      · simp [hdraft]
      · simp [hqualifying]
    simp only [Life.claim]
    split
    · exact h.cancellation_of hnot rfl (by simp [Worker.qualifying])
    · exact h.cancellation
  resume := h.resume

theorem block (h : l.Coherence) {claim : ClaimedTask} (hheld : l.Held claim t)
    (bump : ℕ) : (l.block t bump now event).Coherence where
  states := .blocked
  lease t' ht' := by
    obtain rfl := Option.some.inj ht'
    exact ⟨by simp [Worker.blockedTask], by simp [Worker.blockedTask]⟩
  cancellation :=
    h.cancellation_of (not_canceled_of_active hheld.active) rfl (by simp [blockedRun, Life.block])
  resume := h.resume

theorem publish (h : l.Coherence) {claim : ClaimedTask} (hheld : l.Held claim t)
    {result : ModelResult} {artifactId artifactVersionId : Uuid} :
    (l.publish rt claim t result artifactId artifactVersionId now event).Coherence where
  states := .published
  lease t' ht' := by
    obtain rfl := Option.some.inj ht'
    exact ⟨by simp [Worker.succeededTask], by simp [Worker.succeededTask]⟩
  cancellation :=
    h.cancellation_of (not_canceled_of_active hheld.active) rfl
      (by simp [Worker.awaitingBriefApproval, Life.publish])
  resume := h.resume

theorem openWait (h : l.Coherence) (hdraft : l.run.state = .draft) {wait : HumanWaitRow}
    (hresume : wait.resumeRunState = .draft) :
    (l.openWait t wait now event).Coherence where
  states := .awaitingInput
  lease t' ht' := by
    obtain rfl := Option.some.inj ht'
    exact ⟨by simp [DurableWait.awaitingTask], by simp [DurableWait.awaitingTask]⟩
  cancellation :=
    h.cancellation_of (by simp [hdraft]) rfl (by simp [DurableWait.awaitingRun, Life.openWait])
  resume w hw := by
    rcases List.mem_append.mp hw with hw | hw
    · exact h.resume w hw
    · obtain rfl := List.mem_singleton.mp hw
      exact hresume

theorem answer (h : l.Coherence) {wait : HumanWaitRow} (hwait : wait ∈ l.waits)
    (hcancellation : l.run.cancellationRequestedAt = none)
    {snapshot : ContextSnapshotRow} {input : AnswerWaitInput}
    {answerRow : ClarificationAnswerVersionRow} :
    (l.answer t wait snapshot input answerRow now event).Coherence where
  states := by
    simp only [Life.answer, DurableWait.resumedRun, h.resume wait hwait, Option.map_some]
    exact .ready
  lease t' ht' := by
    obtain rfl := Option.some.inj ht'
    exact ⟨by simp [DurableWait.readyTask], by simp [DurableWait.readyTask]⟩
  cancellation := by
    simp [Life.answer, DurableWait.resumedRun, h.resume wait hwait, hcancellation]
  resume := by
    refine Table.forall_mem_updateWhere.mpr ?_
    intro w hw
    split
    · exact h.resume w hw
    · exact h.resume w hw

theorem cancel (h : l.Coherence) (hactive : l.run.state.isTerminal = false) :
    (l.cancel now event).Coherence where
  states := by
    have hcancel := h.states.cancel hactive
    simp only [Life.cancel, Option.map_map] at hcancel ⊢
    have hstate : (TaskRow.state ∘ fun t =>
        if DurableWait.cancelable t.state then DurableWait.canceledTask now t else t) =
          (fun t => if DurableWait.cancelable t then .canceled else t) ∘ TaskRow.state := by
      funext t
      simp only [Function.comp_apply]
      split <;> rfl
    rw [hstate]
    exact hcancel
  lease t' ht' := by
    obtain ⟨t, ht, rfl⟩ := Option.map_eq_some_iff.mp ht'
    by_cases hcancelable : DurableWait.cancelable t.state
    · rw [if_pos hcancelable]
      exact ⟨by simp [DurableWait.canceledTask], by simp [DurableWait.canceledTask]⟩
    · rw [if_neg hcancelable]
      exact h.lease t ht
  cancellation := iff_of_true rfl rfl
  resume := by
    refine Table.forall_mem_updateWhere.mpr ?_
    intro w hw
    split
    · exact h.resume w hw
    · exact h.resume w hw

/-- Every transition leads from coherent states to coherent states. -/
theorem step {act : Action} (h : l.Coherence) (hstep : LifeStep rt act l l') :
    l'.Coherence := by
  cases hstep with
  | rest | move | begin | refuse | invoke | abandon | staleComplete | staleFail =>
      exact h.of_eq rfl rfl rfl
  | claim w config runId locked _ t leaseToken attemptId policyDecisionId now event n
      hpc htask hclaimable =>
      exact (h.claim htask hclaimable).moved w _ n
  | block w _ claim t now event n hn hpc hheld =>
      have habandon : (l.abandon claim "UNKNOWN_EXTERNAL_OUTCOME" now).Coherence :=
        h.of_eq rfl rfl rfl
      exact (habandon.block hheld 1).moved w _ n
  | complete w _ claim result t artifactId artifactVersionId now event n hn hpc hheld =>
      exact (h.publish hheld).moved w _ n
  | fail w _ claim t now event n hn hpc hheld =>
      have hfail : ((l.failAttempt claim now).markUnknown now).Coherence :=
        h.of_eq rfl rfl rfl
      exact (hfail.block hheld 0).moved w _ n
  | openWait input _ t waitId requestId now event n hwaitId htask hcompany hrun htaskId
      hversion hdraft =>
      exact (h.openWait hdraft hdraft).drawn n
  | answer input _ t wait source answerVersionId resumedContextSnapshotId now event n hn
      htask hwait hwaitId hanswerable =>
      exact (h.answer hwait (DurableWait.answerable_iff.mp hanswerable).uncanceled).drawn n
  | cancel companyId runId actorId correlationId _ now event n hn hactive =>
      exact (h.cancel hactive).drawn n

end Coherence

theorem frozen_of_canceled {act : Action} (h : l.Coherence)
    (hcanceled : l.run.state = .canceled) (hstep : LifeStep rt act l l') :
    l'.run = l.run ∧ l'.task = l.task ∧ l'.artifacts = l.artifacts ∧
      l'.versions = l.versions := by
  have hterminal : l.run.state.isTerminal ≠ false := by simp [hcanceled, RunState.isTerminal]
  have hmark : l.run.cancellationRequestedAt ≠ none :=
    Option.isSome_iff_ne_none.mp (h.cancellation.mpr hcanceled)
  cases hstep with
  | rest | move | begin | refuse | invoke | abandon | staleComplete | staleFail =>
      exact ⟨rfl, rfl, rfl, rfl⟩
  | claim w config runId locked _ t leaseToken attemptId policyDecisionId now event n
      hpc htask hclaimable =>
      simp only [Worker.claimable, decide_eq_true_eq] at hclaimable
      exact absurd hclaimable.2.1 hterminal
  | block w _ claim t now event n hn hpc hheld => exact absurd hheld.active hterminal
  | complete w _ claim result t artifactId artifactVersionId now event n hn hpc hheld =>
      exact absurd hheld.active hterminal
  | fail w _ claim t now event n hn hpc hheld => exact absurd hheld.active hterminal
  | openWait input _ t waitId requestId now event n hwaitId htask hcompany hrun htaskId
      hversion hdraft =>
      rw [hcanceled] at hdraft
      cases hdraft
  | answer input _ t wait source answerVersionId resumedContextSnapshotId now event n hn
      htask hwait hwaitId hanswerable =>
      exact absurd (DurableWait.answerable_iff.mp hanswerable).uncanceled hmark
  | cancel companyId runId actorId correlationId _ now event n hn hactive =>
      exact absurd hactive hterminal

end Life

end Aico
