import Aico.Workflow.Owned

/-!
# The calls of the model provider

The effect row of the task is created once and its invocation count never goes
down. `beginModelInvocation` takes it from `0` to `1`, so at most one worker has
ever begun, and the provider is called by that worker only.
-/

namespace Aico

namespace Life

def invocationCount (l : Life) : ℕ := l.effect.elim 0 ModelInvocationEffectRow.invocationCount

/-- The invariant of a run, fourth part. -/
structure Invocation (l : Life) : Prop where
  count_le : l.invocationCount ≤ 1
  begun : ∀ w, (l.workers w).invoked = true → l.invocationCount = 1
  single : ∀ w w', (l.workers w).invoked = true → (l.workers w').invoked = true → w = w'
  calls_le : l.calls.length ≤ l.invocationCount
  pending : ∀ w, (l.workers w).pending = true → l.calls = []
  calls : ∀ c ∈ l.calls, ∃ t, l.owners.task = some t ∧ c.id = t.id ∧ c.runId = l.run.id

variable {rt : Runtime} {l l' : Life}

theorem invocationCount_markUnknown (now : Timestamp) :
    (l.markUnknown now).invocationCount = l.invocationCount := by
  unfold markUnknown invocationCount
  cases l.effect with
  | none => rfl
  | some e =>
      simp only [Option.map_some, Option.elim_some, unknownEffect]
      split <;> rfl

theorem invocationCount_publish (claim : ClaimedTask) (t : TaskRow) (result : ModelResult)
    (artifactId artifactVersionId : Uuid) (now : Timestamp) (event : EventRow) :
    (l.publish rt claim t result artifactId artifactVersionId now event).invocationCount =
      l.invocationCount := by
  unfold publish invocationCount
  cases l.effect with
  | none => rfl
  | some e =>
      simp only [Option.map_some, Option.elim_some]
      split <;> rfl

theorem invocationCount_claim (config : WorkerConfig) (t : TaskRow) (claim : ClaimedTask)
    (policyDecisionId : Uuid) (now : Timestamp) (event : EventRow) :
    (l.claim config t claim policyDecisionId now event).invocationCount =
      l.invocationCount := by
  unfold Life.claim invocationCount
  cases l.effect <;> rfl

theorem canBegin_iff {e : ModelInvocationEffectRow} :
    Worker.canBegin e = true ↔ e.status = .running ∧ e.invocationCount = 0 := by
  simp [Worker.canBegin]

end Life

/-- A worker that has still to call the provider has begun. -/
theorem Pc.invoked_of_pending {pc : Pc} (h : pc.pending = true) : pc.invoked = true := by
  cases pc <;> first | rfl | cases h

/-- Where a predicate on workers holds after one of them has moved. -/
theorem Pc.of_update {workers : ℕ → Pc} {w w' : ℕ} {pc : Pc} {P : Pc → Prop}
    (h : P (Function.update workers w pc w')) :
    (w' = w ∧ P pc) ∨ (w' ≠ w ∧ P (workers w')) := by
  by_cases hw : w' = w
  · rw [hw, Function.update_self] at h
    exact .inl ⟨hw, h⟩
  · rw [Function.update_of_ne hw] at h
    exact .inr ⟨hw, h⟩

namespace Life.Invocation

variable {rt : Runtime} {l l' : Life}

theorem of_quiet (h : l.Invocation) (hcount : l'.invocationCount = l.invocationCount)
    (hinvoked : ∀ w, (l'.workers w).invoked = true → (l.workers w).invoked = true)
    (hpending : ∀ w, (l'.workers w).pending = true → (l.workers w).pending = true)
    (hcalls : l'.calls = l.calls) (howners : l'.owners.task = l.owners.task)
    (hid : l'.run.id = l.run.id) : l'.Invocation where
  count_le := hcount.trans_le h.count_le
  begun w hw := hcount.trans (h.begun w (hinvoked w hw))
  single w w' hw hw' := h.single w w' (hinvoked w hw) (hinvoked w' hw')
  calls_le := by
    rw [hcalls, hcount]
    exact h.calls_le
  pending w hw := hcalls.trans (h.pending w (hpending w hw))
  calls := by
    rw [hcalls, howners, hid]
    exact h.calls

theorem of_moved (h : l.Invocation) {w : ℕ} {pc : Pc} {n : ℕ}
    (hinvoked : pc.invoked = true → (l.workers w).invoked = true)
    (hpending : pc.pending = false) : (l.moved w pc n).Invocation := by
  refine h.of_quiet rfl ?_ ?_ rfl rfl rfl
  · intro w' hw'
    rcases Pc.of_update (P := fun pc => pc.invoked = true) hw' with ⟨rfl, hpc⟩ | ⟨-, hpc⟩
    · exact hinvoked hpc
    · exact hpc
  · intro w' hw'
    rcases Pc.of_update (P := fun pc => pc.pending = true) hw' with ⟨-, hpc⟩ | ⟨-, hpc⟩
    · rw [hpending] at hpc
      cases hpc
    · exact hpc

/-- The first worker that begins. -/
theorem begin (h : l.Invocation) {e : ModelInvocationEffectRow}
    (heffect : l.effect = some e) (hzero : e.invocationCount = 0) {w : ℕ}
    {claim : ClaimedTask} {context : ContextRow} {n : ℕ} :
    ({ l with effect := some { e with invocationCount := 1 } }.moved w
      (.begun claim context) n).Invocation := by
  have hcount : l.invocationCount = 0 := by
    rw [Life.invocationCount, heffect]
    exact hzero
  have hcalls : l.calls = [] := by
    have := h.calls_le
    rw [hcount] at this
    exact List.length_eq_zero_iff.mp (Nat.le_zero.mp this)
  have hnone : ∀ w, (l.workers w).invoked = true → False := by
    intro w hw
    have := h.begun w hw
    omega
  have honly : ∀ w', (Function.update l.workers w (.begun claim context) w').invoked = true →
      w' = w := by
    intro w' hw'
    rcases Pc.of_update (P := fun pc => pc.invoked = true) hw' with ⟨heq, -⟩ | ⟨-, hpc⟩
    · exact heq
    · exact (hnone w' hpc).elim
  exact
    { count_le := le_rfl
      begun := fun _ _ => rfl
      single := fun w₁ w₂ hw₁ hw₂ => (honly w₁ hw₁).trans (honly w₂ hw₂).symm
      calls_le := by simp [Life.moved, hcalls]
      pending := fun _ _ => hcalls
      calls := by simp [Life.moved, hcalls] }

/-- The call of the provider. -/
theorem invoke (h : l.Invocation) (howned : l.Owned rt) {w : ℕ} {claim : ClaimedTask}
    {context : ContextRow} (hpc : l.workers w = .begun claim context) :
    ({ l with calls := claim :: l.calls }.moved w (.invoking claim) l.nextId).Invocation := by
  have hpending : (l.workers w).pending = true := by
    rw [hpc]
    rfl
  have hinvoked := Pc.invoked_of_pending hpending
  have hcalls := h.pending w hpending
  have hkeep : ∀ w', (Function.update l.workers w (.invoking claim) w').invoked = true →
      (l.workers w').invoked = true := by
    intro w' hw'
    rcases Pc.of_update (P := fun pc => pc.invoked = true) hw' with ⟨rfl, -⟩ | ⟨-, hw'⟩
    · exact hinvoked
    · exact hw'
  obtain ⟨hholds, -⟩ := howned.claim w claim (by rw [hpc]; rfl)
  obtain ⟨t, ht, hid, -⟩ := hholds.task
  refine
    { count_le := h.count_le
      begun := fun w' hw' => h.begun w' (hkeep w' hw')
      single := fun w₁ w₂ hw₁ hw₂ => h.single w₁ w₂ (hkeep w₁ hw₁) (hkeep w₂ hw₂)
      calls_le := ?_
      pending := ?_
      calls := ?_ }
  · have hone : l.invocationCount = 1 := h.begun w hinvoked
    change (claim :: l.calls).length ≤ l.invocationCount
    rw [hcalls, hone]
    rfl
  · intro w' hw'
    rcases Pc.of_update (P := fun pc => pc.pending = true) hw' with ⟨-, hpc'⟩ | ⟨hne, hpc'⟩
    · cases hpc'
    · exact absurd (h.single w' w (Pc.invoked_of_pending hpc') hinvoked) hne
  · intro c hc
    rcases List.mem_cons.mp hc with rfl | hc
    · exact ⟨t, ht, hid, hholds.runId⟩
    · exact h.calls c hc

/-- Every transition keeps the provider called at most once. -/
theorem step {act : Action} (h : l.Invocation) (howned : l.Owned rt)
    (hstep : LifeStep rt act l l') : l'.Invocation := by
  cases hstep with
  | rest => exact h.of_quiet rfl (fun _ hw => hw) (fun _ hw => hw) rfl rfl rfl
  | move _ _ w pc n hn hclaim hinvoked hpending => exact h.of_moved hinvoked hpending
  | claim w config runId locked _ t leaseToken attemptId policyDecisionId now event n
      hpc htask =>
      have hclaim : (l.claim config t (Worker.claimOf rt t l.run leaseToken attemptId)
          policyDecisionId now event).Invocation := by
        refine h.of_quiet (invocationCount_claim _ _ _ _ _ _) (fun _ hw => hw)
          (fun _ hw => hw) rfl ?_ ?_
        · rw [owners_claim htask]
        · exact congrArg Owners.runId (owners_claim htask)
      exact hclaim.of_moved (by simp [Pc.invoked]) rfl
  | begin w _ claim context e n hn hpc heffect hbegin =>
      exact h.begin heffect (canBegin_iff.mp hbegin).2
  | refuse w _ claim context n hn hpc => exact h.of_moved (by simp [Pc.invoked]) rfl
  | invoke w _ claim context hpc => exact h.invoke howned hpc
  | abandon _ w _ claim resultClass now n hn hpc =>
      have habandon : (l.abandon claim resultClass now).Invocation :=
        h.of_quiet rfl (fun _ hw => hw) (fun _ hw => hw) rfl rfl rfl
      exact habandon.of_moved (by simp [Pc.invoked]) rfl
  | block w _ claim t now event n hn hpc hheld =>
      have hblock : ((l.abandon claim "UNKNOWN_EXTERNAL_OUTCOME" now).block t 1 now
          event).Invocation := by
        refine h.of_quiet rfl (fun _ hw => hw) (fun _ hw => hw) rfl ?_ rfl
        rw [owners_block (l := l.abandon _ _ _) hheld.1, owners_abandon]
      exact hblock.of_moved (by simp [Pc.invoked]) rfl
  | staleComplete w _ claim result now n hn hpc hstale =>
      have hmark : ((l.abandon claim "STALE_COMPLETION" now).markUnknown now).Invocation :=
        h.of_quiet (invocationCount_markUnknown now) (fun _ hw => hw) (fun _ hw => hw)
          rfl rfl rfl
      exact hmark.of_moved (by simp [Pc.invoked]) rfl
  | complete w _ claim result t artifactId artifactVersionId now event n hn hpc hheld =>
      have hpublish : (l.publish rt claim t result artifactId artifactVersionId now
          event).Invocation :=
        h.of_quiet (invocationCount_publish _ _ _ _ _ _ _) (fun _ hw => hw)
          (fun _ hw => hw) rfl (congrArg Owners.task (owners_publish hheld.1)) rfl
      exact hpublish.of_moved (by simp [Pc.invoked]) rfl
  | staleFail w _ claim now n hn hpc hstale =>
      have hmark : ((l.abandon claim "STALE_FAILURE" now).markUnknown now).Invocation :=
        h.of_quiet (invocationCount_markUnknown now) (fun _ hw => hw) (fun _ hw => hw)
          rfl rfl rfl
      exact hmark.of_moved (by simp [Pc.invoked]) rfl
  | fail w _ claim t now event n hn hpc hheld =>
      have hblock : (((l.failAttempt claim now).markUnknown now).block t 0 now
          event).Invocation := by
        refine h.of_quiet (invocationCount_markUnknown now) (fun _ hw => hw)
          (fun _ hw => hw) rfl ?_ rfl
        rw [owners_block (l := (l.failAttempt _ _).markUnknown _) hheld.1,
          owners_markUnknown, owners_failAttempt]
      exact hblock.of_moved (by simp [Pc.invoked]) rfl
  | openWait input _ t waitId requestId now event n hwaitId htask =>
      exact h.of_quiet rfl (fun _ hw => hw) (fun _ hw => hw) rfl
        (congrArg (Option.map TaskRow.owner) htask).symm rfl
  | answer input _ t wait source answerVersionId resumedContextSnapshotId now event n hn
      htask =>
      exact h.of_quiet rfl (fun _ hw => hw) (fun _ hw => hw) rfl
        (congrArg (Option.map TaskRow.owner) htask).symm rfl
  | cancel companyId runId actorId correlationId _ now event n =>
      exact h.of_quiet rfl (fun _ hw => hw) (fun _ hw => hw) rfl
        (congrArg Owners.task (owners_cancel now event)) rfl

end Life.Invocation

end Aico
