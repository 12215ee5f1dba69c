import Aico.Workflow.Life

/-!
# Rows and claims belong to their run

The columns that say which run, task or company a row belongs to never change
(`Life.owners`), so this part of the invariant is stated on those columns alone:
only a claim, which adds an attempt and the first time an effect, can disturb it.

What it says is that every claim a worker holds is on the one task of the run,
that the attempt and the effect of the claim exist, and that no two workers hold
one lease token.
-/

namespace Aico

structure TaskOwner where
  id : Uuid
  companyId : Uuid
  runId : Uuid
  type : String

structure AttemptOwner where
  id : Uuid
  companyId : Uuid
  runId : Uuid
  taskId : Uuid

structure EffectOwner where
  effectKey : Digest
  companyId : Uuid
  runId : Uuid
  taskId : Uuid

def TaskRow.owner (t : TaskRow) : TaskOwner :=
  ⟨t.id, t.companyId, t.runId, t.type⟩

def TaskAttemptRow.owner (a : TaskAttemptRow) : AttemptOwner :=
  ⟨a.id, a.companyId, a.runId, a.taskId⟩

def ModelInvocationEffectRow.owner (e : ModelInvocationEffectRow) : EffectOwner :=
  ⟨e.effectKey, e.companyId, e.runId, e.taskId⟩

/-- The columns that tie the rows of a run together. -/
@[ext] structure Owners where
  runId : Uuid
  companyId : Uuid
  task : Option TaskOwner
  attempts : List AttemptOwner
  effect : Option EffectOwner

namespace Life

def owners (l : Life) : Owners where
  runId := l.run.id
  companyId := l.run.companyId
  task := l.task.map TaskRow.owner
  attempts := l.attempts.map TaskAttemptRow.owner
  effect := l.effect.map ModelInvocationEffectRow.owner

end Life

structure Owners.Holds (rt : Runtime) (o : Owners) (c : ClaimedTask) : Prop where
  runId : c.runId = o.runId
  companyId : c.companyId = o.companyId
  task : ∃ t, o.task = some t ∧ c.id = t.id ∧ c.effectKey = Worker.effectKey rt t.id t.type
  attempt : ∃ a ∈ o.attempts, a.id = c.attemptId
  effect : o.effect.isSome

/-- The part of the invariant that is about the owner columns. -/
structure Owned (rt : Runtime) (o : Owners) (workers : ℕ → Pc) (nextId : ℕ) :
    Prop where
  task : ∀ t, o.task = some t → t.runId = o.runId ∧ t.companyId = o.companyId
  attempt : ∀ a ∈ o.attempts, a.runId = o.runId ∧ a.companyId = o.companyId ∧
    a.id < nextId ∧ ∃ t, o.task = some t ∧ a.taskId = t.id
  attempt_nodup : (o.attempts.map AttemptOwner.id).Nodup
  effect : ∀ e, o.effect = some e → e.runId = o.runId ∧ e.companyId = o.companyId ∧
    ∃ t, o.task = some t ∧ e.taskId = t.id ∧ e.effectKey = Worker.effectKey rt t.id t.type
  claim : ∀ w c, (workers w).claim = some c → o.Holds rt c ∧ c.leaseToken < nextId
  token : ∀ w w' c c', (workers w).claim = some c → (workers w').claim = some c' →
    c.leaseToken = c'.leaseToken → w = w'

/-- The invariant of a run, first part. -/
def Life.Owned (rt : Runtime) (l : Life) : Prop :=
  Aico.Owned rt l.owners l.workers l.nextId

namespace Life

/-! ## The transitions keep the owner columns -/

section

variable {l : Life} {t : TaskRow} {claim : ClaimedTask} {now : Timestamp}
  {event : EventRow}

theorem map_owner_updateWhere {p : TaskAttemptRow → Bool}
    {f : TaskAttemptRow → TaskAttemptRow} (hf : ∀ a, (f a).owner = a.owner)
    (attempts : List TaskAttemptRow) :
    (Table.updateWhere p f attempts).map TaskAttemptRow.owner =
      attempts.map TaskAttemptRow.owner :=
  Table.map_updateWhere hf attempts

theorem map_owner_map {f : ModelInvocationEffectRow → ModelInvocationEffectRow}
    (hf : ∀ e, (f e).owner = e.owner) (effect : Option ModelInvocationEffectRow) :
    (effect.map f).map ModelInvocationEffectRow.owner =
      effect.map ModelInvocationEffectRow.owner := by
  rw [Option.map_map]
  exact Option.map_congr fun e _ => hf e

@[simp] theorem owners_moved (w : ℕ) (pc : Pc) (n : ℕ) :
    (l.moved w pc n).owners = l.owners := rfl

@[simp] theorem owners_abandon (resultClass : String) :
    (l.abandon claim resultClass now).owners = l.owners := by
  have hf : ∀ a, (Worker.abandoned resultClass now a).owner = a.owner := fun _ => rfl
  exact Owners.ext rfl rfl rfl (map_owner_updateWhere hf _) rfl

@[simp] theorem owners_failAttempt : (l.failAttempt claim now).owners = l.owners := by
  have hf : ∀ a, (failedAttempt now a).owner = a.owner := fun _ => rfl
  exact Owners.ext rfl rfl rfl (map_owner_updateWhere hf _) rfl

@[simp] theorem owners_markUnknown : (l.markUnknown now).owners = l.owners := by
  refine Owners.ext rfl rfl rfl rfl (map_owner_map ?_ _)
  intro e
  unfold unknownEffect
  split <;> rfl

theorem owners_block (ht : l.task = some t) (bump : ℕ) :
    (l.block t bump now event).owners = l.owners :=
  Owners.ext rfl rfl (congrArg (Option.map TaskRow.owner) ht).symm rfl rfl

theorem owners_publish {rt : Runtime} {result : ModelResult}
    {artifactId artifactVersionId : Uuid} (ht : l.task = some t) :
    (l.publish rt claim t result artifactId artifactVersionId now event).owners =
      l.owners := by
  have hf : ∀ a, (Worker.succeededAttempt artifactVersionId result now a).owner =
      a.owner := fun _ => rfl
  refine Owners.ext rfl rfl (congrArg (Option.map TaskRow.owner) ht).symm
    (map_owner_updateWhere hf _) (map_owner_map ?_ _)
  intro e
  split <;> rfl

theorem owners_cancel (now : Timestamp) (event : EventRow) :
    (l.cancel now event).owners = l.owners := by
  refine Owners.ext rfl rfl ?_ rfl rfl
  simp only [owners, cancel, Option.map_map]
  refine Option.map_congr fun t _ => ?_
  simp only [Function.comp_apply]
  split <;> rfl

theorem owners_claim {config : WorkerConfig} {policyDecisionId : Uuid}
    (ht : l.task = some t) :
    (l.claim config t claim policyDecisionId now event).owners =
      { l.owners with
        attempts := l.owners.attempts ++
          [(Worker.attemptRow claim policyDecisionId).owner]
        effect := some (l.owners.effect.getD (Worker.effectRow claim).owner) } := by
  have hid : (if l.run.state = .draft then Worker.qualifying now l.run else l.run).id =
      l.run.id := by
    split <;> rfl
  have hcompanyId : (if l.run.state = .draft then Worker.qualifying now l.run
      else l.run).companyId = l.run.companyId := by
    split <;> rfl
  have hf : ∀ a, (Worker.abandoned "LEASE_EXPIRED" now a).owner = a.owner :=
    fun _ => rfl
  refine Owners.ext hid hcompanyId (congrArg (Option.map TaskRow.owner) ht).symm ?_ ?_
  · simp only [owners, Life.claim, List.map_append]
    rw [map_owner_updateWhere hf]
    rfl
  · simp only [owners, Life.claim]
    cases l.effect <;> rfl

end

end Life

namespace Owned

variable {rt : Runtime} {o : Owners} {workers workers' : ℕ → Pc} {nextId nextId' : ℕ}

/-- Moves that hand out no claim keep the invariant. -/
theorem mono (h : Owned rt o workers nextId) (hn : nextId ≤ nextId')
    (hclaim : ∀ w c, (workers' w).claim = some c → (workers w).claim = some c) :
    Owned rt o workers' nextId' where
  task := h.task
  attempt a ha := by
    obtain ⟨hrun, hcompany, hlt, htask⟩ := h.attempt a ha
    exact ⟨hrun, hcompany, hlt.trans_le hn, htask⟩
  attempt_nodup := h.attempt_nodup
  effect := h.effect
  claim w c hc := by
    obtain ⟨hholds, hlt⟩ := h.claim w c (hclaim w c hc)
    exact ⟨hholds, hlt.trans_le hn⟩
  token w w' c c' hc hc' := h.token w w' c c' (hclaim w c hc) (hclaim w' c' hc')

theorem claim_update {w : ℕ} {pc : Pc}
    (hpc : ∀ c, pc.claim = some c → (workers w).claim = some c) (w' : ℕ) (c : ClaimedTask)
    (hc : (Function.update workers w pc w').claim = some c) :
    (workers w').claim = some c := by
  rcases eq_or_ne w' w with rfl | hne
  · rw [Function.update_self] at hc
    exact hpc c hc
  · rwa [Function.update_of_ne hne] at hc

end Owned

theorem Owned.claimed {rt : Runtime} {o : Owners} {workers : ℕ → Pc} {nextId n : ℕ}
    (h : Owned rt o workers nextId) {w : ℕ} {claim : ClaimedTask}
    {policyDecisionId : Uuid} {t : TaskOwner} (ht : o.task = some t)
    (hid : claim.id = t.id) (hrunId : claim.runId = t.runId)
    (hcompanyId : claim.companyId = t.companyId)
    (hkey : claim.effectKey = Worker.effectKey rt t.id t.type)
    (hleaseToken : nextId ≤ claim.leaseToken ∧ claim.leaseToken < n)
    (hattemptId : nextId ≤ claim.attemptId ∧ claim.attemptId < n) :
    Owned rt
      { o with
        attempts := o.attempts ++ [(Worker.attemptRow claim policyDecisionId).owner]
        effect := some (o.effect.getD (Worker.effectRow claim).owner) }
      (Function.update workers w (.claimed claim)) n := by
  have hn : nextId ≤ n := hleaseToken.1.trans hleaseToken.2.le
  obtain ⟨htrun, htcompany⟩ := h.task t ht
  refine
    { task := h.task
      attempt := ?_
      attempt_nodup := ?_
      effect := ?_
      claim := ?_
      token := ?_ }
  · intro a ha
    rcases List.mem_append.mp ha with ha | ha
    · obtain ⟨hrun, hcompany, hlt, htask⟩ := h.attempt a ha
      exact ⟨hrun, hcompany, hlt.trans_le hn, htask⟩
    · obtain rfl := List.mem_singleton.mp ha
      exact ⟨hrunId.trans htrun, hcompanyId.trans htcompany, hattemptId.2, t, ht, hid⟩
  · refine Table.nodup_key_append h.attempt_nodup ?_
    intro a ha heq
    have hlt := (h.attempt a ha).2.2.1
    rw [heq] at hlt
    exact absurd hlt (not_lt.mpr hattemptId.1)
  · intro e he
    cases heffect : o.effect with
    | none =>
        rw [heffect] at he
        obtain rfl := Option.some.inj he
        exact ⟨hrunId.trans htrun, hcompanyId.trans htcompany, t, ht, hid, hkey⟩
    | some e' =>
        rw [heffect] at he
        obtain rfl := Option.some.inj he
        exact h.effect e' heffect
  · intro w' c hc
    rcases eq_or_ne w' w with rfl | hne
    · rw [Function.update_self] at hc
      obtain rfl := Option.some.inj hc
      refine ⟨⟨hrunId.trans htrun, hcompanyId.trans htcompany, ⟨t, ht, hid, hkey⟩, ?_, rfl⟩,
        hleaseToken.2⟩
      exact ⟨_, List.mem_append_right _ List.mem_cons_self, rfl⟩
    · rw [Function.update_of_ne hne] at hc
      obtain ⟨hholds, hlt⟩ := h.claim w' c hc
      obtain ⟨a, ha, haid⟩ := hholds.attempt
      exact ⟨⟨hholds.runId, hholds.companyId, hholds.task,
        ⟨a, List.mem_append_left _ ha, haid⟩, rfl⟩, hlt.trans_le hn⟩
  · have hold : ∀ w' c, w' ≠ w →
        (Function.update workers w (.claimed claim) w').claim = some c →
        (workers w').claim = some c := by
      intro w' c hne hc
      rwa [Function.update_of_ne hne] at hc
    have hnew : ∀ c, (Function.update workers w (.claimed claim) w).claim = some c →
        c = claim := by
      intro c hc
      rw [Function.update_self] at hc
      exact (Option.some.inj hc).symm
    intro w₁ w₂ c₁ c₂ h₁ h₂ htoken
    by_cases hw₁ : w₁ = w <;> by_cases hw₂ : w₂ = w
    · rw [hw₁, hw₂]
    · rw [hnew c₁ (hw₁ ▸ h₁)] at htoken
      have hlt := (h.claim w₂ c₂ (hold w₂ c₂ hw₂ h₂)).2
      rw [← htoken] at hlt
      exact absurd hlt (not_lt.mpr hleaseToken.1)
    · rw [hnew c₂ (hw₂ ▸ h₂)] at htoken
      have hlt := (h.claim w₁ c₁ (hold w₁ c₁ hw₁ h₁)).2
      rw [htoken] at hlt
      exact absurd hlt (not_lt.mpr hleaseToken.1)
    · exact h.token w₁ w₂ c₁ c₂ (hold w₁ c₁ hw₁ h₁) (hold w₂ c₂ hw₂ h₂) htoken

namespace Life

variable {rt : Runtime} {l l' : Life}

theorem Owned.of_eq (h : l.Owned rt) (howners : l'.owners = l.owners)
    (hn : l.nextId ≤ l'.nextId)
    (hclaim : ∀ w c, (l'.workers w).claim = some c → (l.workers w).claim = some c) :
    l'.Owned rt := by
  rw [Life.Owned, howners]
  exact Aico.Owned.mono h hn hclaim

/-- Every transition keeps rows and claims with their run. -/
theorem Owned.step {act : Action} (h : l.Owned rt) (hstep : LifeStep rt act l l') :
    l'.Owned rt := by
  have hkeep : ∀ {w : ℕ} {pc : Pc}, (∀ c, pc.claim = some c → (l.workers w).claim = some c) →
      ∀ w' c, (Function.update l.workers w pc w').claim = some c →
        (l.workers w').claim = some c :=
    fun hpc => Aico.Owned.claim_update hpc
  cases hstep with
  | rest _ _ n hn => exact h.of_eq rfl hn fun _ _ hc => hc
  | move _ _ w pc n hn hclaim => exact h.of_eq rfl hn (hkeep hclaim)
  | claim w config runId locked _ t leaseToken attemptId policyDecisionId now event n
      hpc htask hclaimable hleaseToken hattemptId hevent =>
      have ht : l.owners.task = some t.owner := congrArg (Option.map TaskRow.owner) htask
      rw [Life.Owned, owners_moved, owners_claim htask]
      exact Aico.Owned.claimed h ht rfl rfl rfl rfl hleaseToken hattemptId
  | begin w _ claim context e n hn hpc heffect hbegin =>
      refine h.of_eq ?_ hn (hkeep ?_)
      · simp only [owners, heffect]
        rfl
      · rintro c ⟨⟩
        rw [hpc]
        rfl
  | refuse w _ claim context n hn hpc =>
      refine h.of_eq rfl hn (hkeep ?_)
      rintro c ⟨⟩
      rw [hpc]
      rfl
  | invoke w _ claim context hpc =>
      refine h.of_eq rfl le_rfl (hkeep ?_)
      rintro c ⟨⟩
      rw [hpc]
      rfl
  | abandon _ w _ claim resultClass now n hn hpc =>
      refine h.of_eq (by simp) hn (hkeep ?_)
      rintro c ⟨⟩
      exact hpc
  | block w _ claim t now event n hn hpc hheld =>
      refine h.of_eq ?_ hn (hkeep ?_)
      · rw [owners_moved, owners_block (l := l.abandon _ _ _) hheld.1, owners_abandon]
      · rintro c ⟨⟩
        rw [hpc]
        rfl
  | staleComplete w _ claim result now n hn hpc hstale =>
      refine h.of_eq (by simp) hn (hkeep ?_)
      rintro c ⟨⟩
      rw [hpc]
      rfl
  | complete w _ claim result t artifactId artifactVersionId now event n hn hpc hheld =>
      refine h.of_eq ?_ hn (hkeep ?_)
      · rw [owners_moved, owners_publish hheld.1]
      · rintro c ⟨⟩
        rw [hpc]
        rfl
  | staleFail w _ claim now n hn hpc hstale =>
      refine h.of_eq (by simp) hn (hkeep ?_)
      rintro c ⟨⟩
  | fail w _ claim t now event n hn hpc hheld =>
      refine h.of_eq ?_ hn (hkeep ?_)
      · rw [owners_moved,
          owners_block (l := (l.failAttempt claim now).markUnknown now) hheld.1,
          owners_markUnknown, owners_failAttempt]
      · rintro c ⟨⟩
  | openWait input _ t waitId requestId now event n hwaitId htask =>
      refine h.of_eq ?_ (hwaitId.1.trans hwaitId.2.le) fun _ _ hc => hc
      simp only [owners, drawn, Life.openWait, htask]
      rfl
  | answer input _ t wait source answerVersionId resumedContextSnapshotId now event n hn
      htask =>
      refine h.of_eq ?_ hn fun _ _ hc => hc
      simp only [owners, drawn, Life.answer, htask]
      rfl
  | cancel companyId runId actorId correlationId _ now event n hn =>
      exact h.of_eq (owners_cancel now event) hn fun _ _ hc => hc

end Life

end Aico
