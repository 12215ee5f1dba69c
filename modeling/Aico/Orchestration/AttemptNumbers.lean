import Aico.Orchestration.LeaseFencing

/-!
# Attempt numbers and the lease of a task

Every claim of a task adds an attempt under the next number and gives up the
attempts that are still running; every other transition only closes attempts.
So the attempts of a task are numbered from `1` to its attempt count, the newest
one alone may be running, and a running task is held under the lease that the
newest attempt was made for.
-/

namespace Aico

def TaskAttemptRow.leaseToken (a : TaskAttemptRow) : Option Json :=
  a.runtimeManifest.field "lease_token"

/-- The columns of an attempt that stay as its claim wrote them. -/
def TaskAttemptRow.mark (a : TaskAttemptRow) : Uuid × ℕ × Json :=
  (a.id, a.attemptNumber, a.runtimeManifest)

theorem Worker.leaseToken_attemptRow (claim : ClaimedTask) (policyDecisionId : Uuid) :
    (attemptRow claim policyDecisionId).leaseToken = some (.uuid claim.leaseToken) := by
  rw [TaskAttemptRow.leaseToken, attemptRow]
  refine Json.field_jsonb (v := .uuid claim.leaseToken) ?_ ?_
  · simp only [List.map_cons, List.map_nil]
    decide
  · simp

namespace Life

/-- Attempts are closed, and nothing else happens to them. -/
structure Closes (attempts attempts' : List TaskAttemptRow) : Prop where
  marks : attempts'.map TaskAttemptRow.mark = attempts.map TaskAttemptRow.mark
  running : ∀ a ∈ attempts', a.status = .running → a ∈ attempts

namespace Closes

variable {attempts attempts' : List TaskAttemptRow} {p : TaskAttemptRow → Bool}
  {f : TaskAttemptRow → TaskAttemptRow}

theorem refl (attempts : List TaskAttemptRow) : Closes attempts attempts where
  marks := rfl
  running _ ha _ := ha

theorem updateWhere (hmark : ∀ a, (f a).mark = a.mark)
    (hstatus : ∀ a, (f a).status ≠ .running) (attempts : List TaskAttemptRow) :
    Closes attempts (Table.updateWhere p f attempts) where
  marks := Table.map_updateWhere hmark attempts
  running := by
    refine Table.forall_mem_updateWhere.mpr ?_
    intro a ha hrunning
    split at hrunning
    · exact absurd hrunning (hstatus a)
    next hp =>
      rw [if_neg hp]
      exact ha

theorem numbers (h : Closes attempts attempts') :
    attempts'.map TaskAttemptRow.attemptNumber =
      attempts.map TaskAttemptRow.attemptNumber := by
  have hmarks := congrArg (List.map fun m => m.2.1) h.marks
  rwa [List.map_map, List.map_map] at hmarks

theorem mem (h : Closes attempts attempts') {a : TaskAttemptRow} (ha : a ∈ attempts) :
    ∃ a' ∈ attempts', a'.id = a.id ∧ a'.attemptNumber = a.attemptNumber ∧
      a'.leaseToken = a.leaseToken := by
  have hmem : a.mark ∈ attempts'.map TaskAttemptRow.mark := by
    rw [h.marks]
    exact List.mem_map_of_mem ha
  obtain ⟨a', ha', hmark⟩ := List.mem_map.mp hmem
  refine ⟨a', ha', congrArg Prod.fst hmark, congrArg (fun m => m.2.1) hmark, ?_⟩
  exact congrArg (fun m => m.2.2.field "lease_token") hmark

end Closes

def attemptCount (l : Life) : ℕ := l.task.elim 0 TaskRow.attemptCount

/-- What the attempts of a run, its effect and the lease of its task say about
one another. -/
structure Numbered (l : Life) : Prop where
  numbers : l.attempts.map TaskAttemptRow.attemptNumber = List.range' 1 l.attemptCount
  running : ∀ a ∈ l.attempts, a.status = .running → a.attemptNumber = l.attemptCount
  owner : ∀ t, l.task = some t → (t.leaseOwner.isSome ↔ t.state = .running)
  manifest : ∀ t, l.task = some t → t.state = .running →
    ∃ a ∈ l.attempts, a.attemptNumber = t.attemptCount ∧
      a.leaseToken = t.leaseToken.map Json.uuid
  unclaimed : l.effect = none → l.attempts = []
  first : ∀ e, l.effect = some e →
    ∃ a ∈ l.attempts, a.id = e.attemptId ∧ a.attemptNumber = 1

variable {rt : Runtime} {l l' : Life} {t : TaskRow} {act : Action}

theorem attemptCount_of_task (ht : l.task = some t) : l.attemptCount = t.attemptCount := by
  rw [attemptCount, ht]
  rfl

theorem attemptId_markUnknown (now : Timestamp) :
    (l.markUnknown now).effect.map ModelInvocationEffectRow.attemptId =
      l.effect.map ModelInvocationEffectRow.attemptId := by
  rw [markUnknown, Option.map_map]
  apply Option.map_congr
  intro e _
  simp only [Function.comp_apply, unknownEffect]
  split <;> rfl

namespace Numbered

theorem filter_eq (h : l.Numbered) {a : TaskAttemptRow} (ha : a ∈ l.attempts) {n : ℕ}
    (hn : a.attemptNumber = n) : l.attempts.filter (fun a => a.attemptNumber = n) = [a] := by
  have hnodup : (l.attempts.map TaskAttemptRow.attemptNumber).Nodup := by
    rw [h.numbers]
    exact List.nodup_range'
  refine Table.filter_eq_singleton hnodup ha fun a' _ => ?_
  rw [decide_eq_true_iff, hn]

/-- Transitions that close attempts, and keep the task or take its lease away. -/
theorem of_closes (h : l.Numbered) (hcloses : Closes l.attempts l'.attempts)
    (hcount : l'.attemptCount = l.attemptCount)
    (htask : ∀ t, l'.task = some t →
      l.task = some t ∨ (t.state ≠ .running ∧ t.leaseOwner = none))
    (heffect : l'.effect.map ModelInvocationEffectRow.attemptId =
      l.effect.map ModelInvocationEffectRow.attemptId) : l'.Numbered where
  numbers := by
    rw [hcloses.numbers, hcount]
    exact h.numbers
  running a ha hrunning := by
    rw [hcount]
    exact h.running a (hcloses.running a ha hrunning) hrunning
  owner t ht := by
    rcases htask t ht with ht | ⟨hstate, howner⟩
    · exact h.owner t ht
    · simp [hstate, howner]
  manifest t ht hstate := by
    rcases htask t ht with ht | ⟨hnot, -⟩
    · obtain ⟨a, ha, hnumber, htoken⟩ := h.manifest t ht hstate
      obtain ⟨a', ha', -, hnumber', htoken'⟩ := hcloses.mem ha
      exact ⟨a', ha', hnumber'.trans hnumber, htoken'.trans htoken⟩
    · exact absurd hstate hnot
  unclaimed he := by
    rw [he] at heffect
    have hmarks := hcloses.marks
    rw [h.unclaimed (Option.map_eq_none_iff.mp heffect.symm)] at hmarks
    exact List.map_eq_nil_iff.mp hmarks
  first e he := by
    rw [he] at heffect
    obtain ⟨e₀, he₀, hid⟩ := Option.map_eq_some_iff.mp heffect.symm
    obtain ⟨a, ha, haid, hnumber⟩ := h.first e₀ he₀
    obtain ⟨a', ha', haid', hnumber', -⟩ := hcloses.mem ha
    exact ⟨a', ha', haid'.trans (haid.trans hid), hnumber'.trans hnumber⟩

/-- A transition that takes the lease of the task away. -/
theorem of_released (h : l.Numbered) (hcloses : Closes l.attempts l'.attempts)
    (ht : l.task = some t) {t' : TaskRow} (ht' : l'.task = some t')
    (hcount : t'.attemptCount = t.attemptCount) (hstate : t'.state ≠ .running)
    (howner : t'.leaseOwner = none)
    (heffect : l'.effect.map ModelInvocationEffectRow.attemptId =
      l.effect.map ModelInvocationEffectRow.attemptId) : l'.Numbered := by
  refine h.of_closes hcloses ?_ ?_ heffect
  · rw [attemptCount_of_task ht', attemptCount_of_task ht, hcount]
  · intro u hu
    obtain rfl := Option.some.inj (ht'.symm.trans hu)
    exact .inr ⟨hstate, howner⟩

end Numbered

theorem closes_abandoned {p : TaskAttemptRow → Bool} (resultClass : String)
    (now : Timestamp) (attempts : List TaskAttemptRow) :
    Closes attempts (Table.updateWhere p (Worker.abandoned resultClass now) attempts) := by
  apply Closes.updateWhere
  · exact fun _ => rfl
  · simp [Worker.abandoned]

/-- A claim leaves none of the earlier attempts running. -/
theorem not_running_abandoned (h : l.Owned rt) (ht : l.task = some t)
    (resultClass : String) (now : Timestamp) :
    ∀ a ∈ Table.updateWhere
      (fun a => a.companyId = t.companyId ∧ a.taskId = t.id ∧ a.status = .running)
      (Worker.abandoned resultClass now) l.attempts, a.status ≠ .running := by
  have howner : l.owners.task = some t.owner := congrArg (Option.map TaskRow.owner) ht
  refine Table.forall_mem_updateWhere.mpr ?_
  intro a ha
  obtain ⟨-, hcompany, -, o, ho, htask⟩ := h.attempt a.owner (List.mem_map_of_mem ha)
  obtain rfl := Option.some.inj (howner.symm.trans ho)
  have hcompanyId : a.companyId = t.companyId := hcompany.trans (h.task _ howner).2.symm
  have htaskId : a.taskId = t.id := htask
  by_cases hrunning : a.status = .running
  · simp [hcompanyId, htaskId, hrunning, Worker.abandoned]
  · simp [hrunning]

namespace Numbered

theorem claim (h : l.Numbered) (howned : l.Owned rt) (ht : l.task = some t)
    {config : WorkerConfig} {leaseToken attemptId policyDecisionId : Uuid}
    {now : Timestamp} {event : EventRow} :
    (l.claim config t (Worker.claimOf rt t l.run leaseToken attemptId) policyDecisionId now
      event).Numbered := by
  have hcount : l.attemptCount = t.attemptCount := attemptCount_of_task ht
  have hcloses := closes_abandoned (p := fun a => decide (a.companyId = t.companyId ∧
    a.taskId = t.id ∧ a.status = .running)) "LEASE_EXPIRED" now l.attempts
  have hnone := not_running_abandoned howned ht "LEASE_EXPIRED" now
  refine
    { numbers := ?_
      running := ?_
      owner := ?_
      manifest := ?_
      unclaimed := nofun
      first := ?_ }
  · change (_ ++ [_]).map _ = List.range' 1 (t.attemptCount + 1)
    rw [List.map_append, List.range'_1_concat, Nat.add_comm 1 t.attemptCount, ← hcount,
      ← h.numbers]
    exact congrArg₂ _ hcloses.numbers (congrArg (fun n => [n + 1]) hcount.symm)
  · intro a ha hrunning
    rcases List.mem_append.mp ha with ha | ha
    · exact absurd hrunning (hnone a ha)
    · obtain rfl := List.mem_singleton.mp ha
      rfl
  · intro u hu
    obtain rfl := Option.some.inj hu
    exact iff_of_true rfl rfl
  · intro u hu _
    obtain rfl := Option.some.inj hu
    refine ⟨_, List.mem_append_right _ List.mem_cons_self, rfl, ?_⟩
    exact Worker.leaseToken_attemptRow _ _
  · intro e he
    cases heffect : l.effect with
    | none =>
        -- nobody has claimed the task before, so this attempt is the first
        have hzero : t.attemptCount = 0 := by
          have hnumbers := h.numbers
          rw [h.unclaimed heffect, hcount] at hnumbers
          simpa using hnumbers.symm
        simp only [Life.claim, heffect, Option.getD_none, Option.some.injEq] at he
        obtain rfl := he
        refine ⟨_, List.mem_append_right _ List.mem_cons_self, rfl, ?_⟩
        change t.attemptCount + 1 = 1
        rw [hzero]
    | some e₀ =>
        simp only [Life.claim, heffect, Option.getD_some, Option.some.injEq] at he
        obtain rfl := he
        obtain ⟨a, ha, hid, hnumber⟩ := h.first e₀ heffect
        obtain ⟨a', ha', hid', hnumber', -⟩ := hcloses.mem ha
        exact ⟨a', List.mem_append_left _ ha', hid'.trans hid, hnumber'.trans hnumber⟩

theorem moved (h : l.Numbered) (w : ℕ) (pc : Pc) (n : ℕ) : (l.moved w pc n).Numbered :=
  h.of_closes (.refl _) rfl (fun _ => .inl) rfl

/-- The run is canceled, and with it the task unless it has ended. -/
theorem cancel (h : l.Numbered) (now : Timestamp) (event : EventRow) :
    (l.cancel now event).Numbered := by
  refine h.of_closes (.refl _) ?_ ?_ rfl
  · cases ht : l.task with
    | none => simp [attemptCount, Life.cancel, ht]
    | some t =>
        simp only [attemptCount, Life.cancel, ht, Option.map_some, Option.elim_some]
        split <;> rfl
  · intro t' ht'
    obtain ⟨t, ht, rfl⟩ := Option.map_eq_some_iff.mp ht'
    split
    · exact .inr ⟨by simp [DurableWait.canceledTask], rfl⟩
    · exact .inl ht

/-- Every transition keeps the numbers. -/
theorem step (h : l.Numbered) (howned : l.Owned rt) (hstep : LifeStep rt act l l') :
    l'.Numbered := by
  cases hstep with
  | rest | move | refuse | invoke => exact h.of_closes (.refl _) rfl (fun _ => .inl) rfl
  | claim w config runId locked _ t leaseToken attemptId policyDecisionId now event n
      hpc htask =>
      exact (h.claim howned htask).moved w _ n
  | begin w _ claim context e n hn hpc heffect =>
      refine h.of_closes (.refl _) rfl (fun _ => .inl) ?_
      rw [heffect]
      rfl
  | abandon _ w _ claim resultClass now n =>
      exact h.of_closes (closes_abandoned resultClass now _) rfl (fun _ => .inl) rfl
  | block w _ claim t now event n hn hpc hheld =>
      exact h.of_released (closes_abandoned _ now _) hheld.1 rfl rfl
        (by simp [Worker.blockedTask]) rfl rfl
  | staleComplete w _ claim result now n =>
      exact h.of_closes (closes_abandoned _ now _) rfl (fun _ => .inl)
        (attemptId_markUnknown (l := l) now)
  | complete w _ claim result t artifactId artifactVersionId now event n hn hpc hheld =>
      have hcloses := Closes.updateWhere
        (p := fun a => decide (a.companyId = claim.companyId ∧ a.id = claim.attemptId))
        (f := Worker.succeededAttempt artifactVersionId result now) (fun _ => rfl)
        (by simp [Worker.succeededAttempt]) l.attempts
      refine h.of_released hcloses hheld.1 rfl rfl ?_ rfl ?_
      · simp [Worker.succeededTask]
      · change (l.effect.map _).map _ = _
        rw [Option.map_map]
        apply Option.map_congr
        intro e _
        simp only [Function.comp_apply]
        split <;> rfl
  | staleFail w _ claim now n =>
      exact h.of_closes (closes_abandoned _ now _) rfl (fun _ => .inl)
        (attemptId_markUnknown (l := l) now)
  | fail w _ claim t now event n hn hpc hheld =>
      have hcloses := Closes.updateWhere
        (p := fun a => decide (a.companyId = claim.companyId ∧ a.id = claim.attemptId ∧
          a.status = .running))
        (f := failedAttempt now) (fun _ => rfl) (by simp [failedAttempt]) l.attempts
      exact h.of_released hcloses hheld.1 rfl rfl (by simp [Worker.blockedTask]) rfl
        (attemptId_markUnknown (l := l) now)
  | openWait input _ t waitId requestId now event n hwaitId htask =>
      exact h.of_released (.refl _) htask rfl rfl (by simp [DurableWait.awaitingTask]) rfl rfl
  | answer input _ t wait source answerVersionId resumedContextSnapshotId now event n hn
      htask =>
      exact h.of_released (.refl _) htask rfl rfl (by simp [DurableWait.readyTask]) rfl rfl
  | cancel companyId runId actorId correlationId _ now event n =>
      exact (h.cancel now event).of_closes (.refl _) rfl (fun _ => .inl) rfl

end Numbered

theorem numbered_of_new (hnew : l.New) : l.Numbered where
  numbers := by
    rw [hnew.attempts]
    cases ht : l.task with
    | none => simp [attemptCount, ht]
    | some t => simp [attemptCount_of_task ht, (hnew.unclaimed t ht).1]
  running a ha := by
    rw [hnew.attempts] at ha
    cases ha
  owner t ht := by simp [(hnew.unclaimed t ht).2, (hnew.task t ht).2.2.1]
  manifest t ht hstate := by
    rw [(hnew.task t ht).2.2.1] at hstate
    cases hstate
  unclaimed _ := hnew.attempts
  first e he := by
    rw [hnew.effect] at he
    cases he

end Life

namespace Sys

/-- The attempts of every task are numbered from `1` to its attempt count, and go
with its lease and with its effect. -/
structure AttemptsNumbered (s : Sys) : Prop where
  numbers : ∀ t ∈ s.world.db.tasks,
    (s.attemptsOf t.id).map TaskAttemptRow.attemptNumber = List.range' 1 t.attemptCount
  running : ∀ t ∈ s.world.db.tasks, ∀ a ∈ s.attemptsOf t.id, a.status = .running →
    a.attemptNumber = t.attemptCount
  lease : ∀ t ∈ s.world.db.tasks,
    (t.leaseToken.isSome ↔ t.state = .running) ∧
    (t.leaseOwner.isSome ↔ t.state = .running) ∧
    (t.leaseExpiresAt.isSome ↔ t.state = .running)
  manifest : ∀ t ∈ s.world.db.tasks, t.state = .running → ∃ a token,
    (s.attemptsOf t.id).filter (fun a => a.attemptNumber = t.attemptCount) = [a] ∧
    t.leaseToken = some token ∧ a.leaseToken = some (.uuid token)
  effect : ∀ t ∈ s.world.db.tasks,
    (s.effectsOf t.id = [] ∧ t.attemptCount = 0) ∨ ∃ e a, s.effectsOf t.id = [e] ∧
      (s.attemptsOf t.id).filter (fun a => a.attemptNumber = 1) = [a] ∧ a.id = e.attemptId

variable {rt : Runtime} {s : Sys}

/-- The law of an invariant state in which every run has its attempts numbered. -/
theorem Inv.attemptsNumbered (h : s.Inv rt) (hnumbered : s.Each Life.Numbered) :
    s.AttemptsNumbered where
  numbers t ht := by
    obtain ⟨l, hl, hlt, -⟩ := h.life_of_task ht
    rw [attemptsOf, h.attempts_of_task hl hlt, (hnumbered l hl).numbers,
      Life.attemptCount_of_task hlt]
  running t ht a ha hrunning := by
    obtain ⟨l, hl, hlt, -⟩ := h.life_of_task ht
    rw [attemptsOf, h.attempts_of_task hl hlt] at ha
    rw [(hnumbered l hl).running a ha hrunning, Life.attemptCount_of_task hlt]
  lease t ht := by
    obtain ⟨l, hl, hlt, hinv⟩ := h.life_of_task ht
    obtain ⟨htoken, hexpires⟩ := hinv.coherence.lease t hlt
    exact ⟨htoken, (hnumbered l hl).owner t hlt, hexpires⟩
  manifest t ht hstate := by
    obtain ⟨l, hl, hlt, hinv⟩ := h.life_of_task ht
    obtain ⟨a, ha, hnumber, htoken⟩ := (hnumbered l hl).manifest t hlt hstate
    obtain ⟨token, htask⟩ := Option.isSome_iff_exists.mp
      ((hinv.coherence.lease t hlt).1.mpr hstate)
    rw [htask] at htoken
    refine ⟨a, token, ?_, htask, htoken⟩
    rw [attemptsOf, h.attempts_of_task hl hlt]
    exact (hnumbered l hl).filter_eq ha hnumber
  effect t ht := by
    obtain ⟨l, hl, hlt, -⟩ := h.life_of_task ht
    rw [attemptsOf, effectsOf, h.attempts_of_task hl hlt, h.effects_of_task hl hlt]
    cases he : l.effect with
    | none =>
        have hnumbers := (hnumbered l hl).numbers
        rw [(hnumbered l hl).unclaimed he, Life.attemptCount_of_task hlt] at hnumbers
        exact .inl ⟨rfl, by simpa using hnumbers.symm⟩
    | some e =>
        obtain ⟨a, ha, hid, hnumber⟩ := (hnumbered l hl).first e he
        exact .inr ⟨e, a, rfl, (hnumbered l hl).filter_eq ha hnumber, hid⟩

/-- In every reachable state the attempts of a task are numbered by its claims. -/
theorem attemptsNumbered_after (services : Services) (init : InitialWorld)
    (acts : List Action) : (init.sys.after services acts).AttemptsNumbered := by
  have hnumbered : (init.sys.after services acts).Each Life.Numbered :=
    each_after (C := fun _ _ => True) (fun _ => Life.numbered_of_new)
      (fun _ _ _ _ _ _ _ hinv hnumbered hstep => hnumbered.step hinv.owned hstep) init
      (Transition.eachStep_of_forall (fun _ _ _ => trivial) _)
  exact (inv_after services init acts).attemptsNumbered hnumbered

example : ((demoInit.sys.after demoServices [demoStart, .claimTask 0 demoWorker none [],
    .tick 30001, .claimTask 1 demoWorker none []]).attemptsOf 8).map
      TaskAttemptRow.attemptNumber = [1, 2] := by decide +kernel

end Sys

end Aico
