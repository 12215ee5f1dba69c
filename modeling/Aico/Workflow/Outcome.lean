import Aico.Workflow.Invocation
import Aico.Workflow.Publication

/-!
# The recorded outcome of the invocation

The effect row is shared by all attempts of a task, and `failTask` writes it
without looking at the invocation count or at the attempt. Two laws about the
row therefore hold only where that does not happen: the effect of a task that
succeeded is recorded as succeeded (`Accepted`), and an outcome is called unknown
only after an invocation was begun (`Justified`).
-/

namespace Aico.Life

variable {rt : Runtime} {l l' : Life} {t : TaskRow} {claim : ClaimedTask}
  {now : Timestamp} {event : EventRow}

def HolderBegun (l : Life) : Prop :=
  ∃ w c t, (l.workers w).invoked = true ∧ (l.workers w).claim = some c ∧ l.Held c t

structure Accepted (l : Life) : Prop where
  running : l.HolderBegun → ∀ e, l.effect = some e → e.status = .running
  succeeded : l.Succeeded → ∃ e v, l.effect = some e ∧ l.versions = [v] ∧
    e.status = .succeeded ∧ e.outputDigest = some v.checksum

namespace Accepted

/-- Transitions that leave the effect alone. -/
theorem of_quiet (h : l.Accepted) (heffect : l'.effect = l.effect)
    (hversions : l'.versions = l.versions) (hholder : l'.HolderBegun → l.HolderBegun)
    (hsucceeded : l'.Succeeded → l.Succeeded) : l'.Accepted where
  running hh := by
    rw [heffect]
    exact h.running (hholder hh)
  succeeded hs := by
    rw [heffect, hversions]
    exact h.succeeded (hsucceeded hs)

/-- Transitions after which the task is neither running nor done. -/
theorem of_idle (ht : l'.task = some t) (hrunning : t.state ≠ .running)
    (hsucceeded : t.state ≠ .succeeded) : l'.Accepted where
  running := by
    rintro ⟨w, c, u, -, -, hheld⟩
    have heq := hheld.1
    rw [ht] at heq
    obtain rfl := Option.some.inj heq
    exact absurd hheld.running hrunning
  succeeded := by
    rintro ⟨u, hu, hs⟩
    rw [ht] at hu
    obtain rfl := Option.some.inj hu
    exact absurd hs hsucceeded

theorem holderBegun_of_moved {w : ℕ} {pc : Pc} {n : ℕ}
    (hclaim : ∀ c, pc.claim = some c → (l.workers w).claim = some c)
    (hinvoked : pc.invoked = true → (l.workers w).invoked = true) :
    (l.moved w pc n).HolderBegun → l.HolderBegun := by
  rintro ⟨w', c, t, hw', hc, hheld⟩
  by_cases hw : w' = w
  · subst hw
    simp only [moved, Function.update_self] at hw' hc
    exact ⟨w', c, t, hinvoked hw', hclaim c hc, hheld⟩
  · simp only [moved, Function.update_of_ne hw] at hw' hc
    exact ⟨w', c, t, hw', hc, hheld⟩

theorem of_moved (h : l.Accepted) {w : ℕ} {pc : Pc} {n : ℕ}
    (hclaim : ∀ c, pc.claim = some c → (l.workers w).claim = some c)
    (hinvoked : pc.invoked = true → (l.workers w).invoked = true) :
    (l.moved w pc n).Accepted :=
  h.of_quiet rfl rfl (holderBegun_of_moved hclaim hinvoked) id

theorem markUnknown (h : l.Accepted) (hholder : ¬ l.HolderBegun) :
    (l.markUnknown now).Accepted where
  running hh := absurd hh hholder
  succeeded hs := by
    obtain ⟨e, v, he, hv, hstatus, hdigest⟩ := h.succeeded hs
    refine ⟨e, v, ?_, hv, hstatus, hdigest⟩
    simp [Life.markUnknown, he, unknownEffect, hstatus]

/-- A worker that has begun and does not hold the lease keeps every holder from
having begun. -/
theorem not_holderBegun_of_stale (hinvocation : l.Invocation) {w : ℕ}
    (hclaim : (l.workers w).claim = some claim) (hinvoked : (l.workers w).invoked = true)
    (hstale : l.Stale claim) : ¬ l.HolderBegun := by
  rintro ⟨w', c, t, hw', hc, hheld⟩
  obtain rfl := hinvocation.single w' w hw' hinvoked
  rw [hclaim] at hc
  obtain rfl := Option.some.inj hc
  have hfresh := hheld.2
  rw [Stale, hheld.1, Option.map_some, hfresh] at hstale
  cases hstale

/-- A new lease leaves the workers that have begun without it. -/
theorem taken (howned : l.Owned rt) (w : ℕ) {config : WorkerConfig}
    {policyDecisionId : Uuid} (hleaseToken : l.nextId ≤ claim.leaseToken) (n : ℕ) :
    ((l.claim config t claim policyDecisionId now event).moved w (.claimed claim)
      n).Accepted where
  running := by
    rintro ⟨w', c, u, hw', hc, hheld⟩
    by_cases hw : w' = w
    · subst hw
      simp only [moved, Function.update_self] at hw'
      cases hw'
    · simp only [moved, Function.update_of_ne hw] at hc
      have htask := hheld.1
      obtain rfl := Option.some.inj htask
      have htoken : claim.leaseToken = c.leaseToken := Option.some.inj hheld.leaseToken
      have hlt := (howned.claim w' c hc).2
      rw [← htoken] at hlt
      exact absurd hlt (not_lt.mpr hleaseToken)
  succeeded := by
    rintro ⟨u, hu, hs⟩
    obtain rfl := Option.some.inj hu
    cases hs

/-- The publication records the effect. -/
theorem publish (h : l.Accepted) (howned : l.Owned rt) (hpublication : l.Publication)
    {w : ℕ} (hclaim : (l.workers w).claim = some claim)
    (hinvoked : (l.workers w).invoked = true) (hheld : l.Held claim t)
    {result : ModelResult} {artifactId artifactVersionId : Uuid} :
    (l.publish rt claim t result artifactId artifactVersionId now event).Accepted where
  running := by
    rintro ⟨w', c, u, -, -, hheld'⟩
    have hrunning := hheld'.running
    obtain rfl := Option.some.inj hheld'.1
    cases hrunning
  succeeded := by
    rintro -
    have hnot : ¬ l.Succeeded := by
      rintro ⟨u, hu, hs⟩
      rw [hheld.1] at hu
      obtain rfl := Option.some.inj hu
      rw [hheld.running] at hs
      cases hs
    obtain ⟨hholds, -⟩ := howned.claim w claim hclaim
    obtain ⟨o, ho⟩ := Option.isSome_iff_exists.mp hholds.effect
    obtain ⟨e, he, -⟩ := Option.map_eq_some_iff.mp ho
    have hstatus := h.running ⟨w, claim, t, hinvoked, hclaim, hheld⟩ e he
    refine ⟨Worker.succeededEffect rt result now e,
      Worker.artifactVersionRow rt claim result artifactId artifactVersionId, ?_, ?_, rfl,
      rfl⟩
    · simp [Life.publish, he, hstatus]
    · simp [Life.publish, (hpublication.unpublished hnot).versions]

/-- The transition is not a stale failure under a holder that has begun. -/
def Safe (l : Life) (act : Action) : Prop :=
  ∀ w c, act = .failTask w → (∃ begun, l.workers w = .failing c begun) → l.Stale c →
    ¬ l.HolderBegun

/-- A safe transition keeps the recorded outcome. -/
theorem step {act : Action} (h : l.Accepted) (howned : l.Owned rt)
    (hinvocation : l.Invocation) (hpublication : l.Publication) (hsafe : Safe l act)
    (hstep : LifeStep rt act l l') : l'.Accepted := by
  cases hstep with
  | rest => exact h.of_quiet rfl rfl id id
  | move _ _ w pc n hn hclaim hinvoked => exact h.of_moved hclaim hinvoked
  | claim w config runId locked _ t leaseToken attemptId policyDecisionId now event n
      hpc htask hclaimable hleaseToken =>
      exact taken howned w hleaseToken.1 n
  | begin w _ claim context e n hn hpc heffect hbegin =>
      have hrunning := (canBegin_iff.mp hbegin).1
      refine ⟨fun _ e' he' => ?_, fun hs => ?_⟩
      · obtain rfl := Option.some.inj he'
        exact hrunning
      · obtain ⟨e', v, he', hv, hstatus, -⟩ := h.succeeded hs
        rw [heffect] at he'
        obtain rfl := Option.some.inj he'
        rw [hrunning] at hstatus
        cases hstatus
  | refuse w _ claim context n hn hpc =>
      refine h.of_moved ?_ (by simp [Pc.invoked])
      rintro c ⟨⟩
      rw [hpc]
      rfl
  | invoke w _ claim context hpc =>
      have hcalls : ({ l with calls := claim :: l.calls } : Life).Accepted :=
        h.of_quiet rfl rfl id id
      refine hcalls.of_moved ?_ ?_
      · rintro c ⟨⟩
        exact congrArg Pc.claim hpc
      · rintro -
        exact congrArg Pc.invoked hpc
  | abandon _ w _ claim resultClass now n hn hpc =>
      have habandon : (l.abandon claim resultClass now).Accepted :=
        h.of_quiet rfl rfl id id
      refine habandon.of_moved ?_ (by simp [Pc.invoked])
      rintro c ⟨⟩
      exact hpc
  | block w _ claim t now event n hn hpc hheld =>
      exact of_idle rfl (by simp [Worker.blockedTask]) (by simp [Worker.blockedTask])
  | staleComplete w _ claim result now n hn hpc hstale =>
      have habandon : (l.abandon claim "STALE_COMPLETION" now).Accepted :=
        h.of_quiet rfl rfl id id
      have hholder := not_holderBegun_of_stale hinvocation (congrArg Pc.claim hpc)
        (congrArg Pc.invoked hpc) hstale
      refine (habandon.markUnknown hholder).of_moved ?_ (by simp [Pc.invoked])
      rintro c ⟨⟩
      exact congrArg Pc.claim hpc
  | complete w _ claim result t artifactId artifactVersionId now event n hn hpc hheld =>
      refine (h.publish howned hpublication (congrArg Pc.claim hpc)
        (congrArg Pc.invoked hpc) hheld).of_moved ?_ (by simp [Pc.invoked])
      rintro c ⟨⟩
      exact congrArg Pc.claim hpc
  | staleFail w _ claim now n hn hpc hstale =>
      have habandon : (l.abandon claim "STALE_FAILURE" now).Accepted :=
        h.of_quiet rfl rfl id id
      have hholder := hsafe w claim rfl hpc hstale
      refine (habandon.markUnknown hholder).of_moved ?_ (by simp [Pc.invoked])
      rintro c ⟨⟩
  | fail w _ claim t now event n hn hpc hheld =>
      exact of_idle rfl (by simp [Worker.blockedTask]) (by simp [Worker.blockedTask])
  | openWait input _ t =>
      exact of_idle rfl (by simp [DurableWait.awaitingTask])
        (by simp [DurableWait.awaitingTask])
  | answer input _ t =>
      exact of_idle rfl (by simp [DurableWait.readyTask]) (by simp [DurableWait.readyTask])
  | cancel companyId runId actorId correlationId _ now event n hn hactive hevent =>
      have hkeeps : l.Keeps (l.cancel now event) := .cancel hevent
      refine h.of_quiet rfl rfl ?_ hkeeps.succeeded.mp
      rintro ⟨w, c, t, -, -, hheld⟩
      have hcanceled := hheld.active
      cases hcanceled

end Accepted

/-- An unknown outcome is the outcome of an invocation that was begun. -/
structure Justified (l : Life) : Prop where
  status : ∀ e, l.effect = some e → e.status ≠ .running → l.invocationCount = 1
  unknown : ∀ w c, l.workers w = .outcomeUnknown c → l.invocationCount = 1
  task : ∀ t, l.task = some t → t.state = .blocked → l.invocationCount = 1
  run : l.run.state = .blocked → l.invocationCount = 1
  claimed : ∀ t e, l.task = some t → l.effect = some e → e.invocationCount = 0 →
    t.state = .running ∨ l.run.state = .canceled

namespace Justified

/-- Transitions that keep the effect and lead to no new place of doubt. -/
theorem of_quiet (h : l.Justified) (heffect : l'.effect = l.effect)
    (hunknown : ∀ w c, l'.workers w = .outcomeUnknown c → l.workers w = .outcomeUnknown c)
    (htask : l'.task = l.task) (hrun : l'.run = l.run) : l'.Justified where
  status e he hstatus := by
    rw [heffect] at he
    rw [invocationCount, heffect]
    exact h.status e he hstatus
  unknown w c hw := by
    rw [invocationCount, heffect]
    exact h.unknown w c (hunknown w c hw)
  task t ht hstate := by
    rw [htask] at ht
    rw [invocationCount, heffect]
    exact h.task t ht hstate
  run hstate := by
    rw [hrun] at hstate
    rw [invocationCount, heffect]
    exact h.run hstate
  claimed t e ht he := by
    rw [htask] at ht
    rw [heffect] at he
    rw [hrun]
    exact h.claimed t e ht he

/-- Transitions at an invocation that was begun. -/
theorem of_one (hcount : l'.invocationCount = 1) : l'.Justified where
  status _ _ _ := hcount
  unknown _ _ _ := hcount
  task _ _ _ := hcount
  run _ := hcount
  claimed t e ht he hzero := by
    rw [invocationCount, he] at hcount
    exact absurd (hcount.symm.trans hzero) (by decide)

/-- Transitions that leave effect and workers alone and block nothing. -/
theorem of_unblocked (h : l.Justified) (heffect : l'.effect = l.effect)
    (hworkers : l'.workers = l.workers) (htask : ∀ t, l'.task = some t → t.state ≠ .blocked)
    (hrun : l'.run.state ≠ .blocked)
    (hclaimed : ∀ t e, l'.task = some t → l.effect = some e → e.invocationCount = 0 →
      t.state = .running ∨ l'.run.state = .canceled) : l'.Justified where
  status e he hstatus := by
    rw [heffect] at he
    rw [invocationCount, heffect]
    exact h.status e he hstatus
  unknown w c hw := by
    rw [hworkers] at hw
    rw [invocationCount, heffect]
    exact h.unknown w c hw
  task t ht hstate := absurd hstate (htask t ht)
  run hstate := absurd hstate hrun
  claimed t e ht he := by
    rw [heffect] at he
    exact hclaimed t e ht he

/-- A new lease. -/
theorem taken (h : l.Justified) (hcoherence : l.Coherence) (htask : l.task = some t)
    {runId : Option Uuid} (hclaimable : Worker.claimable now runId t l.run = true) (w : ℕ)
    {config : WorkerConfig} {policyDecisionId : Uuid} (n : ℕ) :
    ((l.claim config t claim policyDecisionId now event).moved w (.claimed claim)
      n).Justified where
  status e he hstatus := by
    refine (invocationCount_claim config t claim policyDecisionId now event).trans ?_
    cases heffect : l.effect with
    | none =>
        simp only [moved, Life.claim, heffect, Option.getD_none] at he
        obtain rfl := Option.some.inj he
        exact absurd rfl hstatus
    | some e' =>
        simp only [moved, Life.claim, heffect, Option.getD_some] at he
        obtain rfl := Option.some.inj he
        exact h.status e' heffect hstatus
  unknown w' c hw' := by
    refine (invocationCount_claim config t claim policyDecisionId now event).trans ?_
    rcases Pc.of_update (P := (· = .outcomeUnknown c)) hw' with ⟨-, hpc⟩ | ⟨-, hpc⟩
    · cases hpc
    · exact h.unknown w' c hpc
  task t' ht' hstate := by
    obtain rfl := Option.some.inj ht'
    cases hstate
  run hstate := by
    have hafter : (l.claim config t claim policyDecisionId now event).Coherence :=
      hcoherence.claim htask hclaimable
    have hs := (hafter.coherent rfl).qualifying_of_running
    exact absurd (hs.symm.trans hstate) (by decide)
  claimed t' e ht' he hzero := by
    obtain rfl := Option.some.inj ht'
    exact .inl rfl

/-- The transition is not a failure at an invocation that was not begun. -/
def Safe (l : Life) (act : Action) : Prop :=
  ∀ w c, act = .failTask w → (∃ begun, l.workers w = .failing c begun) →
    l.invocationCount ≠ 0

/-- An invocation that is refused has been begun before, by the worker's own or an earlier
attempt. -/
theorem count_of_refused (h : l.Justified) (howned : l.Owned rt) (hinvocation : l.Invocation)
    {w : ℕ} (hclaim : (l.workers w).claim = some claim)
    (hrefuse : ∀ e, l.effect = some e → Worker.canBegin e = false) : l.invocationCount = 1 := by
  obtain ⟨hholds, -⟩ := howned.claim w claim hclaim
  obtain ⟨o, ho⟩ := Option.isSome_iff_exists.mp hholds.effect
  obtain ⟨e, he, -⟩ := Option.map_eq_some_iff.mp ho
  have hno := hrefuse e he
  have hcount : l.invocationCount = e.invocationCount := by rw [invocationCount, he]; rfl
  by_cases hstatus : e.status = .running
  · have hle := hinvocation.count_le
    have hpos : l.invocationCount ≠ 0 := by
      intro hzero
      rw [canBegin_iff.mpr ⟨hstatus, hcount ▸ hzero⟩] at hno
      cases hno
    omega
  · exact h.status e he hstatus

/-- A safe transition keeps every doubt justified. -/
theorem step {act : Action} (h : l.Justified) (howned : l.Owned rt)
    (hcoherence : l.Coherence) (hinvocation : l.Invocation) (hsafe : Safe l act)
    (hstep : LifeStep rt act l l') : l'.Justified := by
  have hone : l.invocationCount ≠ 0 → l.invocationCount = 1 := by
    have := hinvocation.count_le
    omega
  cases hstep with
  | rest => exact h.of_quiet rfl (fun _ _ hw => hw) rfl rfl
  | move _ _ w pc n hn hclaim hinvoked hpending hunknown =>
      refine h.of_quiet rfl (fun w' c hw' => ?_) rfl rfl
      rcases Pc.of_update (P := (· = .outcomeUnknown c)) hw' with ⟨-, hpc⟩ | ⟨-, hpc⟩
      · exact absurd hpc (hunknown c)
      · exact hpc
  | claim w config runId locked _ t leaseToken attemptId policyDecisionId now event n
      hpc htask hclaimable =>
      exact h.taken hcoherence htask hclaimable w n
  | begin => exact of_one rfl
  | refuse w _ claim context n hn hpc hrefuse =>
      have hclaim := congrArg Pc.claim hpc
      exact of_one (h.count_of_refused howned hinvocation hclaim hrefuse)
  | invoke w _ claim context hpc => exact of_one (hinvocation.begun w (congrArg Pc.invoked hpc))
  | abandon _ w _ claim resultClass now n hn hpc =>
      refine h.of_quiet rfl (fun w' c hw' => ?_) rfl rfl
      rcases Pc.of_update (P := (· = .outcomeUnknown c)) hw' with ⟨-, hpc'⟩ | ⟨-, hpc'⟩
      · cases hpc'
      · exact hpc'
  | block w _ claim t now event n hn hpc hheld => exact of_one (h.unknown w claim hpc)
  | staleComplete w _ claim result now n hn hpc hstale =>
      exact of_one ((invocationCount_markUnknown now).trans
        (hinvocation.begun w (congrArg Pc.invoked hpc)))
  | complete w _ claim result t artifactId artifactVersionId now event n hn hpc hheld =>
      refine of_one ?_
      rw [← hinvocation.begun w (congrArg Pc.invoked hpc)]
      exact invocationCount_publish claim t result artifactId artifactVersionId now event
  | staleFail w _ claim now n hn hpc hstale =>
      exact of_one ((invocationCount_markUnknown now).trans (hone (hsafe w claim rfl hpc)))
  | fail w _ claim t now event n hn hpc hheld =>
      exact of_one ((invocationCount_markUnknown now).trans (hone (hsafe w claim rfl hpc)))
  | openWait input _ t waitId requestId now event n hwaitId htask hcompany hrun htaskId
      hversion hdraft hready =>
      refine h.of_unblocked rfl rfl ?_ (by simp [drawn, Life.openWait, DurableWait.awaitingRun])
        fun t' e ht' he hzero => ?_
      · intro t' ht'
        obtain rfl := Option.some.inj ht'
        simp [DurableWait.awaitingTask]
      · rcases h.claimed t e htask he hzero with hs | hs
        · rcases hready with hr | hr <;> rw [hr] at hs <;> cases hs
        · rw [hdraft] at hs
          cases hs
  | answer input _ t wait source answerVersionId resumedContextSnapshotId now event n hn
      htask hwait hwaitId hanswerable =>
      have hexpects := DurableWait.answerable_iff.mp hanswerable
      have hstate := hexpects.awaiting
      have hmark := hexpects.uncanceled
      refine h.of_unblocked rfl rfl ?_ ?_ fun t' e ht' he hzero => ?_
      · intro t' ht'
        obtain rfl := Option.some.inj ht'
        simp [DurableWait.readyTask]
      · simp [drawn, Life.answer, DurableWait.resumedRun, hcoherence.resume wait hwait]
      · rcases h.claimed t e htask he hzero with hs | hs
        · rw [hstate] at hs
          cases hs
        · have := hcoherence.cancellation.mpr hs
          rw [hmark] at this
          cases this
  | cancel companyId runId actorId correlationId _ now event n hn hactive =>
      have hblocked : ∀ t, (l.cancel now event).task = some t → t.state ≠ .blocked :=
        fun _ => state_ne_blocked_of_cancel
      exact h.of_unblocked rfl rfl hblocked (by simp [drawn, Life.cancel, DurableWait.canceledRun])
        fun _ _ _ _ _ => .inr rfl

end Justified

end Aico.Life
