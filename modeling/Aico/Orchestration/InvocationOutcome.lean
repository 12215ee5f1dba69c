import Aico.Orchestration.LeaseFencing
import Aico.Workflow.Evidence
import Aico.Workflow.Outcome

/-!
# What the effect row says about the invocation

Three laws about the effect row of a task: an accepted result is recorded as
succeeded with the digest of what was published, an outcome is called unknown
only where an invocation was begun, and a blocked task has its unknown outcome on
record. Each of them holds along every history that avoids one kind of step, and
fails after a history that takes it: `failTask` of a worker without the lease
while the holder has begun, `failTask` before any invocation was begun, and the
loss of the last worker that would have recorded the outcome.
-/

namespace Aico

namespace Sys

/-! ## The laws -/

/-- A task that succeeded has its effect recorded with the digest of the version it
published. -/
def OutcomeRecorded (s : Sys) : Prop :=
  ∀ t ∈ s.world.db.tasks, t.state = .succeeded → ∃ a v e, s.HasPublished t a v ∧
    s.effectsOf t.id = [e] ∧ e.status = .succeeded ∧ e.outputDigest = some v.checksum

def Begun (s : Sys) (taskId : Uuid) : Prop :=
  ∃ e, s.effectsOf taskId = [e] ∧ e.invocationCount = 1

/-- Nothing is called unknown, and nothing is blocked, before an invocation was
begun; until then the task may be claimed again once its lease has run out. -/
structure DoubtJustified (s : Sys) : Prop where
  effect : ∀ e ∈ s.world.db.modelInvocationEffects, e.status = .unknown →
    e.invocationCount = 1
  task : ∀ t ∈ s.world.db.tasks, t.state = .blocked → s.Begun t.id
  run : ∀ r ∈ s.world.db.runs, r.state = .blocked →
    ∃ t ∈ s.world.db.tasks, t.runId = r.id ∧ s.Begun t.id
  claimable : ∀ t ∈ s.world.db.tasks, ∀ r ∈ s.world.db.runs, r.id = t.runId →
    r.state ≠ .canceled → ∀ e ∈ s.effectsOf t.id, e.invocationCount = 0 →
      ∃ expiresAt, t.leaseExpiresAt = some expiresAt ∧
        ∀ now, expiresAt < now → Worker.claimable now none t r = true

/-- Some worker is between the invocation it has begun for the task and its
completion or failure. -/
def LiveOn (s : Sys) (taskId : Uuid) : Prop :=
  ∃ w claim, (s.workers w).claim = some claim ∧ claim.id = taskId ∧
    (s.workers w).live = true

/-- A blocked task without such a worker has its outcome recorded as unknown. -/
def EvidenceRecorded (s : Sys) : Prop :=
  ∀ t ∈ s.world.db.tasks, t.state = .blocked → ¬ s.LiveOn t.id →
    ∃ e, s.effectsOf t.id = [e] ∧ e.status = .unknown ∧ e.completedAt.isSome

/-! ## The steps that break them -/

def Stale (s : Sys) (claim : ClaimedTask) : Prop :=
  Worker.stale claim (Worker.currentRow claim s.world.db) = true

def HolderBegun (s : Sys) (taskId : Uuid) : Prop :=
  ∃ w claim, (s.workers w).claim = some claim ∧ claim.id = taskId ∧
    (s.workers w).invoked = true ∧ ¬ s.Stale claim

/-- A worker without the lease fails while the holder of the lease has begun. -/
def FailsUnderHolder (s : Sys) (act : Action) : Prop :=
  ∃ w claim begun, act = .failTask w ∧ s.workers w = .failing claim begun ∧
    s.Stale claim ∧ s.HolderBegun claim.id

/-- A worker fails before any invocation was begun for its task. -/
def FailsUnbegun (s : Sys) (act : Action) : Prop :=
  ∃ w claim begun, act = .failTask w ∧ s.workers w = .failing claim begun ∧
    ∀ e ∈ s.effectsOf claim.id, e.invocationCount = 0

/-- The outcome of the task is still to be recorded. -/
def Unsettled (s : Sys) (taskId : Uuid) : Prop :=
  ∀ e ∈ s.effectsOf taskId, e.status = .running

/-- The last record of an unknown outcome is lost: the task is blocked without a
worker that will record it, or that worker goes away. -/
def LosesEvidence (s : Sys) (act : Action) : Prop :=
  (∃ w claim, act = .blockUnknownModelOutcome w ∧ s.workers w = .outcomeUnknown claim ∧
    ¬ s.Stale claim ∧ s.Unsettled claim.id ∧ ¬ s.LiveOn claim.id) ∨
  ∃ w claim t, act.Drops w (s.workers w) ∧ (s.workers w).live = true ∧
    (s.workers w).claim = some claim ∧ t ∈ s.world.db.tasks ∧ t.id = claim.id ∧
    t.state = .blocked ∧ s.Unsettled claim.id

/-! ## A task and its run -/

variable {rt : Runtime} {services : Services} {s : Sys} {l : Life} {t : TaskRow}
  {act : Action}

theorem effectsOf_eq (h : s.Inv rt) (hl : Represents s l) (ht : l.task = some t) :
    s.effectsOf t.id = l.effect.toList :=
  h.effects_of_task hl ht

theorem begun_of_count (h : s.Inv rt) (hl : Represents s l) (ht : l.task = some t)
    (hcount : l.invocationCount = 1) : s.Begun t.id := by
  cases he : l.effect with
  | none =>
      rw [Life.invocationCount, he] at hcount
      cases hcount
  | some e =>
      rw [Life.invocationCount, he] at hcount
      exact ⟨e, by rw [effectsOf_eq h hl ht, he]; rfl, hcount⟩

/-- The claim of a worker on the run is on its task. -/
theorem claim_id {w : ℕ} {claim : ClaimedTask} (h : Claimed rt s w claim l)
    (ht : l.task = some t) : claim.id = t.id := by
  obtain ⟨u, hu, hid, -⟩ := h.claims.task
  obtain rfl := Option.some.inj (ht.symm.trans hu)
  exact hid.symm

/-- A worker with a claim on the task has it on the run of the task. -/
theorem worker_of_claim_id (h : s.Inv rt) (hl : Represents s l) (ht : l.task = some t)
    {w : ℕ} {claim : ClaimedTask} (hclaim : (s.workers w).claim = some claim)
    (hid : claim.id = t.id) : Claimed rt s w claim l := by
  obtain ⟨l', hl'⟩ := h.claimed hclaim
  obtain ⟨t', ht', hid', -⟩ := hl'.claims.task
  have hrun := h.task_eq hl ht hl'.represents ht' (hid'.trans hid)
  rw [← hl.unique hl'.represents hrun]
  exact hl'

theorem liveOn_iff (h : s.Inv rt) (hl : Represents s l) (ht : l.task = some t) :
    s.LiveOn t.id ↔ l.Live := by
  constructor
  · rintro ⟨w, claim, hclaim, hid, hlive⟩
    refine ⟨w, ?_⟩
    rw [(worker_of_claim_id h hl ht hclaim hid).worker, hlive]
  · rintro ⟨w, hlive⟩
    have hclaim : ∃ claim, (l.workers w).claim = some claim := by
      cases hpc : l.workers w <;> first | exact ⟨_, rfl⟩ | (rw [hpc] at hlive; cases hlive)
    obtain ⟨claim, hclaim⟩ := hclaim
    have hclaimed := hl.claimed h hclaim
    refine ⟨w, claim, hclaimed.holds, claim_id hclaimed ht, ?_⟩
    rw [← hclaimed.worker, hlive]

theorem unsettled_of_not_settled (h : s.Inv rt) (hl : Represents s l) (ht : l.task = some t)
    (hnot : ¬ l.Settled) : s.Unsettled t.id := by
  intro e he
  rw [effectsOf_eq h hl ht, Option.mem_toList] at he
  by_contra hstatus
  exact hnot ⟨e, he, hstatus⟩

/-! ## The outcome of an accepted result -/

theorem accepted_safe (h : s.Inv rt) (hl : Represents s l)
    (hsafe : ¬ s.FailsUnderHolder act) : Life.Accepted.Safe l act := by
  rintro w c hact ⟨begun, hpc⟩ hstale ⟨w', c', t, hinvoked, hc', hheld⟩
  have hclaimed := hl.claimed h (congrArg Pc.claim hpc)
  have hholder := hl.claimed h hc'
  refine hsafe ⟨w, c, begun, hact, hclaimed.worker.symm.trans hpc,
    (hclaimed.stale_iff h.unique).mpr hstale, w', c', hholder.holds, ?_, ?_, ?_⟩
  · rw [claim_id hholder hheld.1, claim_id hclaimed hheld.1]
  · rw [← hholder.worker, hinvoked]
  · rw [Stale, hholder.stale_iff h.unique, Life.Stale, hheld.1, Option.map_some, hheld.2]
    exact Bool.false_ne_true

theorem accepted_of_new (hnew : l.New) : l.Accepted where
  running := by
    rintro ⟨w, c, t, hinvoked, -⟩
    rw [hnew.workers] at hinvoked
    cases hinvoked
  succeeded hs := absurd hs hnew.not_succeeded

/-- Along a history in which no worker without the lease fails while the holder has
begun, every accepted result is recorded with the digest of what was published. -/
theorem outcomeRecorded_after (services : Services) (init : InitialWorld)
    (acts : List Action)
    (hsafe : Transition.EachStep (Sys.step services) (fun s act => ¬ s.FailsUnderHolder act)
      init.sys acts) : (init.sys.after services acts).OutcomeRecorded := by
  have h := inv_after services init acts
  have haccepted : (init.sys.after services acts).Each Life.Accepted :=
    each_after (fun l => accepted_of_new)
      (fun s act l l' hs hact hl hinv haccepted hstep =>
        haccepted.step hinv.owned hinv.invocation hinv.publication
          (accepted_safe hs hl hact) hstep) init hsafe
  intro t ht hstate
  obtain ⟨l, hl, hlt, hinv⟩ := h.life_of_task ht
  obtain ⟨a, v, hp⟩ := hinv.publication.published ⟨t, hlt, hstate⟩
  obtain ⟨e, v', he, hv', hstatus, hdigest⟩ :=
    (haccepted l hl).succeeded ⟨t, hlt, hstate⟩
  obtain rfl : v' = v := List.singleton_inj.mp (hv'.symm.trans hp.versions)
  refine ⟨a, v', e, h.hasPublished hl hlt hp, ?_, hstatus, hdigest⟩
  rw [effectsOf_eq h hl hlt, he]
  rfl

/-- Worker `0` loses its lease, worker `1` begins and succeeds; in between the late
failure of the first marks the effect. -/
def lateFailure : List Action :=
  [demoStart, .claimTask 0 demoWorker none [], .tick 30001, .claimTask 1 demoWorker none [],
    .loadContext 1, .isLeaseCurrent 1, .beginModelInvocation 1, .throws 0, .failTask 0,
    .invoke 1, .providerReturns 1 demoResult, .completeTask 1]

/-- A history after which a task that succeeded has its effect marked as unknown. -/
theorem outcomeRecorded_fails :
    ¬ (demoInit.sys.after demoServices lateFailure).OutcomeRecorded := by
  intro h
  have htask : ((demoInit.sys.after demoServices lateFailure).world.db.tasks.any fun t =>
      t.id = 8 ∧ t.state = .succeeded) = true := by decide +kernel
  have heffects : ((demoInit.sys.after demoServices lateFailure).effectsOf 8).all
      (fun e => e.status = .unknown) = true := by decide +kernel
  obtain ⟨t, ht, hdone⟩ := List.any_eq_true.mp htask
  obtain ⟨hid, hstate⟩ := of_decide_eq_true hdone
  obtain ⟨-, -, e, -, he, hstatus, -⟩ := h t ht hstate
  rw [hid] at he
  have hunknown := List.all_eq_true.mp heffects e (by rw [he]; exact List.mem_singleton_self e)
  rw [of_decide_eq_true hunknown] at hstatus
  cases hstatus

theorem outcomeRecorded_demo :
    ((demoInit.sys.after demoServices (demoStart :: demoRun 0)).world.db.tasks.any
      fun t => t.state = .succeeded) = true ∧
    (demoInit.sys.after demoServices (demoStart :: demoRun 0)).OutcomeRecorded := by
  refine ⟨by decide +kernel, outcomeRecorded_after demoServices demoInit _ ?_⟩
  refine Transition.eachStep_of_forall ?_ _
  simp [demoStart, demoRun, FailsUnderHolder]

/-! ## Unknown outcomes -/

theorem justified_safe (h : s.Inv rt) (hl : Represents s l)
    (hsafe : ¬ s.FailsUnbegun act) : Life.Justified.Safe l act := by
  rintro w c hact ⟨begun, hpc⟩ hzero
  have hclaimed := hl.claimed h (congrArg Pc.claim hpc)
  obtain ⟨t, ht, hid, -⟩ := hclaimed.claims.task
  refine hsafe ⟨w, c, begun, hact, hclaimed.worker.symm.trans hpc, fun e he => ?_⟩
  rw [← hid, effectsOf_eq h hl ht, Option.mem_toList] at he
  rw [Life.invocationCount, he] at hzero
  exact hzero

theorem justified_of_new (hnew : l.New) : l.Justified where
  status e he := by
    rw [hnew.effect] at he
    cases he
  unknown w c hpc := by
    rw [hnew.workers] at hpc
    cases hpc
  task t ht hblocked := by
    rw [(hnew.task t ht).2.2.1] at hblocked
    cases hblocked
  run hblocked := by
    have hstates := hnew.states
    cases ht : l.task with
    | none =>
        rw [hblocked, ht] at hstates
        cases hstates
    | some t =>
        rw [hblocked, ht, Option.map_some, (hnew.task t ht).2.2.1] at hstates
        cases hstates
  claimed t e ht he := by
    rw [hnew.effect] at he
    cases he

theorem claimable_of_running (hcoherence : l.Coherence) (ht : l.task = some t)
    (hstate : t.state = .running) :
    ∃ expiresAt, t.leaseExpiresAt = some expiresAt ∧
      ∀ now, expiresAt < now → Worker.claimable now none t l.run = true := by
  have hcoherent := hcoherence.coherent ht
  rw [hstate] at hcoherent
  have hqualifying := hcoherent.qualifying_of_running
  obtain ⟨expiresAt, hexpires⟩ :=
    Option.isSome_iff_exists.mp ((hcoherence.lease t ht).2.mpr hstate)
  have hactive : l.run.state.isTerminal = false := by
    rw [hqualifying]
    rfl
  have hmark := hcoherence.cancellationRequestedAt_eq_none hactive
  refine ⟨expiresAt, hexpires, fun now hnow => ?_⟩
  simp [Worker.claimable, hstate, hexpires, hnow, hactive, hmark]

/-- Along a history in which no worker fails before an invocation was begun for its
task, no outcome is called unknown without one. -/
theorem doubtJustified_after (services : Services) (init : InitialWorld)
    (acts : List Action)
    (hsafe : Transition.EachStep (Sys.step services) (fun s act => ¬ s.FailsUnbegun act)
      init.sys acts) : (init.sys.after services acts).DoubtJustified := by
  have h := inv_after services init acts
  have hjustified : (init.sys.after services acts).Each Life.Justified :=
    each_after (fun l => justified_of_new)
      (fun s act l l' hs hact hl hinv hjustified hstep =>
        hjustified.step hinv.owned hinv.coherence hinv.invocation
          (justified_safe hs hl hact) hstep) init hsafe
  refine { effect := fun e he hstatus => ?_, task := fun t ht hblocked => ?_,
           run := fun r hr hblocked => ?_, claimable := fun t ht r hr hid hactive e he hzero => ?_ }
  · obtain ⟨l, t, hl, hrun, hlt, hid, -⟩ := h.task_of_effect he
    have hmem : e ∈ (init.sys.after services acts).effectsOf t.id :=
      List.mem_filter.mpr ⟨he, decide_eq_true hid⟩
    rw [effectsOf_eq h hl hlt, Option.mem_toList] at hmem
    have hcount := (hjustified l hl).status e hmem (by simp [hstatus])
    rw [Life.invocationCount, hmem] at hcount
    exact hcount
  · obtain ⟨l, hl, hlt, hinv⟩ := h.life_of_task ht
    exact begun_of_count h hl hlt ((hjustified l hl).task t hlt hblocked)
  · obtain ⟨l, hl, rfl, hinv⟩ := h.life_of_run hr
    obtain ⟨t, ht⟩ : ∃ t, l.task = some t := by
      have hstates := hinv.coherence.states
      cases ht : l.task with
      | none =>
          rw [hblocked, ht] at hstates
          cases hstates
      | some t => exact ⟨t, rfl⟩
    obtain ⟨hmem, hrun⟩ := hl.shows.mem_tasks ht
    exact ⟨t, hmem, hrun, begun_of_count h hl ht ((hjustified l hl).run hblocked)⟩
  · obtain ⟨l, hl, hlt, hinv⟩ := h.life_of_task ht
    obtain rfl : l.run = r := Table.eq_of_key_eq h.unique.runs hl.shows.mem_runs hr
      ((hl.shows.mem_tasks hlt).2.symm.trans hid.symm)
    rw [effectsOf_eq h hl hlt, Option.mem_toList] at he
    rcases (hjustified l hl).claimed t e hlt he hzero with hstate | hcanceled
    · exact claimable_of_running hinv.coherence hlt hstate
    · exact absurd hcanceled hactive

/-- A worker that fails right after its claim blocks the task, and nothing was
begun. -/
theorem doubtJustified_fails :
    ¬ (demoInit.sys.after demoServices [demoStart, .claimTask 0 demoWorker none [],
      .throws 0, .failTask 0]).DoubtJustified := by
  intro h
  have heffect : ((demoInit.sys.after demoServices [demoStart,
      .claimTask 0 demoWorker none [], .throws 0, .failTask
        0]).world.db.modelInvocationEffects.any fun e =>
      e.status = .unknown ∧ e.invocationCount = 0) = true := by decide +kernel
  obtain ⟨e, he, hfound⟩ := List.any_eq_true.mp heffect
  obtain ⟨hstatus, hzero⟩ := of_decide_eq_true hfound
  have hone := h.effect e he hstatus
  rw [hzero] at hone
  cases hone

def begunFailure : List Action :=
  [demoStart, .claimTask 0 demoWorker none [], .loadContext 0, .isLeaseCurrent 0,
    .beginModelInvocation 0, .throws 0, .failTask 0]

theorem doubtJustified_demo :
    ((demoInit.sys.after demoServices begunFailure).world.db.tasks.any
      fun t => t.state = .blocked) = true ∧
    (demoInit.sys.after demoServices begunFailure).DoubtJustified := by
  refine ⟨by decide +kernel, doubtJustified_after demoServices demoInit _ ?_⟩
  refine (Transition.eachStep_append _ _ demoInit.sys (begunFailure.take 6) [.failTask 0]).mpr
    ⟨Transition.eachStep_of_forall (by simp [begunFailure, demoStart, FailsUnbegun]) _, ?_,
      trivial⟩
  rintro ⟨w, claim, begun, hact, hpc, hzero⟩
  obtain rfl : 0 = w := by simpa using hact
  have hid : ((Transition.run (Sys.step demoServices) demoInit.sys
      (begunFailure.take 6)).workers 0).claim.map ClaimedTask.id = some 8 := by decide +kernel
  have hone : ((Transition.run (Sys.step demoServices) demoInit.sys
      (begunFailure.take 6)).effectsOf 8).any (fun e => e.invocationCount = 1) = true := by
    decide +kernel
  rw [hpc] at hid
  rw [Option.some.inj hid] at hzero
  obtain ⟨e, he, hcount⟩ := List.any_eq_true.mp hone
  exact absurd ((hzero e he).symm.trans (of_decide_eq_true hcount)) (by decide)

/-! ## The evidence -/

theorem evidenced_safe (h : s.Inv rt) (hl : Represents s l)
    (hsafe : ¬ s.LosesEvidence act) : Life.Evidenced.Safe l act where
  block w c t hact hpc hheld := by
    by_contra hnot
    rw [not_or] at hnot
    have hclaimed := hl.claimed h (congrArg Pc.claim hpc)
    have hid := claim_id hclaimed hheld.1
    refine hsafe (.inl ⟨w, c, hact, hclaimed.worker.symm.trans hpc, ?_, ?_, ?_⟩)
    · rw [Stale, hclaimed.stale_iff h.unique, Life.Stale, hheld.1, Option.map_some, hheld.2]
      exact Bool.false_ne_true
    · rw [hid]
      exact unsettled_of_not_settled h hl hheld.1 hnot.2
    · rw [hid, liveOn_iff h hl hheld.1]
      exact hnot.1
  drop w t hdrops hlive ht hblocked := by
    by_contra hnot
    obtain ⟨c, hc⟩ : ∃ c, (l.workers w).claim = some c := by
      cases hpc : l.workers w <;> first | exact ⟨_, rfl⟩ | (rw [hpc] at hlive; cases hlive)
    have hclaimed := hl.claimed h hc
    have hid := claim_id hclaimed ht
    rw [hclaimed.worker] at hdrops hlive
    refine hsafe (.inr ⟨w, c, t, hdrops, hlive, hclaimed.holds, (hl.shows.mem_tasks ht).1,
      hid.symm, hblocked, ?_⟩)
    rw [hid]
    exact unsettled_of_not_settled h hl ht hnot

theorem evidenced_of_new (hnew : l.New) : l.Evidenced where
  unknown e he := by
    rw [hnew.effect] at he
    cases he
  succeeded e he := by
    rw [hnew.effect] at he
    cases he
  blocked t ht hblocked := by
    rw [(hnew.task t ht).2.2.1] at hblocked
    cases hblocked

/-- Along a history that does not lose the last record of an unknown outcome, every
blocked task without a live worker has its effect marked as unknown. -/
theorem evidenceRecorded_after (services : Services) (init : InitialWorld)
    (acts : List Action)
    (hsafe : Transition.EachStep (Sys.step services) (fun s act => ¬ s.LosesEvidence act)
      init.sys acts) : (init.sys.after services acts).EvidenceRecorded := by
  have h := inv_after services init acts
  have hevidenced : (init.sys.after services acts).Each Life.Evidenced :=
    each_after (fun l => evidenced_of_new)
      (fun s act l l' hs hact hl hinv hevidenced hstep =>
        hevidenced.step hinv.owned hinv.coherence (evidenced_safe hs hl hact) hstep)
      init hsafe
  intro t ht hblocked hlive
  obtain ⟨l, hl, hlt, -⟩ := h.life_of_task ht
  rw [liveOn_iff h hl hlt] at hlive
  obtain ⟨e, he, hsettled⟩ := ((hevidenced l hl).blocked t hlt hblocked).resolve_left hlive
  have hunknown : e.status = .unknown := by
    cases hstatus : e.status with
    | running => exact absurd hstatus hsettled
    | succeeded =>
        obtain ⟨u, hu, hs⟩ := (hevidenced l hl).succeeded e he hstatus
        obtain rfl := Option.some.inj (hlt.symm.trans hu)
        rw [hblocked] at hs
        cases hs
    | unknown => rfl
  refine ⟨e, ?_, hunknown, (hevidenced l hl).unknown e he hunknown⟩
  rw [effectsOf_eq h hl hlt, he]
  rfl

def lostInvocation : List Action :=
  [demoStart, .claimTask 0 demoWorker none [], .loadContext 0, .isLeaseCurrent 0,
    .beginModelInvocation 0, .crash 0, .tick 30001, .claimTask 1 demoWorker none [],
    .loadContext 1, .isLeaseCurrent 1, .beginModelInvocation 1, .blockUnknownModelOutcome 1]

/-- A history after which the effect of a blocked task is still running. -/
theorem evidenceRecorded_fails :
    ¬ (demoInit.sys.after demoServices lostInvocation).EvidenceRecorded := by
  intro h
  have htask : ((demoInit.sys.after demoServices lostInvocation).world.db.tasks.any fun t =>
      t.id = 8 ∧ t.state = .blocked) = true := by decide +kernel
  have heffects : ((demoInit.sys.after demoServices lostInvocation).effectsOf 8).all
      (fun e => e.status = .running) = true := by decide +kernel
  obtain ⟨t, ht, hdone⟩ := List.any_eq_true.mp htask
  obtain ⟨hid, hstate⟩ := of_decide_eq_true hdone
  have hdead : ∀ w, ((demoInit.sys.after demoServices lostInvocation).workers w).live =
      false := by
    intro w
    by_cases hw : w = 0 ∨ w = 1
    · rcases hw with rfl | rfl <;> decide +kernel
    · rw [not_or] at hw
      rw [demoInit.sys.workers_after]
      · rfl
      · simp [lostInvocation, demoStart, Action.worker, Ne.symm hw.1, Ne.symm hw.2]
  have hlive : ¬ (demoInit.sys.after demoServices lostInvocation).LiveOn t.id := by
    rintro ⟨w, -, -, -, hlive⟩
    rw [hdead w] at hlive
    cases hlive
  obtain ⟨e, he, hstatus, -⟩ := h t ht hstate hlive
  rw [hid] at he
  have hrunning := List.all_eq_true.mp heffects e (by rw [he]; exact List.mem_singleton_self e)
  rw [of_decide_eq_true hrunning] at hstatus
  cases hstatus

theorem evidenceRecorded_demo :
    ((demoInit.sys.after demoServices begunFailure).world.db.tasks.any
      fun t => t.state = .blocked) = true ∧
    (demoInit.sys.after demoServices begunFailure).EvidenceRecorded := by
  refine ⟨by decide +kernel, evidenceRecorded_after demoServices demoInit _ ?_⟩
  refine (Transition.eachStep_append _ _ demoInit.sys (begunFailure.take 5)
    [.throws 0, .failTask 0]).mpr
    ⟨Transition.eachStep_of_forall
      (by simp [begunFailure, demoStart, LosesEvidence, Action.Drops]) _, ?_, ?_, trivial⟩
  · rintro (⟨w, -, hact, -⟩ | ⟨w, -, -, hdrops, -⟩)
    · cases hact
    · have hlive : ((Transition.run (Sys.step demoServices) demoInit.sys
          (begunFailure.take 5)).workers 0).thrown.live = true := by decide +kernel
      rcases hdrops with hact | ⟨hact, hdead⟩
      · cases hact
      · obtain rfl : 0 = w := by simpa using hact
        rw [hlive] at hdead
        cases hdead
  · simp [LosesEvidence, Action.Drops]

end Sys

end Aico
