import Aico.Workflow.Refinement
import Aico.Workflow.WorkerSlice

/-!
# The steps of a worker

Every step of a worker is a step of the run it has claimed, and of no other.
-/

namespace Aico

variable {rt : Runtime} {services : Services} {act : Action} {s : Sys} {w : ℕ}
  {claim : ClaimedTask} {l : Life} {now : Timestamp}

/-! ## The run of a claim -/

structure Claimed (rt : Runtime) (s : Sys) (w : ℕ) (claim : ClaimedTask) (l : Life) :
    Prop where
  holds : (s.workers w).claim = some claim
  represents : Represents s l
  runId : l.run.id = claim.runId
  invariant : l.Invariant rt
  worker : l.workers w = s.workers w
  claims : Claims l claim
  selects : Selects s.world.db l claim

theorem Sys.Inv.claimed (h : s.Inv rt) (hclaim : (s.workers w).claim = some claim) :
    ∃ l, Claimed rt s w claim l := by
  rcases h.runs claim.runId with habsent | ⟨l, hl, hid, hinv⟩
  · exact absurd rfl (habsent.not_claimed hclaim)
  · have hworker := hl.worker_eq hclaim hid.symm
    obtain ⟨hholds, -⟩ := hinv.owned.claim w claim (by rw [hworker, hclaim])
    exact ⟨l, hclaim, hl, hid, hinv, hworker, Life.claims_of_holds hinv.owned hholds,
      Life.selects_of_holds h.unique hl.shows hinv.owned hholds⟩

theorem Worker.ensureEffect_nodup {db : Db} (h : db.keys.effects.Nodup)
    (hfree : (db.modelInvocationEffects.any fun e =>
        e.companyId = claim.companyId ∧ e.runId = claim.runId ∧ e.taskId = claim.id) = true ∨
      ∀ e ∈ db.modelInvocationEffects, e.effectKey ≠ claim.effectKey) :
    (ensureEffect claim db).keys.effects.Nodup := by
  unfold ensureEffect
  split
  next => exact h
  next hnew => exact Table.nodup_key_append h (hfree.resolve_left hnew)

theorem Worker.mem_joinRuns {db : Db} {t : TaskRow} {r : RunRow} :
    (t, r) ∈ joinRuns db ↔
      t ∈ db.tasks ∧ r ∈ db.runs ∧ r.id = t.runId ∧ r.companyId = t.companyId := by
  simp [joinRuns]

namespace Claimed

theorem currentRow (h : Claimed rt s w claim l) (hunique : s.world.db.keys.Unique) :
    Worker.currentRow claim s.world.db = l.task.map fun t => (t, l.run) := by
  obtain ⟨t, ht, hid, hcompany, hrun⟩ := h.claims.task
  have hmem := h.represents.shows.mem_tasks ht
  have hruns := h.represents.shows.mem_runs
  rw [Worker.currentRow, List.head?_filter, ht, Option.map_some]
  refine Table.find?_eq_some ?_ (decide_eq_true ⟨hcompany, hid⟩) ?_
  · exact Worker.mem_joinRuns.mpr ⟨hmem.1, hruns, hmem.2.symm,
      h.selects.companyId.symm.trans hcompany.symm⟩
  · rintro ⟨u, r⟩ hjoin hp
    obtain ⟨hu, hr, hrid, -⟩ := Worker.mem_joinRuns.mp hjoin
    have hut := h.selects.task u hu (of_decide_eq_true hp).2
    obtain rfl := Option.some.inj (ht.symm.trans hut)
    rw [Table.eq_of_key_eq hunique.runs hr hruns (hrid.trans hmem.2)]

theorem stale_iff (h : Claimed rt s w claim l) (hunique : s.world.db.keys.Unique) :
    Worker.stale claim (Worker.currentRow claim s.world.db) = true ↔ l.Stale claim := by
  rw [h.currentRow hunique, Life.Stale]

theorem held (h : Claimed rt s w claim l) (hunique : s.world.db.keys.Unique)
    (hheld : Worker.stale claim (Worker.currentRow claim s.world.db) = false) :
    ∃ t, l.Held claim t := by
  obtain ⟨t, ht, -⟩ := h.claims.task
  rw [h.currentRow hunique, ht] at hheld
  exact ⟨t, ht, hheld⟩

theorem effect (h : Claimed rt s w claim l) (hunique : s.world.db.keys.Unique) :
    ∃ e, l.effect = some e ∧ Worker.isEffectOf claim e = true ∧
      s.world.db.modelInvocationEffects.find? (Worker.isEffectOf claim) = some e := by
  obtain ⟨e, he, heffect⟩ := h.claims.effect
  refine ⟨e, he, heffect, Table.find?_eq_some (h.represents.shows.mem_effects he).1 heffect ?_⟩
  intro e' he' heffect'
  refine Table.eq_of_key_eq hunique.effects he' (h.represents.shows.mem_effects he).1 ?_
  exact (of_decide_eq_true heffect').2.trans (of_decide_eq_true heffect).2.symm

theorem place (h : Claimed rt s w claim l) {pc : Pc} (hpc : s.workers w = pc) :
    l.workers w = pc :=
  h.worker.trans hpc

theorem nextId_le (h : Claimed rt s w claim l) {n : ℕ} (hn : s.world.nextId ≤ n) :
    l.nextId ≤ n :=
  h.represents.nextId.trans_le hn

/-- What the worker commits happens to the run of its claim. -/
theorem steps (h : Claimed rt s w claim l) {pc : Pc} {world : World} {l' : Life}
    (hunique : world.db.keys.Unique) (hdrawn : world.db.keys.Drawn world.nextId)
    (hn : s.world.nextId ≤ world.nextId) (hpc : ∀ c, pc.claim = some c → c = claim)
    (hedit : Edits s.world.db world.db l l')
    (hstep : LifeStep rt act l (l'.moved w pc world.nextId)) :
    Steps rt act s
      { s with
        world := world
        workers := Function.update s.workers w pc } := by
  refine .of_worker h.represents h.runId ?_ ?_ hunique hdrawn hn hedit hstep
  · intro c hc
    rw [h.holds] at hc
    rw [← Option.some.inj hc]
  · intro c hc
    rw [hpc c hc]

/-- The same where no row is added. -/
theorem update (h : Claimed rt s w claim l) (hinv : s.Inv rt) {pc : Pc} {world : World}
    {l' : Life} (hkeys : world.db.keys = s.world.db.keys)
    (hn : s.world.nextId ≤ world.nextId) (hpc : ∀ c, pc.claim = some c → c = claim)
    (hedit : Edits s.world.db world.db l l')
    (hstep : LifeStep rt act l (l'.moved w pc world.nextId)) :
    Steps rt act s
      { s with
        world := world
        workers := Function.update s.workers w pc } :=
  h.steps (hkeys ▸ hinv.unique) (hkeys ▸ hinv.drawn.mono hn) hn hpc hedit hstep

end Claimed

/-! ## Steps that write nothing -/

theorem Pc.eq_idle_of_claim {pc : Pc} (h : pc.claim = none) : pc = .idle := by
  cases pc <;> first | rfl | cases h

namespace Sys.Inv

/-- An action that is not enabled. -/
theorem rest (h : s.Inv rt) : Steps rt act s s :=
  .of_rest h rfl le_rfl (fun _ => rfl) rfl rfl

/-- A worker moves and writes nothing. -/
theorem move (h : s.Inv rt) {pc : Pc} {world : World} (hdb : world.db = s.world.db)
    (hn : s.world.nextId ≤ world.nextId)
    (hclaim : ∀ c, pc.claim = some c → (s.workers w).claim = some c)
    (hinvoked : pc.invoked = true → (s.workers w).invoked = true)
    (hpending : pc.pending = false) (hunknown : ∀ c, pc ≠ .outcomeUnknown c)
    (hlive : ∀ claim l, Claimed rt s w claim l → (s.workers w).live = true →
      pc.live = true ∨ act.Drops w (s.workers w) ∨ ∃ c t, l.Held c t) :
    Steps rt act s
      { s with
        world := world
        workers := Function.update s.workers w pc } := by
  have hkeys : world.db.keys = s.world.db.keys := congrArg Db.keys hdb
  cases hc : (s.workers w).claim with
  | some claim =>
      obtain ⟨l, hl⟩ := h.claimed hc
      refine hl.update h hkeys hn ?_ (.of_db_eq hl.represents.shows hdb)
        (.move act l w pc _ (hl.nextId_le hn) ?_ ?_ hpending hunknown ?_)
      · intro c hpc
        exact Option.some.inj ((hclaim c hpc).symm.trans hc)
      · rw [hl.worker]
        exact hclaim
      · rw [hl.worker]
        exact hinvoked
      · rw [hl.worker]
        exact hlive claim l hl
  | none =>
      have hnone : pc.claim = none := by
        rw [Option.eq_none_iff_forall_ne_some]
        intro c hpc
        rw [hclaim c hpc] at hc
        cases hc
      refine .of_rest h hkeys hn ?_ ?_ rfl
      · intro r
        simp only [hdb]
      · simp only [Pc.eq_idle_of_claim hnone]
        rw [← Pc.eq_idle_of_claim hc, Function.update_eq_self]

/-- The two ends of a step. -/
theorem settle {α : Type} {r : Except Failure α × World} {next : α → Pc} {failed : Pc}
    (hok : ∀ a world, r = (.ok a, world) →
      Steps rt act s
        { s with
          world := world
          workers := Function.update s.workers w (next a) })
    (herror : ∀ e world, r = (.error e, world) →
      Steps rt act s
        { s with
          world := world
          workers := Function.update s.workers w failed }) :
    Steps rt act s (s.settle w r next failed) := by
  rcases r with ⟨_ | a, world⟩
  · exact herror _ world rfl
  · exact hok a world rfl

theorem failed (h : s.Inv rt) {pc : Pc} (hpc : s.workers w = pc)
    (hclaim : pc.claim = some claim) {world : World} (hdb : world.db = s.world.db)
    (hn : s.world.nextId ≤ world.nextId) :
    Steps rt act s
      { s with
        world := world
        workers := Function.update s.workers w (.failing claim pc.live) } := by
  refine h.move hdb hn ?_ nofun rfl nofun fun _ _ _ hlive => .inl ?_
  · intro c hc
    rw [hpc, hclaim, ← hc]
    rfl
  · rw [← hlive, hpc]
    rfl

/-- A worker that returns to its loop. -/
theorem idle (h : s.Inv rt) {world : World} (hdb : world.db = s.world.db)
    (hn : s.world.nextId ≤ world.nextId)
    (hlive : ∀ claim l, Claimed rt s w claim l → (s.workers w).live = true →
      act.Drops w (s.workers w) ∨ ∃ c t, l.Held c t) :
    Steps rt act s
      { s with
        world := world
        workers := Function.update s.workers w .idle } :=
  h.move hdb hn nofun nofun rfl nofun fun claim l hl hw => .inr (hlive claim l hl hw)

theorem loadContext (h : s.Inv services.runtime) :
    Steps services.runtime (.loadContext w) s (s.step services (.loadContext w)) := by
  rw [Sys.step]
  split
  next claim hpc =>
    have hreads := Worker.loadContext_reads claim.companyId claim.runId s.world
    refine settle ?_ ?_
    · intro context world hrun
      rw [hrun] at hreads
      obtain rfl := hreads
      refine h.move rfl le_rfl ?_ nofun rfl nofun ?_
      · rintro c hc
        rw [hpc, ← hc]
        rfl
      · rw [hpc]
        exact fun _ _ _ hlive => absurd hlive Bool.false_ne_true
    · intro e world hrun
      rw [hrun] at hreads
      obtain rfl := hreads
      exact h.failed hpc rfl rfl le_rfl
  next => exact h.rest

theorem isLeaseCurrent (h : s.Inv services.runtime) :
    Steps services.runtime (.isLeaseCurrent w) s (s.step services (.isLeaseCurrent w)) := by
  rw [Sys.step]
  split
  next claim context hpc =>
    have hreads := Worker.isLeaseCurrent_reads claim s.world
    refine settle ?_ ?_
    · intro current world hrun
      rw [hrun] at hreads
      obtain rfl := hreads
      cases current with
      | true =>
          refine h.move rfl le_rfl ?_ nofun rfl nofun ?_
          · rintro c hc
            rw [hpc, ← hc]
            rfl
          · rw [hpc]
            exact fun _ _ _ hlive => absurd hlive Bool.false_ne_true
      | false =>
          refine h.move rfl le_rfl ?_ nofun rfl nofun ?_
          · rintro c hc
            rw [hpc, ← hc]
            rfl
          · rw [hpc]
            exact fun _ _ _ hlive => absurd hlive Bool.false_ne_true
    · intro e world hrun
      rw [hrun] at hreads
      obtain rfl := hreads
      exact h.failed hpc rfl rfl le_rfl
  next => exact h.rest

theorem providerReturns {result : ModelResult} (h : s.Inv services.runtime) :
    Steps services.runtime (.providerReturns w result) s
      (s.step services (.providerReturns w result)) := by
  rw [Sys.step]
  split
  next claim hpc =>
    refine h.move rfl le_rfl ?_ ?_ rfl nofun fun _ _ _ _ => .inl rfl
    · rintro c hc
      rw [hpc, ← hc]
      rfl
    · rw [hpc]
      exact fun _ => rfl
  next => exact h.rest

theorem finish (h : s.Inv services.runtime) :
    Steps services.runtime (.finish w) s (s.step services (.finish w)) := by
  rw [Sys.step]
  split
  next hpc =>
    refine h.idle rfl le_rfl ?_
    rw [hpc]
    exact fun _ _ _ hlive => absurd hlive Bool.false_ne_true
  next => exact h.rest

theorem throws (h : s.Inv services.runtime) :
    Steps services.runtime (.throws w) s (s.step services (.throws w)) := by
  rw [Sys.step]
  cases hpc : s.workers w with
  | idle =>
      refine h.idle rfl le_rfl ?_
      rw [hpc]
      exact fun _ _ _ hlive => absurd hlive Bool.false_ne_true
  | failing claim begun =>
      refine h.idle rfl le_rfl fun _ _ _ _ => .inl (.inr ⟨rfl, ?_⟩)
      rw [hpc]
      rfl
  | _ => exact h.failed hpc rfl rfl le_rfl

theorem crash (h : s.Inv services.runtime) :
    Steps services.runtime (.crash w) s (s.step services (.crash w)) :=
  h.idle rfl le_rfl fun _ _ _ _ => .inl (.inl rfl)

end Sys.Inv

/-! ## Steps that write -/

namespace Claimed

/-- The claim still finds the rows of the run after a change that keeps the owner
columns. -/
theorem after (h : Claimed rt s w claim l) {db : Db} {l' : Life}
    (hkeys : db.keys = s.world.db.keys) (hunique : s.world.db.keys.Unique)
    (hedit : Edits s.world.db db l l') (howners : l'.owners = l.owners)
    (hnextId : l'.nextId = l.nextId) : Claims l' claim ∧ Selects db l' claim := by
  have howned : l'.Owned rt := by
    rw [Life.Owned, howners, hedit.workers, hnextId]
    exact h.invariant.owned
  have hclaim : (l.workers w).claim = some claim := by rw [h.worker, h.holds]
  have hholds : l'.owners.Holds rt claim := by
    rw [howners]
    exact (h.invariant.owned.claim w claim hclaim).1
  exact ⟨Life.claims_of_holds howned hholds,
    Life.selects_of_holds (hkeys ▸ hunique) hedit.shows howned hholds⟩

/-- The worker gives up its attempt. -/
theorem abandoned (h : Claimed rt s w claim l) (hinv : s.Inv rt)
    (hlive : (s.workers w).live = false) (resultClass : String) :
    Steps rt act s
      { s with
        world :=
          { s.world with
            db := Worker.abandonRunning claim resultClass s.world.now s.world.db }
        workers := Function.update s.workers w (.returning claim) } := by
  refine h.update hinv (Db.keys_abandonRunning resultClass) le_rfl ?_
    (.abandonRunning _ h.represents.shows h.selects resultClass)
    (.abandon act w l claim resultClass _ _ (h.nextId_le le_rfl) ?_ ?_)
  · intro c hc
    exact (Option.some.inj hc).symm
  · rw [h.worker, h.holds]
  · rw [h.worker, hlive]

/-- The worker gives up its attempt and marks the effect of its task. -/
theorem marked (h : Claimed rt s w claim l) (hinv : s.Inv rt) {pc : Pc}
    (hpc : ∀ c, pc.claim = some c → c = claim) (resultClass : String)
    (hstep : LifeStep rt act l
      (((l.abandon claim resultClass s.world.now).markUnknown s.world.now).moved w pc
        s.world.nextId)) :
    Steps rt act s
      { s with
        world :=
          { s.world with
            db := Worker.markUnknown claim s.world.now
              (Worker.abandonRunning claim resultClass s.world.now s.world.db) }
        workers := Function.update s.workers w pc } := by
  have habandon := Edits.abandonRunning s.world.now h.represents.shows h.selects resultClass
  obtain ⟨hclaims, hselects⟩ := h.after (Db.keys_abandonRunning resultClass) hinv.unique
    habandon (Life.owners_abandon resultClass) rfl
  exact h.update hinv (Db.keys_markUnknown.trans (Db.keys_abandonRunning resultClass)) le_rfl
    hpc (habandon.trans (.markUnknown _ habandon.shows hselects hclaims)) hstep

theorem blocked (h : Claimed rt s w claim l) (hinv : s.Inv rt) {db : Db} {l₁ : Life}
    {t : TaskRow} {pc : Pc} {sequence : Option ℕ} (hkeys : db.keys = s.world.db.keys)
    (hedit : Edits s.world.db db l l₁) (howners : l₁.owners = l.owners)
    (hnextId : l₁.nextId = l.nextId) (hheld : l₁.Held claim t)
    (hmark : l₁.run.cancellationRequestedAt = none) (bump : ℕ)
    (hpc : ∀ c, pc.claim = some c → c = claim)
    (hstep : LifeStep rt act l
      ((l₁.block t bump s.world.now
        (DomainEvent.eventRow (Worker.reconciliationEvent claim) s.world.nextId sequence
          s.world.now)).moved w pc (s.world.nextId + 2))) :
    Steps rt act s
      { s with
        world := DomainEvent.appended (Worker.reconciliationEvent claim) sequence
          { s.world with db := Worker.block claim bump s.world.now db }
        workers := Function.update s.workers w pc } := by
  obtain ⟨hclaims, hselects⟩ := h.after hkeys hinv.unique hedit howners hnextId
  have hblock := hedit.trans
    (.block s.world.now hedit.shows hselects hclaims hheld hmark bump)
  have hevent := Edits.appended (Worker.reconciliationEvent claim) hblock.shows
    (w := { s.world with db := Worker.block claim bump s.world.now db })
    (congrArg some hselects.runId) sequence
  exact h.update hinv (Db.keys_appended.trans ((Db.keys_block bump).trans hkeys))
    (Nat.le_add_right _ _) hpc (hblock.trans hevent) hstep

theorem published (h : Claimed rt s w claim l) (hinv : s.Inv rt) {t : TaskRow} {pc : Pc}
    {sequence : Option ℕ} (hheld : l.Held claim t) (result : ModelResult)
    (hpc : ∀ c, pc.claim = some c → c = claim)
    (hstep : LifeStep rt act l
      ((l.publish rt claim t result s.world.nextId (s.world.nextId + 1) s.world.now
        (DomainEvent.eventRow
          (Worker.publishedEvent claim s.world.nextId (s.world.nextId + 1))
          (s.world.nextId + 2) sequence s.world.now)).moved w pc (s.world.nextId + 4))) :
    Steps rt act s
      { s with
        world := DomainEvent.appended
          (Worker.publishedEvent claim s.world.nextId (s.world.nextId + 1)) sequence
          { s.world with
            nextId := s.world.nextId + 2
            db := Worker.acceptResult rt claim result (s.world.nextId + 1) s.world.now
              (Worker.insertArtifact rt claim result s.world.nextId (s.world.nextId + 1)
                s.world.now s.world.db) }
        workers := Function.update s.workers w pc } := by
  have hartifact := Edits.publishArtifact rt s.world.now h.represents.shows h.selects hinv.drawn result (s.world.nextId + 1)
  have haccept := hartifact.trans
    (.acceptResult rt s.world.now (t := t) hartifact.shows
      ⟨h.selects.runId, h.selects.companyId, h.selects.task, h.selects.attempts,
        h.selects.effects⟩ ⟨h.claims.task, h.claims.effect, h.claims.attempt⟩
      ⟨hheld.1, hheld.2⟩ result (s.world.nextId + 1))
  have hevent := Edits.appended
    (Worker.publishedEvent claim s.world.nextId (s.world.nextId + 1)) haccept.shows
    (w := { s.world with
      nextId := s.world.nextId + 2
      db := Worker.acceptResult rt claim result (s.world.nextId + 1) s.world.now
        (Worker.insertArtifact rt claim result s.world.nextId (s.world.nextId + 1)
          s.world.now s.world.db) })
    (congrArg some h.selects.runId) sequence
  have hunique := hinv.unique
  refine h.steps ?_ ?_ (Nat.le_add_right _ 4) hpc
    (haccept.trans hevent) hstep
  · rw [Db.keys_appended, Db.keys_publish]
    refine ⟨hunique.runs, hunique.tasks, hunique.attempts, hunique.effects, ?_,
      hunique.waits⟩
    refine List.nodup_append'.mpr ⟨hunique.artifacts, List.nodup_singleton _, ?_⟩
    intro id hid hid'
    rw [List.mem_singleton.mp hid'] at hid
    exact Nat.lt_irrefl _ (hinv.drawn.artifacts _ hid)
  · rw [Db.keys_appended, Db.keys_publish]
    have hdrawn := hinv.drawn.mono (Nat.le_add_right s.world.nextId 4)
    refine ⟨hdrawn.runs, hdrawn.tasks, hdrawn.attempts, ?_, hdrawn.waits⟩
    intro id hid
    rcases List.mem_append.mp hid with hid | hid
    · exact hdrawn.artifacts id hid
    · rw [List.mem_singleton.mp hid]
      exact Nat.lt_add_of_pos_right (Nat.succ_pos 3)

end Claimed

namespace Sys.Inv

theorem abandonAttempt (h : s.Inv services.runtime) :
    Steps services.runtime (.abandonAttempt w) s (s.step services (.abandonAttempt w)) := by
  rw [Sys.step]
  split
  next claim hpc =>
    have hclaim : (s.workers w).claim = some claim := by rw [hpc]; rfl
    obtain ⟨l, hl⟩ := h.claimed hclaim
    exact hl.abandoned h (by rw [hpc]; rfl) "STALE_BEFORE_INVOCATION"
  next => exact h.rest

theorem beginModelInvocation (h : s.Inv services.runtime) :
    Steps services.runtime (.beginModelInvocation w) s
      (s.step services (.beginModelInvocation w)) := by
  rw [Sys.step]
  split
  next claim context hpc =>
    have hclaim : (s.workers w).claim = some claim := by rw [hpc]; rfl
    obtain ⟨l, hl⟩ := h.claimed hclaim
    obtain ⟨e, he, heffect, hfind⟩ := hl.effect h.unique
    rw [Worker.beginModelInvocation_run, hfind, Option.any_some]
    cases hbegin : Worker.canBegin e with
    | true =>
        refine hl.update h Db.keys_begin le_rfl ?_
          (.begin hl.represents.shows hl.selects he heffect)
          (.begin w l claim context e _ (hl.nextId_le le_rfl) (hl.place hpc) he hbegin)
        intro c hc
        exact (Option.some.inj hc).symm
    | false =>
        refine hl.update h rfl le_rfl ?_ (.refl hl.represents.shows)
          (.refuse w l claim context _ (hl.nextId_le le_rfl) (hl.place hpc) ?_)
        · intro c hc
          exact (Option.some.inj hc).symm
        · intro e' he'
          rw [← Option.some.inj (he.symm.trans he'), hbegin]
  next => exact h.rest

theorem blockUnknownModelOutcome (h : s.Inv services.runtime) :
    Steps services.runtime (.blockUnknownModelOutcome w) s
      (s.step services (.blockUnknownModelOutcome w)) := by
  rw [Sys.step]
  split
  next claim hpc =>
    have hclaim : (s.workers w).claim = some claim := by rw [hpc]; rfl
    obtain ⟨l, hl⟩ := h.claimed hclaim
    have hgrows := Worker.blockUnknownModelOutcome_keepsContext (R := World.Grows) claim s.world
    refine settle ?_ ?_
    · intro u world hrun
      cases hstale : Worker.stale claim (Worker.currentRow claim s.world.db) with
      | true =>
          rw [Worker.blockUnknownModelOutcome_stale hstale] at hrun
          obtain ⟨-, rfl⟩ := Prod.mk.inj hrun
          exact hl.abandoned h (by rw [hpc]; rfl) "STALE_RECONCILIATION"
      | false =>
          obtain ⟨t, hheld⟩ := hl.held h.unique hstale
          obtain ⟨sequence, rfl⟩ := Worker.blockUnknownModelOutcome_held hstale hrun
          refine hl.blocked h (Db.keys_abandonRunning _)
            (.abandonRunning _ hl.represents.shows hl.selects _) (Life.owners_abandon _) rfl
            (t := t) ⟨hheld.1, hheld.2⟩
            (hl.invariant.coherence.cancellationRequestedAt_eq_none hheld.active) 1 ?_ ?_
          · intro c hc
            exact (Option.some.inj hc).symm
          · exact .block w l claim t _ _ _ (hl.nextId_le (Nat.le_add_right _ _))
              (hl.place hpc) hheld ⟨_, _, _, rfl⟩
    · intro e world hrun
      rw [hrun] at hgrows
      exact h.failed hpc rfl (Op.transaction_error hrun) hgrows
  next => exact h.rest

theorem failTask (h : s.Inv services.runtime) :
    Steps services.runtime (.failTask w) s (s.step services (.failTask w)) := by
  rw [Sys.step]
  split
  next claim begun hpc =>
    have hclaim : (s.workers w).claim = some claim := by rw [hpc]; rfl
    obtain ⟨l, hl⟩ := h.claimed hclaim
    have hgrows := Worker.failTask_keepsContext (R := World.Grows) claim s.world
    refine settle ?_ ?_
    · intro u world hrun
      cases hstale : Worker.stale claim (Worker.currentRow claim s.world.db) with
      | true =>
          rw [Worker.failTask_stale hstale] at hrun
          obtain ⟨-, rfl⟩ := Prod.mk.inj hrun
          refine hl.marked h ?_ "STALE_FAILURE" (.staleFail w l claim _ _
            (hl.nextId_le le_rfl) ⟨begun, hl.place hpc⟩ ((hl.stale_iff h.unique).mp hstale))
          intro c hc
          cases hc
      | false =>
          obtain ⟨t, hheld⟩ := hl.held h.unique hstale
          obtain ⟨sequence, rfl⟩ := Worker.failTask_held hstale hrun
          have hfail := Edits.failRunning s.world.now hl.represents.shows hl.selects
          obtain ⟨hclaims, hselects⟩ := hl.after Db.keys_failRunning h.unique hfail
            Life.owners_failAttempt rfl
          refine hl.blocked h (Db.keys_markUnknown.trans Db.keys_failRunning)
            (hfail.trans (.markUnknown _ hfail.shows hselects hclaims))
            (Life.owners_markUnknown.trans Life.owners_failAttempt) rfl (t := t)
            ⟨hheld.1, hheld.2⟩
            (hl.invariant.coherence.cancellationRequestedAt_eq_none hheld.active) 0 nofun ?_
          exact .fail w l claim t _ _ _ (hl.nextId_le (Nat.le_add_right _ _))
            ⟨begun, hl.place hpc⟩ hheld ⟨_, _, _, rfl⟩
    · intro e world hrun
      rw [hrun] at hgrows
      refine h.idle (Op.transaction_error hrun) hgrows fun claim' l' hl' _ => .inr ?_
      obtain rfl : claim = claim' := Option.some.inj (hclaim.symm.trans hl'.holds)
      cases hstale : Worker.stale claim (Worker.currentRow claim s.world.db) with
      | true =>
          rw [Worker.failTask_stale hstale] at hrun
          cases hrun
      | false => exact ⟨claim, hl'.held h.unique hstale⟩
  next => exact h.rest

theorem completeTask (h : s.Inv services.runtime) :
    Steps services.runtime (.completeTask w) s (s.step services (.completeTask w)) := by
  rw [Sys.step]
  split
  next claim result hpc =>
    have hclaim : (s.workers w).claim = some claim := by rw [hpc]; rfl
    obtain ⟨l, hl⟩ := h.claimed hclaim
    have hgrows : World.Grows s.world
        (Worker.completeTask services.runtime claim result s.world).2 :=
      Worker.completeTask_keepsContext claim result s.world
    refine settle ?_ ?_
    · intro u world hrun
      cases hstale : Worker.stale claim (Worker.currentRow claim s.world.db) with
      | true =>
          rw [Worker.completeTask_stale hstale] at hrun
          obtain ⟨-, rfl⟩ := Prod.mk.inj hrun
          refine hl.marked h ?_ "STALE_COMPLETION" (.staleComplete w l claim result _ _
            (hl.nextId_le le_rfl) (hl.place hpc) ((hl.stale_iff h.unique).mp hstale))
          intro c hc
          exact (Option.some.inj hc).symm
      | false =>
          obtain ⟨t, hheld⟩ := hl.held h.unique hstale
          obtain ⟨sequence, rfl⟩ := Worker.completeTask_held hstale hrun
          refine hl.published h hheld result ?_ ?_
          · intro c hc
            exact (Option.some.inj hc).symm
          · exact .complete w l claim result t _ _ _ _ _ (hl.nextId_le (Nat.le_add_right _ _))
              (hl.place hpc) hheld ⟨_, _, _, rfl⟩
    · intro e world hrun
      rw [hrun] at hgrows
      exact h.failed hpc rfl (Op.transaction_error hrun) hgrows
  next => exact h.rest

/-- The provider is called for the run of the claim. -/
theorem invoke (h : s.Inv services.runtime) :
    Steps services.runtime (.invoke w) s (s.step services (.invoke w)) := by
  rw [Sys.step]
  split
  next claim context hpc =>
    have hclaim : (s.workers w).claim = some claim := by rw [hpc]; rfl
    obtain ⟨l, hl⟩ := h.claimed hclaim
    refine .of_run claim.runId h.unique h.drawn le_rfl (fun _ _ => rfl) ?_ ?_
      (fun habsent => absurd rfl (habsent.not_claimed hclaim)) ?_
    · intro r hr w'
      refine Pc.onRun_update_of_ne ?_ ?_ w'
      · intro c hc
        rw [← Option.some.inj (hclaim.symm.trans hc)]
        exact hr.symm
      · intro c hc
        rw [← Option.some.inj hc]
        exact hr.symm
    · intro r hr
      exact List.filter_cons_of_neg fun hrun => hr (of_decide_eq_true hrun).symm
    · intro l₂ hl₂ hr₂ _
      obtain rfl := hl.represents.unique hl₂ (hr₂.trans hl.runId.symm)
      have hstep : LifeStep services.runtime (.invoke w) l₂ _ :=
        .invoke w l₂ claim context (hl.place hpc)
      rw [hl₂.nextId] at hstep
      refine ⟨_, ?_, hstep⟩
      exact
        { shows := hl₂.shows
          workers := by
            refine Pc.onRun_update_of_forall hl₂.workers fun c hc => ?_
            rw [← Option.some.inj hc]
            exact hr₂.symm
          calls := by
            have hmine : decide (claim.runId = l₂.run.id) = true := decide_eq_true hr₂.symm
            change claim :: l₂.calls = (claim :: s.calls).filter fun c => c.runId = l₂.run.id
            rw [List.filter_cons, if_pos hmine, ← hl₂.calls]
          nextId := rfl }
  next => exact h.rest

theorem candidate (h : s.Inv rt) {t : TaskRow} {r : RunRow}
    (hjoin : (t, r) ∈ Worker.joinRuns s.world.db) :
    ∃ l, Represents s l ∧ l.Invariant rt ∧ l.task = some t ∧ l.run = r := by
  obtain ⟨ht, hr, hrid, -⟩ := Worker.mem_joinRuns.mp hjoin
  obtain ⟨l, hl, hlt, hinv⟩ := h.life_of_task ht
  refine ⟨l, hl, hinv, hlt, Table.eq_of_key_eq h.unique.runs hl.shows.mem_runs hr ?_⟩
  exact (hl.shows.mem_tasks hlt).2.symm.trans hrid.symm

theorem taken (h : s.Inv rt) (hl : Represents s l) (hinv : l.Invariant rt) {t : TaskRow}
    (ht : l.task = some t) (hpc : s.workers w = .idle) {config : WorkerConfig}
    {runId : Option Uuid} {locked : List Uuid} {sequence : Option ℕ}
    (hclaimable : Worker.claimable s.world.now runId t l.run = true)
    (hclaim : claim = Worker.claimOf rt t l.run s.world.nextId (s.world.nextId + 1))
    (heffects : (s.world.db.modelInvocationEffects.any fun e =>
        e.companyId = claim.companyId ∧ e.runId = claim.runId ∧ e.taskId = claim.id) = true ∨
      ∀ e ∈ s.world.db.modelInvocationEffects, e.effectKey ≠ claim.effectKey) :
    Steps rt (.claimTask w config runId locked) s
      { s with
        world := DomainEvent.appended (Worker.taskStartedEvent config claim) sequence
          { s.world with
            nextId := s.world.nextId + 3
            db := Worker.startRun claim s.world.now (Worker.ensureEffect claim
              (Worker.lease config claim rt (s.world.nextId + 2) s.world.now s.world.db)) }
        workers := Function.update s.workers w (.claimed claim) } := by
  subst hclaim
  set n := s.world.nextId with hn
  set claim := Worker.claimOf rt t l.run n (n + 1) with hclaim
  obtain ⟨-, htrun⟩ := hl.shows.mem_tasks ht
  have hlease := Edits.lease rt s.world.now hl.shows hinv.owned h.unique ht
    (fun a ha => (h.task_iff hl ht (h.task_of_attempt ha)).mp) config n (n + 1) (n + 2)
    (DomainEvent.eventRow (Worker.taskStartedEvent config claim) (n + 3) sequence s.world.now)
  have hevent := Edits.appended (Worker.taskStartedEvent config claim) hlease.shows
    (w := { s.world with
      nextId := n + 3
      db := Worker.startRun claim s.world.now (Worker.ensureEffect claim
        (Worker.lease config claim rt (n + 2) s.world.now s.world.db)) })
    (congrArg some (htrun.trans hlease.id.symm)) sequence
  refine .of_worker hl rfl ?_ ?_ ?_ ?_ (Nat.le_add_right n 5) (hlease.trans hevent)
    (.claim w config runId locked l t n (n + 1) (n + 2) _ _ _ ?_ ht hclaimable ?_ ?_
      ⟨_, _, _, rfl⟩)
  · rw [hpc]
    exact nofun
  · intro c hc
    rw [← Option.some.inj hc]
    exact htrun
  · rw [Db.keys_appended, Db.keys_lease]
    refine ⟨h.unique.runs, h.unique.tasks, ?_, ?_, h.unique.artifacts, h.unique.waits⟩
    · refine List.nodup_append'.mpr ⟨h.unique.attempts, List.nodup_singleton _, ?_⟩
      intro id hid hid'
      rw [List.mem_singleton.mp hid'] at hid
      have hlt : n + 1 < n := h.drawn.attempts _ hid
      omega
    · exact Worker.ensureEffect_nodup h.unique.effects heffects
  · rw [Db.keys_appended, Db.keys_lease]
    have hdrawn := h.drawn.mono (Nat.le_add_right n 5)
    refine ⟨hdrawn.runs, hdrawn.tasks, ?_, hdrawn.artifacts, hdrawn.waits⟩
    intro id hid
    rcases List.mem_append.mp hid with hid | hid
    · exact hdrawn.attempts id hid
    · rw [List.mem_singleton.mp hid]
      change n + 1 < n + 5
      omega
  · rw [hl.workers w, hpc]
    rfl
  · rw [hl.nextId]
    exact ⟨le_rfl, Nat.lt_add_of_pos_right (Nat.succ_pos 4)⟩
  · rw [hl.nextId]
    exact ⟨Nat.le_succ n, Nat.lt_add_of_pos_right (Nat.succ_pos 3)⟩

theorem claimTask {config : WorkerConfig} {runId : Option Uuid} {locked : List Uuid}
    (h : s.Inv services.runtime) :
    Steps services.runtime (.claimTask w config runId locked) s
      (s.step services (.claimTask w config runId locked)) := by
  rw [Sys.step]
  split
  next hpc =>
    have hgrows : World.Grows s.world
        (Worker.claimTask services.runtime config runId locked s.world).2 :=
      Worker.claimTask_keepsContext config runId locked s.world
    have hidle : ∀ claim l, Claimed services.runtime s w claim l →
        (s.workers w).live = true → Action.Drops (.claimTask w config runId locked) w
          (s.workers w) ∨ ∃ c t, l.Held c t := by
      rw [hpc]
      exact fun _ _ _ hlive => absurd hlive Bool.false_ne_true
    refine settle ?_ ?_
    · intro claimed world hrun
      cases claimed with
      | none =>
          obtain rfl := Worker.claimTask_none hrun
          exact h.idle rfl le_rfl hidle
      | some claim =>
          obtain ⟨t, r, hjoin, hclaimable, htake⟩ := Worker.claimTask_some hrun
          obtain ⟨l, hl, hinv, ht, rfl⟩ := h.candidate hjoin
          obtain ⟨rfl, heffects, sequence, rfl⟩ := Worker.takeTask_eq_ok htake
          exact h.taken hl hinv ht hpc hclaimable rfl heffects
    · intro e world hrun
      rw [hrun] at hgrows
      exact h.idle (Op.transaction_error hrun) hgrows hidle
  next => exact h.rest

end Sys.Inv

end Aico
