import Aico.Orchestration.WorkerSteps
import Aico.Workflow.Coherence
import Aico.Workflow.Slice

/-!
# The transactions of the worker on one run

The rows a worker finds by the keys of its claim are rows of the run it claimed,
so what it commits is a change of that run (`Edits`).
-/

namespace Aico

/-- The rows a claim finds are those of the run. -/
structure Selects (db : Db) (l : Life) (claim : ClaimedTask) : Prop where
  runId : claim.runId = l.run.id
  companyId : claim.companyId = l.run.companyId
  task : ∀ t ∈ db.tasks, t.id = claim.id → l.task = some t
  attempts : ∀ a ∈ db.taskAttempts, a.id = claim.attemptId → a.runId = l.run.id
  effects : ∀ e ∈ db.modelInvocationEffects, e.effectKey = claim.effectKey →
    e.runId = l.run.id

/-- The run of a claim that has been handed out. -/
structure Claims (l : Life) (claim : ClaimedTask) : Prop where
  task : ∃ t, l.task = some t ∧ t.id = claim.id ∧ t.companyId = claim.companyId ∧
    t.runId = claim.runId
  effect : ∃ e, l.effect = some e ∧ Worker.isEffectOf claim e = true
  attempt : ∃ a ∈ l.attempts, a.id = claim.attemptId

namespace Life

variable {rt : Runtime} {l : Life} {claim : ClaimedTask}

theorem claims_of_holds (howned : l.Owned rt) (hholds : l.owners.Holds rt claim) :
    Claims l claim := by
  obtain ⟨o, ho, hid, hkey⟩ := hholds.task
  obtain ⟨t, ht, rfl⟩ := Option.map_eq_some_iff.mp ho
  obtain ⟨p, hp⟩ := Option.isSome_iff_exists.mp hholds.effect
  obtain ⟨e, he, rfl⟩ := Option.map_eq_some_iff.mp hp
  obtain ⟨q, hq, hattempt⟩ := hholds.attempt
  obtain ⟨a, ha, rfl⟩ := List.mem_map.mp hq
  obtain ⟨htrun, htcompany⟩ := howned.task _ ho
  obtain ⟨-, hecompany, u, hu, -, hekey⟩ := howned.effect _ hp
  rw [ho] at hu
  obtain rfl := Option.some.inj hu
  refine ⟨⟨t, ht, hid.symm, ?_, ?_⟩, ⟨e, he, ?_⟩, a, ha, hattempt⟩
  · exact htcompany.trans hholds.companyId.symm
  · exact htrun.trans hholds.runId.symm
  · rw [Worker.isEffectOf, decide_eq_true_iff]
    exact ⟨hecompany.trans hholds.companyId.symm, hekey.trans hkey.symm⟩

theorem selects_of_holds {db : Db} (hunique : db.keys.Unique) (hshows : Shows db l)
    (howned : l.Owned rt) (hholds : l.owners.Holds rt claim) : Selects db l claim := by
  have hclaims := claims_of_holds howned hholds
  refine ⟨hholds.runId, hholds.companyId, ?_, ?_, ?_⟩
  · intro u hu hid
    obtain ⟨t, ht, htid, -⟩ := hclaims.task
    rw [Table.eq_of_key_eq hunique.tasks hu (hshows.mem_tasks ht).1 (hid.trans htid.symm), ht]
  · intro a ha hid
    obtain ⟨a₀, ha₀, hid₀⟩ := hclaims.attempt
    obtain ⟨hmem, hrun⟩ := hshows.mem_attempts ha₀
    rw [Table.eq_of_key_eq hunique.attempts ha hmem (hid.trans hid₀.symm), hrun]
  · intro e he hkey
    obtain ⟨e₀, he₀, heffect⟩ := hclaims.effect
    obtain ⟨hmem, hrun⟩ := hshows.mem_effects he₀
    have hkey₀ := (of_decide_eq_true heffect).2
    rw [Table.eq_of_key_eq hunique.effects he hmem (hkey.trans hkey₀.symm), hrun]

end Life

/-! ## The keys after a transaction -/

namespace Db

variable {rt : Runtime} {db : Db} {claim : ClaimedTask} {now : Timestamp}

theorem keys_abandonRunning (resultClass : String) :
    (Worker.abandonRunning claim resultClass now db).keys = db.keys := by
  have hf : ∀ a, (Worker.abandoned resultClass now a).id = a.id := fun _ => rfl
  exact Keys.ext rfl rfl (Table.map_updateWhere hf _) rfl rfl rfl

theorem keys_failRunning : (Worker.failRunning claim now db).keys = db.keys := by
  have hf : ∀ a, (Life.failedAttempt now a).id = a.id := fun _ => rfl
  exact Keys.ext rfl rfl (Table.map_updateWhere hf _) rfl rfl rfl

theorem keys_markUnknown : (Worker.markUnknown claim now db).keys = db.keys :=
  Keys.ext rfl rfl rfl (Table.map_updateWhere (fun _ => by rfl) _) rfl rfl

theorem keys_begin : (Worker.begin claim db).keys = db.keys :=
  Keys.ext rfl rfl rfl (Table.map_updateWhere (fun _ => by rfl) _) rfl rfl

theorem keys_block (bump : ℕ) : (Worker.block claim bump now db).keys = db.keys := by
  have htask : ∀ t, (Worker.blockedTask bump now t).id = t.id := fun _ => rfl
  exact Keys.ext (Table.map_updateWhere (fun _ => by rfl) _) (Table.map_updateWhere htask _)
    rfl rfl rfl rfl

theorem keys_publish (result : ModelResult) (artifactId artifactVersionId : Uuid) :
    (Worker.acceptResult rt claim result artifactVersionId now
      (Worker.insertArtifact rt claim result artifactId artifactVersionId now db)).keys =
      { db.keys with artifacts := db.keys.artifacts ++ [artifactId] } := by
  have hattempt : ∀ a, (Worker.succeededAttempt artifactVersionId result now a).id = a.id :=
    fun _ => rfl
  have heffect : ∀ e, (Worker.succeededEffect rt result now e).effectKey = e.effectKey :=
    fun _ => rfl
  have htask : ∀ t, (Worker.succeededTask now t).id = t.id := fun _ => rfl
  have hrun : ∀ r, (Worker.awaitingBriefApproval now r).id = r.id := fun _ => rfl
  refine Keys.ext (Table.map_updateWhere hrun _) (Table.map_updateWhere htask _)
    (Table.map_updateWhere hattempt _) (Table.map_updateWhere heffect _) ?_ rfl
  exact (Table.map_updateWhere (fun _ => by rfl) _).trans List.map_append

/-- A claim adds the attempt and, the first time, the effect of its task. -/
theorem keys_lease (config : WorkerConfig) (policyDecisionId : Uuid) :
    (Worker.startRun claim now (Worker.ensureEffect claim
      (Worker.lease config claim rt policyDecisionId now db))).keys =
      { db.keys with
        attempts := db.keys.attempts ++ [claim.attemptId]
        effects := (Worker.ensureEffect claim db).keys.effects } := by
  have hrun : ∀ r, (Worker.qualifying now r).id = r.id := fun _ => rfl
  have htask : ∀ t, (Worker.leased config claim.leaseToken now t).id = t.id := fun _ => rfl
  have hattempt : ∀ a, (Worker.abandoned "LEASE_EXPIRED" now a).id = a.id := fun _ => rfl
  unfold Worker.ensureEffect Worker.startRun Worker.lease
  split <;> exact Keys.ext (Table.map_updateWhere hrun _) (Table.map_updateWhere htask _)
    (List.map_append.trans (congrArg (· ++ _) (Table.map_updateWhere hattempt _))) rfl rfl rfl

end Db

namespace Edits

variable (rt : Runtime) (now : Timestamp) {db db' : Db} {l l' l'' : Life}
  {claim : ClaimedTask} {t : TaskRow}

theorem abandonRunning (h : Shows db l) (hselects : Selects db l claim)
    (resultClass : String) :
    Edits db (Worker.abandonRunning claim resultClass now db) l
      (l.abandon claim resultClass now) :=
  updateAttempts h (fun a ha hp => hselects.attempts a ha (of_decide_eq_true hp).2.1)
    fun _ => rfl

theorem failRunning (h : Shows db l) (hselects : Selects db l claim) :
    Edits db (Worker.failRunning claim now db) l (l.failAttempt claim now) :=
  updateAttempts h (fun a ha hp => hselects.attempts a ha (of_decide_eq_true hp).2.1)
    fun _ => rfl

theorem markUnknown (h : Shows db l) (hselects : Selects db l claim)
    (hclaims : Claims l claim) :
    Edits db (Worker.markUnknown claim now db) l (l.markUnknown now) := by
  obtain ⟨e, he, heffect⟩ := hclaims.effect
  have hedit := updateEffect h (p := fun e => Worker.isEffectOf claim e ∧ e.status = .running)
    (f := fun e => { e with status := .unknown, completedAt := some now })
    (fun e he hp => hselects.effects e he
      (of_decide_eq_true (of_decide_eq_true hp).1).2) fun _ => rfl
  refine hedit.congr ?_
  simp [Life.markUnknown, Life.unknownEffect, he, heffect]

theorem begin (h : Shows db l) (hselects : Selects db l claim)
    {e : ModelInvocationEffectRow} (he : l.effect = some e)
    (heffect : Worker.isEffectOf claim e = true) :
    Edits db (Worker.begin claim db) l
      { l with effect := some { e with invocationCount := 1 } } := by
  have hedit := updateEffect h (p := Worker.isEffectOf claim)
    (f := fun e => { e with invocationCount := 1 })
    (fun e he hp => hselects.effects e he (of_decide_eq_true hp).2) fun _ => rfl
  refine hedit.congr ?_
  simp [he, heffect]

theorem block (h : Shows db l) (hselects : Selects db l claim) (hclaims : Claims l claim)
    (hheld : l.Held claim t) (hmark : l.run.cancellationRequestedAt = none) (bump : ℕ) :
    Edits db (Worker.block claim bump now db) l
      { l with
        run := Life.blockedRun now l.run
        task := some (Worker.blockedTask bump now t) } := by
  obtain ⟨u, hu, hid, hcompany, hrun⟩ := hclaims.task
  rw [hheld.1] at hu
  obtain rfl := Option.some.inj hu
  have htask := updateTask h (p := Worker.isHeldTask claim)
    (f := Worker.blockedTask bump now)
    (fun u hu hp => by
      have hu' := hselects.task u hu (of_decide_eq_true hp).2.1
      exact (h.mem_tasks hu').2) fun _ => rfl
  have hrun := updateRun htask.shows
    (p := fun r => r.companyId = claim.companyId ∧ r.id = claim.runId ∧
      r.state.isTerminal = false ∧ r.cancellationRequestedAt = none)
    (f := Life.blockedRun now)
    (fun r _ hp => (of_decide_eq_true hp).2.1.trans hselects.runId) fun _ => rfl
  refine (htask.trans hrun).congr ?_
  have hp : Worker.isHeldTask claim t = true := by
    rw [Worker.isHeldTask, decide_eq_true_iff]
    exact ⟨hcompany, hid, hheld.leaseToken, hheld.running⟩
  simp [hheld.1, hp, hselects.companyId, hselects.runId, hheld.active, hmark]

theorem publishArtifact (h : Shows db l) (hselects : Selects db l claim)
    {artifactId : Uuid} (hdrawn : db.keys.Drawn artifactId) (result : ModelResult)
    (artifactVersionId : Uuid) :
    Edits db (Worker.insertArtifact rt claim result artifactId artifactVersionId now db) l
      { l with
        artifacts := l.artifacts ++
          [Life.publishedArtifact claim artifactId artifactVersionId now]
        versions := l.versions ++
          [Worker.artifactVersionRow rt claim result artifactId artifactVersionId] } := by
  have hold : ∀ a ∈ db.artifacts, a.id ≠ artifactId := by
    intro a ha hid
    have hlt := hdrawn.artifacts a.id (List.mem_map_of_mem ha)
    rw [hid] at hlt
    exact absurd hlt (lt_irrefl _)
  have hnew := insertArtifact h (a := Worker.artifactRow claim artifactId now)
    hselects.runId
  have hname := updateArtifacts hnew.shows
    (p := fun a => a.companyId = claim.companyId ∧ a.id = artifactId)
    (f := fun a => { a with currentVersionId := some artifactVersionId, updatedAt := now })
    (fun a ha hp => by
      rcases List.mem_append.mp ha with ha | ha
      · exact absurd (of_decide_eq_true hp).2 (hold a ha)
      · obtain rfl := List.mem_singleton.mp ha
        exact hselects.runId) fun _ => rfl
  have hversion := insertVersion (hnew.trans hname).shows
    (v := Worker.artifactVersionRow rt claim result artifactId artifactVersionId)
    hselects.runId
  refine ((hnew.trans hname).trans hversion).congr ?_
  have hkeep : Table.updateWhere
      (fun a => decide (a.companyId = claim.companyId ∧ a.id = artifactId))
      (fun a => { a with currentVersionId := some artifactVersionId, updatedAt := now })
      l.artifacts = l.artifacts := by
    refine Table.updateWhere_eq_self fun a ha => ?_
    have hmem : a ∈ (db.ofRun l.run.id).artifacts := by
      rw [h]
      exact ha
    exact decide_eq_false fun hp => hold a (List.mem_filter.mp hmem).1 hp.2
  rw [Table.updateWhere_append, hkeep, Table.updateWhere_cons,
    if_pos (decide_eq_true ⟨rfl, rfl⟩)]
  rfl

theorem acceptResult (h : Shows db l) (hselects : Selects db l claim)
    (hclaims : Claims l claim) (hheld : l.Held claim t) (result : ModelResult)
    (artifactVersionId : Uuid) :
    Edits db (Worker.acceptResult rt claim result artifactVersionId now db) l
      { l with
        run := Worker.awaitingBriefApproval now l.run
        task := some (Worker.succeededTask now t)
        attempts := Table.updateWhere
          (fun a => a.companyId = claim.companyId ∧ a.id = claim.attemptId)
          (Worker.succeededAttempt artifactVersionId result now) l.attempts
        effect := l.effect.map fun e =>
          if e.status = .running then Worker.succeededEffect rt result now e else e } := by
  obtain ⟨u, hu, hid, hcompany, -⟩ := hclaims.task
  rw [hheld.1] at hu
  obtain rfl := Option.some.inj hu
  obtain ⟨e, he, heffect⟩ := hclaims.effect
  have hattempts := updateAttempts h
    (p := fun a => a.companyId = claim.companyId ∧ a.id = claim.attemptId)
    (f := Worker.succeededAttempt artifactVersionId result now)
    (fun a ha hp => hselects.attempts a ha (of_decide_eq_true hp).2) fun _ => rfl
  have hmark := updateEffect hattempts.shows
    (p := fun e => Worker.isEffectOf claim e ∧ e.status = .running)
    (f := Worker.succeededEffect rt result now)
    (fun e he hp => hselects.effects e he
      (of_decide_eq_true (of_decide_eq_true hp).1).2) fun _ => rfl
  have htask := updateTask (hattempts.trans hmark).shows
    (p := fun t => t.companyId = claim.companyId ∧ t.id = claim.id)
    (f := Worker.succeededTask now)
    (fun u hu hp => (h.mem_tasks (hselects.task u hu (of_decide_eq_true hp).2)).2)
    fun _ => rfl
  have hrun := updateRun ((hattempts.trans hmark).trans htask).shows
    (p := fun r => r.id = claim.runId ∧ r.companyId = claim.companyId)
    (f := Worker.awaitingBriefApproval now)
    (fun r _ hp => (of_decide_eq_true hp).1.trans hselects.runId) fun _ => rfl
  refine (((hattempts.trans hmark).trans htask).trans hrun).congr ?_
  simp [hheld.1, he, heffect, hid, hcompany, hselects.runId, hselects.companyId]

theorem ensureEffect (claim : ClaimedTask) (h : Shows db l) (hrunId : claim.runId = l.run.id)
    (heffect : ∀ e, l.effect = some e → e.companyId = claim.companyId ∧ e.taskId = claim.id) :
    Edits db (Worker.ensureEffect claim db) l
      { l with effect := some (l.effect.getD (Worker.effectRow claim)) } := by
  cases he : l.effect with
  | some e =>
      obtain ⟨hmem, herun⟩ := h.mem_effects he
      obtain ⟨hcompany, htask⟩ := heffect e he
      have hany : (db.modelInvocationEffects.any fun e =>
          e.companyId = claim.companyId ∧ e.runId = claim.runId ∧ e.taskId = claim.id) =
            true :=
        List.any_eq_true.mpr
          ⟨e, hmem, decide_eq_true ⟨hcompany, herun.trans hrunId.symm, htask⟩⟩
      rw [Worker.ensureEffect, if_pos hany, Option.getD_some, ← he]
      exact refl h
  | none =>
      have hnone : ¬ (db.modelInvocationEffects.any fun e =>
          e.companyId = claim.companyId ∧ e.runId = claim.runId ∧ e.taskId = claim.id) =
            true := by
        intro hany
        obtain ⟨e, hmem, hp⟩ := List.any_eq_true.mp hany
        have hslice : e ∈ (db.ofRun l.run.id).effects :=
          List.mem_filter.mpr
            ⟨hmem, decide_eq_true ((of_decide_eq_true hp).2.1.trans hrunId)⟩
        rw [h] at hslice
        simp [Life.rows, he] at hslice
      rw [Worker.ensureEffect, if_neg hnone]
      exact insertEffect h he hrunId

theorem lease (h : Shows db l) (howned : l.Owned rt) (hunique : db.keys.Unique)
    (ht : l.task = some t)
    (hattempts : ∀ a ∈ db.taskAttempts, a.taskId = t.id → a.runId = l.run.id)
    (config : WorkerConfig) (leaseToken attemptId policyDecisionId : Uuid)
    (event : EventRow) :
    Edits db
      (Worker.startRun (Worker.claimOf rt t l.run leaseToken attemptId) now
        (Worker.ensureEffect (Worker.claimOf rt t l.run leaseToken attemptId)
          (Worker.lease config (Worker.claimOf rt t l.run leaseToken attemptId) rt
            policyDecisionId now db))) l
      { l.claim config t (Worker.claimOf rt t l.run leaseToken attemptId)
          policyDecisionId now event with events := l.events } := by
  have ho : l.owners.task = some t.owner := congrArg (Option.map TaskRow.owner) ht
  obtain ⟨htrun, htcompany⟩ := howned.task t.owner ho
  set claim := Worker.claimOf rt t l.run leaseToken attemptId with hclaim
  have htask := updateTask h
    (p := fun t => t.companyId = claim.companyId ∧ t.id = claim.id)
    (f := Worker.leased config claim.leaseToken now)
    (fun u hu hp => by
      rw [Table.eq_of_key_eq hunique.tasks hu (h.mem_tasks ht).1 (of_decide_eq_true hp).2]
      exact (h.mem_tasks ht).2) fun _ => rfl
  have habandon := updateAttempts htask.shows
    (p := fun a => a.companyId = claim.companyId ∧ a.taskId = claim.id ∧
      a.status = .running)
    (f := Worker.abandoned "LEASE_EXPIRED" now)
    (fun a ha hp => hattempts a ha (of_decide_eq_true hp).2.1) fun _ => rfl
  have hattempt := insertAttempt (htask.trans habandon).shows
    (a := Worker.attemptRow claim policyDecisionId) htrun
  have hlease : Edits db (Worker.lease config claim rt policyDecisionId now db) l _ :=
    ((htask.trans habandon).trans hattempt).trans
      (of_rows ((htask.trans habandon).trans hattempt).shows fun _ => rfl)
  have heffect := ensureEffect claim hlease.shows htrun fun e he => by
    obtain ⟨-, hecompany, u, hu, hetask, -⟩ :=
      howned.effect e.owner (congrArg (Option.map ModelInvocationEffectRow.owner) he)
    rw [ho] at hu
    obtain rfl := Option.some.inj hu
    exact ⟨hecompany.trans htcompany.symm, hetask⟩
  have hrun := updateRun (hlease.trans heffect).shows
    (p := fun r => r.companyId = claim.companyId ∧ r.id = claim.runId ∧ r.state = .draft)
    (f := Worker.qualifying now)
    (fun r _ hp => (of_decide_eq_true hp).2.1.trans htrun) fun _ => rfl
  refine ((hlease.trans heffect).trans hrun).congr ?_
  have hrunId : l.run.id = t.runId := htrun.symm
  have hcompanyId : l.run.companyId = t.companyId := htcompany.symm
  simp [Life.claim, ht, hclaim, Worker.claimOf, hrunId, hcompanyId]

end Edits

end Aico
