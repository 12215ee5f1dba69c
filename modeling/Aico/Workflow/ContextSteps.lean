import Aico.DurabilitySpike.DurableWaitSteps
import Aico.Orchestration.WorkerSteps
import Aico.Workflow.Program

/-!
# What an action does to the context of runs

The rows a context is read from are added under fresh identifiers and never
changed (`World.Extends`), and the snapshot a run points to stays what it is
unless the action starts the run or answers a wait of it (`ContextStep`).
-/

namespace Aico

/-- Objects have distinct identifiers, and links are to drawn ones. -/
structure World.Linked (w : World) : Prop where
  objects : (w.db.objectRecords.map ObjectRecordRow.id).Nodup
  drawn : ∀ o ∈ w.db.objectRecords, o.id < w.nextId
  links : ∀ l ∈ w.db.goalVersionAttachments, l.objectId < w.nextId

structure World.Extends (w w' : World) : Prop where
  nextId : w.nextId ≤ w'.nextId
  profiles : Table.Extends CompanyProfileVersionRow.id w.nextId w'.nextId
    w.db.companyProfileVersions w'.db.companyProfileVersions
  goals : Table.Extends GoalVersionRow.id w.nextId w'.nextId w.db.goalVersions w'.db.goalVersions
  links : Table.Extends GoalVersionAttachmentRow.goalVersionId w.nextId w'.nextId
    w.db.goalVersionAttachments w'.db.goalVersionAttachments
  objects : Table.Extends ObjectRecordRow.id w.nextId w'.nextId w.db.objectRecords
    w'.db.objectRecords
  snapshots : Table.Extends ContextSnapshotRow.id w.nextId w'.nextId w.db.contextSnapshots
    w'.db.contextSnapshots
  linked : w.Linked → w'.Linked

namespace World.Extends

variable {w w' : World}

theorem of_eq (hgrows : w.nextId ≤ w'.nextId)
    (hprofiles : w'.db.companyProfileVersions = w.db.companyProfileVersions)
    (hgoals : w'.db.goalVersions = w.db.goalVersions)
    (hlinks : w'.db.goalVersionAttachments = w.db.goalVersionAttachments)
    (hobjects : w'.db.objectRecords = w.db.objectRecords)
    (hsnapshots : w'.db.contextSnapshots = w.db.contextSnapshots) : w.Extends w' where
  nextId := hgrows
  profiles := .of_eq hprofiles
  goals := .of_eq hgoals
  links := .of_eq hlinks
  objects := .of_eq hobjects
  snapshots := .of_eq hsnapshots
  linked h :=
    { objects := hobjects ▸ h.objects
      drawn := fun o ho => (h.drawn o (hobjects ▸ ho)).trans_le hgrows
      links := fun l hl => (h.links l (hlinks ▸ hl)).trans_le hgrows }

theorem of_context_eq (hgrows : w.nextId ≤ w'.nextId) (h : w'.db.context = w.db.context) :
    w.Extends w' :=
  of_eq hgrows (congrArg ContextTables.companyProfileVersions h)
    (congrArg ContextTables.goalVersions h) (congrArg ContextTables.goalVersionAttachments h)
    (congrArg ContextTables.objectRecords h) (congrArg ContextTables.contextSnapshots h)

instance : WorldOrder World.Extends where
  refl _ := of_eq (Nat.le_refl _) rfl rfl rfl rfl rfl
  trans _ _ _ h h' :=
    { nextId := h.nextId.trans h'.nextId
      profiles := h.profiles.trans h'.profiles h.nextId h'.nextId
      goals := h.goals.trans h'.goals h.nextId h'.nextId
      links := h.links.trans h'.links h.nextId h'.nextId
      objects := h.objects.trans h'.objects h.nextId h'.nextId
      snapshots := h.snapshots.trans h'.snapshots h.nextId h'.nextId
      linked := fun hlinked => h'.linked (h.linked hlinked) }
  newId _ := of_eq (Nat.le_succ _) rfl rfl rfl rfl rfl
  rollback _ _ h := of_eq h.nextId rfl rfl rfl rfl rfl

/-! ## Commands -/

theorem profiles_of_versionedStep {call : VersionedCall} {t t' : VersionedTables} {n n' : ℕ}
    (h : VersionedStep call n t n' t') :
    Table.Extends CompanyProfileVersionRow.id n n' t.companyProfileVersions
      t'.companyProfileVersions := by
  cases h with
  | provision actor _ _ dto n m n' now t _ hm hn =>
      exact .append _ (Nat.le_succ_of_le hm) hn
  | replaceProfile actor _ _ _ dto n m n' now t c v _ _ _ _ _ _ hm hn => exact .append _ hm hn
  | openInitiative => exact .refl _ _ _ _
  | addGoal => exact .refl _ _ _ _

theorem call (services : Services) {call : VersionedCall} (h : call.startsRun = false)
    (w : World) : w.Extends (call.run services w).2 := by
  have hkeeps : World.Keeps Db.workflow w (call.run services w).2 :=
    call.keepsWorkflow services h w
  have hprofiles : w.nextId ≤ (call.run services w).2.nextId ∧
      Table.Extends CompanyProfileVersionRow.id w.nextId (call.run services w).2.nextId
        w.db.companyProfileVersions (call.run services w).2.db.companyProfileVersions := by
    rcases Tenant.step_cases services w (.call call) with ⟨hgrows, hsame⟩ | ⟨call', heq, hstep⟩
    · exact ⟨hgrows, .of_eq (congrArg VersionedTables.companyProfileVersions hsame)⟩
    · exact ⟨(call.settles services w).grows, profiles_of_versionedStep hstep⟩
  obtain ⟨hgrows, hprofiles⟩ := hprofiles
  have hrest : w.Extends { (call.run services w).2 with
      db := { (call.run services w).2.db with
        companyProfileVersions := w.db.companyProfileVersions } } := of_eq hgrows rfl
    (congrArg WorkflowTables.goalVersions hkeeps)
    (congrArg WorkflowTables.goalVersionAttachments hkeeps)
    (congrArg WorkflowTables.objectRecords hkeeps)
    (congrArg WorkflowTables.contextSnapshots hkeeps)
  exact ⟨hgrows, hprofiles, hrest.goals, hrest.links, hrest.objects, hrest.snapshots,
    fun h => ⟨(hrest.linked h).objects, (hrest.linked h).drawn, (hrest.linked h).links⟩⟩

/-- An upload. -/
theorem ingest (rt : Runtime) (checks : AttachmentChecks) (actor : RequestActor)
    (idempotencyKey : Uuid) (correlationId : UuidText) (dto : CreateAttachmentDto) :
    Prog.Respects World.Extends
      (Attachments.ingest rt checks actor idempotencyKey correlationId dto) := by
  refine Attachments.ingest_respects idempotencyKey dto
    (fun w _ => of_context_eq (Nat.le_refl _) rfl) (fun options hrun => ?_)
    fun companyId body validated w => ?_
  · exact DomainEvent.append_respects (fun w => of_context_eq (Nat.le_refl _) rfl)
      (fun w _ _ _ => of_context_eq (Nat.le_refl _) rfl)
      fun w _ _ _ _ => of_context_eq (Nat.le_refl _) rfl
  · have hn : w.nextId < w.nextId + 3 := Nat.lt_add_of_pos_right (Nat.succ_pos 2)
    refine ⟨Nat.le_of_lt hn, .refl _ _ _ _, .refl _ _ _ _, .refl _ _ _ _,
      .append _ (Nat.le_refl _) hn, .refl _ _ _ _, fun h => ⟨?_, ?_, ?_⟩⟩
    · exact Table.nodup_key_append h.objects fun o ho => (h.drawn o ho).ne
    · intro o ho
      rcases List.mem_append.mp ho with ho | ho
      · exact (h.drawn o ho).trans hn
      · rw [List.mem_singleton.mp ho]
        exact hn
    · exact fun l hl => (h.links l hl).trans hn

theorem started {services : Services} {companyId : Uuid} {actor : RequestActor}
    {initiativeId : UuidText} {expectedVersion : ℕ} {correlationId : UuidText}
    {dto : CreateGoalDto} {qualification : GoalQualification} {response : CommandResponse}
    (h : Initiatives.startRun services companyId actor initiativeId expectedVersion
      correlationId dto qualification w = (.ok response, w')) : w.Extends w' := by
  obtain ⟨profileVersionId, sequence, sequence', hstartable, rfl⟩ := Initiatives.startRun_eq_ok h
  have hcount := Initiatives.four_le_idCount (decide (qualification.result = .needsClarification))
  set n' := (Initiatives.started services companyId actor initiativeId correlationId qualification
    profileVersionId sequence sequence' w (Initiatives.goalAdded companyId actor initiativeId dto
      (Initiatives.runIds (decide (qualification.result = .needsClarification)) w.nextId) w.now
      w.db)).nextId with hn'
  have hn : w.nextId + 2 ≤ n' := by
    rw [hn']
    change w.nextId + 2 ≤ w.nextId + Initiatives.idCount _ + 2 + 2
    omega
  have hle : w.nextId ≤ n' := (Nat.le_add_right _ 2).trans hn
  have hgoal : w.nextId < n' := (Nat.lt_add_of_pos_right Nat.zero_lt_two).trans_le hn
  refine ⟨hle, .refl _ _ _ _, .append _ (Nat.le_refl _) hgoal, ⟨_, rfl, fun l hl => ?_⟩,
    .refl _ _ _ _, .append _ (Nat.le_succ _) hn, fun hlinked => ⟨hlinked.objects, ?_, ?_⟩⟩
  · obtain ⟨entry, -, rfl⟩ := List.mem_map.mp hl
    exact ⟨Nat.le_refl _, hgoal⟩
  · exact fun o ho => (hlinked.drawn o ho).trans_le hle
  · intro l hl
    rcases List.mem_append.mp hl with hl | hl
    · exact (hlinked.links l hl).trans_le hle
    · obtain ⟨entry, hentry, rfl⟩ := List.mem_map.mp hl
      obtain ⟨o, ho, -, hid⟩ := hstartable.attachments entry.1 (List.fst_mem_of_mem_zipIdx hentry)
      exact hid ▸ (hlinked.drawn o ho).trans_le hle

theorem resolved {rt : Runtime} {input : AnswerWaitInput} {response : CommandResponse}
    (h : DurableWait.resolveWait rt input w = (.ok response, w')) : w.Extends w' := by
  obtain ⟨wait, run, task, source, sequence, -, -, -, -, -, -, w₁, rfl, rfl⟩ :=
    DurableWait.resolveWait_eq_ok h
  have hn : w.nextId + 1 < w.nextId + 4 := by omega
  exact ⟨Nat.le_add_right _ 4, .refl _ _ _ _, .refl _ _ _ _, .refl _ _ _ _, .refl _ _ _ _,
    .append _ (Nat.le_succ _) hn, fun hlinked => ⟨hlinked.objects,
      fun o ho => (hlinked.drawn o ho).trans_le (Nat.le_add_right _ 4),
      fun l hl => (hlinked.links l hl).trans_le (Nat.le_add_right _ 4)⟩⟩

end World.Extends

/-! ## The workflow -/

def Action.keepsContext : Action → Bool
  | .other _ | .createGoalAndRun .. | .answer _ => false
  | _ => true

/-- They leave the context of every run alone. -/
theorem Sys.respects_of_keepsContext {R : World → World → Prop} [ViewOrder Db.context R]
    (htick : ∀ (w : World) now, R w { w with now := now }) (services : Services) (s : Sys)
    {act : Action} (hact : act.keepsContext = true) : R s.world (s.step services act).world := by
  have hrefl : R s.world s.world := refl _
  cases act with
  | tick elapsed => exact htick _ _
  | other => cases hact
  | createGoalAndRun => cases hact
  | openWait input => exact DurableWait.openWait_keepsContext input _
  | answer => cases hact
  | cancelFixture companyId runId actorId correlationId =>
      exact DurableWait.cancelFixture_keepsContext companyId runId actorId correlationId _
  | claimTask w config runId locked =>
      rw [step]
      split
      · exact Worker.claimTask_keepsContext config runId locked _
      · exact hrefl
  | loadContext w =>
      rw [step]
      split
      · exact Prog.Respects.of_reads (Worker.loadContext_reads _ _) _
      · exact hrefl
  | isLeaseCurrent w =>
      rw [step]
      split
      next claim _ _ => exact Prog.Respects.of_reads (Worker.isLeaseCurrent_reads claim) s.world
      next => exact hrefl
  | abandonAttempt w =>
      rw [step]
      split
      · exact Worker.abandonAttempt_keepsContext _ _ _
      · exact hrefl
  | beginModelInvocation w =>
      rw [step]
      split
      · exact Worker.beginModelInvocation_keepsContext _ _
      · exact hrefl
  | blockUnknownModelOutcome w =>
      rw [step]
      split
      · exact Worker.blockUnknownModelOutcome_keepsContext _ _
      · exact hrefl
  | invoke w =>
      rw [step]
      split <;> exact hrefl
  | providerReturns w result =>
      rw [step]
      split <;> exact hrefl
  | completeTask w =>
      rw [step]
      split
      · exact Worker.completeTask_keepsContext _ _ _
      · exact hrefl
  | failTask w =>
      rw [step]
      split
      · exact Worker.failTask_keepsContext _ _
      · exact hrefl
  | finish w =>
      rw [step]
      split <;> exact hrefl
  | throws w => exact hrefl
  | crash w => exact hrefl

/-! ## The program -/

def World.reserved (w : World) (rows : List IdempotencyRecordRow) : World :=
  { w with
    nextId := w.nextId + 1
    db := { w.db with idempotencyRecords := rows } }

/-- What an action does to the snapshots runs point to: nothing, or it starts a run
or answers a wait. -/
inductive ContextStep (p : Program) (act : ProgramAction) (w w' : World) : Prop
  | kept (hpointers : w'.db.context.pointers = w.db.context.pointers)
      (hanswers : w'.db.contextSnapshots = w.db.contextSnapshots ∧
        w'.db.contextSnapshotAnswers = w.db.contextSnapshotAnswers)
  | started (actor : RequestActor) (initiativeId : UuidText) (expectedVersion : ℕ)
      (idempotencyKey : Uuid) (correlationId : UuidText) (dto : CreateGoalDto)
      (companyId : Uuid) (qualification : GoalQualification) (rows : List IdempotencyRecordRow)
      (response : CommandResponse) (w₁ : World)
      (hact : act = .call (.createGoalAndRun actor initiativeId expectedVersion idempotencyKey
        correlationId dto))
      (hstart : Initiatives.startRun p.services companyId actor initiativeId expectedVersion
        correlationId dto qualification (w.reserved rows) = (.ok response, w₁))
      (hcommit : w' = { w₁ with
        db := CommandExecutor.committed (Initiatives.goalCommand p.services companyId actor
          initiativeId expectedVersion idempotencyKey correlationId dto qualification) response
          w₁.db })
  | answered (input : AnswerWaitInput) (rows : List IdempotencyRecordRow)
      (response : CommandResponse) (w₁ : World)
      (hact : act = .work (.answer input) rfl)
      (hresolve : DurableWait.resolveWait p.services.runtime input (w.reserved rows) =
        (.ok response, w₁))
      (hcommit : w' = { w₁ with
        db := CommandExecutor.committed (DurableWait.answerCommand p.services.runtime input)
          response w₁.db })

namespace ContextStep

variable {p : Program} {act : ProgramAction} {w w' : World}

theorem of_db_eq (h : w'.db = w.db) : ContextStep p act w w' :=
  .kept (by rw [h]) (by rw [h]; exact ⟨rfl, rfl⟩)

theorem of_context_eq (h : w'.db.context = w.db.context) : ContextStep p act w w' :=
  .kept (congrArg ContextTables.pointers h)
    ⟨congrArg ContextTables.contextSnapshots h, congrArg ContextTables.contextSnapshotAnswers h⟩

end ContextStep

theorem DurableWait.answer_keepsVersioned (rt : Runtime) (input : AnswerWaitInput) :
    Prog.Respects (World.Keeps Db.versioned) (answer rt input) := by
  intro w
  rcases hrun : answer rt input w with ⟨_ | result, w'⟩
  · exact congrArg Db.versioned (answer_error_db hrun)
  · rcases answer_eq_ok hrun with rfl | ⟨rows, response, w₁, hresolve, rfl⟩
    · rfl
    · obtain ⟨wait, run, task, source, sequence, -, -, -, -, -, -, w₂, rfl, rfl⟩ :=
        resolveWait_eq_ok hresolve
      rfl

/-- An upload moves no run and takes no snapshot. -/
theorem Attachments.ingest_keepsSnapshots (rt : Runtime) (checks : AttachmentChecks)
    (actor : RequestActor) (idempotencyKey : Uuid) (correlationId : UuidText)
    (dto : CreateAttachmentDto) :
    Prog.Respects
      (World.Keeps fun db =>
        (db.runs.map RunRow.pointer, db.contextSnapshots, db.contextSnapshotAnswers))
      (ingest rt checks actor idempotencyKey correlationId dto) :=
  ingest_respects idempotencyKey dto (fun _ _ => rfl)
    (fun _ _ => DomainEvent.append_respects (fun _ => rfl) (fun _ _ _ _ => rfl)
      fun _ _ _ _ _ => rfl)
    fun _ _ _ _ => rfl

namespace Program

theorem contextStep_start (p : Program) (w : World) (actor : RequestActor)
    (initiativeId : UuidText) (expectedVersion : ℕ) (idempotencyKey : Uuid)
    (correlationId : UuidText) (dto : CreateGoalDto) :
    let call := VersionedCall.createGoalAndRun actor initiativeId expectedVersion idempotencyKey
      correlationId dto
    w.Extends (call.run p.services w).2 ∧
      ContextStep p (.call call) w (call.run p.services w).2 := by
  intro call
  have hgrows : World.Grows w (call.run p.services w).2 := Initiatives.createGoalAndRun_dbFree w
  rcases hrun : call.run p.services w with ⟨_ | result, w'⟩
  · have hdb := Initiatives.createGoalAndRun_error_db hrun
    rw [hrun] at hgrows
    exact ⟨.of_context_eq hgrows (congrArg Db.context hdb), .of_db_eq hdb⟩
  · rcases Initiatives.createGoalAndRun_eq_ok hrun with
      rfl | ⟨companyId, qualification, rows, response, w₁, -, hstart, rfl⟩
    · exact ⟨.of_context_eq (Nat.le_succ _) rfl, .of_db_eq rfl⟩
    · have hreserved : w.Extends (w.reserved rows) := .of_context_eq (Nat.le_succ _) rfl
      have hextends : w.Extends w₁ := Trans.trans hreserved (World.Extends.started hstart)
      have hcommitted : w₁.Extends { w₁ with
          db := CommandExecutor.committed (Initiatives.goalCommand p.services companyId actor
            initiativeId expectedVersion idempotencyKey correlationId dto qualification) response
            w₁.db } := .of_context_eq (Nat.le_refl _) rfl
      exact ⟨Trans.trans hextends hcommitted, .started actor initiativeId expectedVersion
        idempotencyKey correlationId dto companyId qualification rows response w₁ rfl hstart rfl⟩

theorem contextStep_answer (p : Program) (w : World) (input : AnswerWaitInput) :
    w.Extends (DurableWait.answer p.services.runtime input w).2 ∧
      ContextStep p (.work (.answer input) rfl) w
        (DurableWait.answer p.services.runtime input w).2 := by
  have hgrows : World.Grows w (DurableWait.answer p.services.runtime input w).2 :=
    DurableWait.answer_dbFree input w
  rcases hrun : DurableWait.answer p.services.runtime input w with ⟨_ | result, w'⟩
  · have hdb := DurableWait.answer_error_db hrun
    rw [hrun] at hgrows
    exact ⟨.of_context_eq hgrows (congrArg Db.context hdb), .of_db_eq hdb⟩
  · rcases DurableWait.answer_eq_ok hrun with rfl | ⟨rows, response, w₁, hresolve, rfl⟩
    · exact ⟨.of_context_eq (Nat.le_succ _) rfl, .of_db_eq rfl⟩
    · have hreserved : w.Extends (w.reserved rows) := .of_context_eq (Nat.le_succ _) rfl
      have hextends : w.Extends w₁ := Trans.trans hreserved (World.Extends.resolved hresolve)
      have hcommitted : w₁.Extends { w₁ with
          db := CommandExecutor.committed (DurableWait.answerCommand p.services.runtime input)
            response w₁.db } := .of_context_eq (Nat.le_refl _) rfl
      exact ⟨Trans.trans hextends hcommitted,
        .answered input rows response w₁ rfl hresolve rfl⟩

/-- Every action adds rows under fresh identifiers, and moves the runs it starts or
answers to their snapshots. -/
theorem contextStep (p : Program) (s : Sys) (act : ProgramAction) :
    s.world.Extends (p.step s act).world ∧
      ContextStep p act s.world (p.step s act).world := by
  cases act with
  | call call =>
      rw [step_call]
      cases hcall : call.startsRun with
      | false =>
          have hkeeps : World.Keeps Db.workflow s.world (call.run p.services s.world).2 :=
            call.keepsWorkflow p.services hcall s.world
          refine ⟨.call p.services hcall s.world, .kept ?_
            ⟨congrArg WorkflowTables.contextSnapshots hkeeps,
              congrArg WorkflowTables.contextSnapshotAnswers hkeeps⟩⟩
          exact congrArg (List.map RunRow.pointer) (congrArg WorkflowTables.runs hkeeps)
      | true =>
          cases call with
          | createCompany => cases hcall
          | updateProfile => cases hcall
          | createInitiative => cases hcall
          | createGoalAndRun actor initiativeId expectedVersion idempotencyKey correlationId dto =>
              exact p.contextStep_start s.world actor initiativeId expectedVersion idempotencyKey
                correlationId dto
  | ingest actor idempotencyKey correlationId dto =>
      have hkeeps := Attachments.ingest_keepsSnapshots p.services.runtime p.checks actor
        idempotencyKey correlationId dto s.world
      exact ⟨.ingest _ _ _ _ _ _ s.world, .kept (congrArg Prod.fst hkeeps)
        ⟨congrArg (fun v => v.2.1) hkeeps, congrArg (fun v => v.2.2) hkeeps⟩⟩
  | work act hact =>
      cases hkeeps : act.keepsContext with
      | true =>
          have hgrows : World.Grows s.world (s.step p.services act).world :=
            Sys.respects_of_keepsContext (fun w _ => Nat.le_refl w.nextId) p.services s hkeeps
          have hcontext : World.Keeps Db.context s.world (s.step p.services act).world :=
            Sys.respects_of_keepsContext (fun _ _ => rfl) p.services s hkeeps
          exact ⟨.of_context_eq hgrows hcontext, .of_context_eq hcontext⟩
      | false =>
          cases act with
          | answer input => exact p.contextStep_answer s.world input
          | other => cases hact
          | createGoalAndRun => cases hact
          | _ => cases hkeeps

/-- The versions of companies and initiatives change with the commands on them alone. -/
theorem tenantInv_step (p : Program) (s : Sys) (act : ProgramAction) (h : Tenant.Inv s.world) :
    Tenant.Inv (p.step s act).world := by
  have hkept : World.Keeps Db.versioned s.world (p.step s act).world →
      Tenant.Inv (p.step s act).world := by
    intro hkeeps
    have hgrows := (p.contextStep s act).1.nextId
    rw [Tenant.Inv, show (p.step s act).world.db.versioned = s.world.db.versioned from hkeeps]
    exact ⟨VersionedTables.Keyed.mono h.keyed hgrows, h.chains⟩
  cases act with
  | call call =>
      rw [step_call]
      exact Tenant.Inv.step h (.call call)
  | ingest actor idempotencyKey correlationId dto =>
      exact hkept (Attachments.ingest_respects (R := World.Keeps Db.versioned) idempotencyKey dto
        (fun _ _ => rfl)
        (fun _ _ => DomainEvent.append_respects (fun _ => rfl) (fun _ _ _ _ => rfl)
          fun _ _ _ _ _ => rfl)
        (fun _ _ _ _ => rfl) s.world)
  | work act hact =>
      cases hkeeps : act.keepsContext with
      | true =>
          have hcontext : World.Keeps Db.context s.world (s.step p.services act).world :=
            Sys.respects_of_keepsContext (fun _ _ => rfl) p.services s hkeeps
          exact hkept (VersionedTables.ext (congrArg ContextTables.companies hcontext)
            (congrArg ContextTables.companyProfileVersions hcontext)
            (congrArg ContextTables.initiatives hcontext)
            (congrArg ContextTables.goalVersions hcontext))
      | false =>
          cases act with
          | answer input =>
              exact hkept (DurableWait.answer_keepsVersioned p.services.runtime input s.world)
          | other => cases hact
          | createGoalAndRun => cases hact
          | _ => cases hkeeps

end Program

end Aico
