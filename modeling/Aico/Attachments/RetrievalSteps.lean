import Aico.Attachments.AttachmentRetrieval
import Aico.Workflow.ContextSteps

/-!
# What a step does to attachments

Bytes are written under the keys of fresh identifiers only (`World.WritesFresh`).
Records come from uploads and links from the goals that runs are started on
(`AttachedStep`); the calls that retrieve and delete change no more than the state
of records (`World.Serves`).
-/

namespace Aico

namespace Db

def attached (db : Db) : List ObjectRecordRow × List GoalVersionAttachmentRow :=
  (db.objectRecords, db.goalVersionAttachments)

end Db

/-- Under the keys of identifiers that were drawn before, bytes are at most removed. -/
structure World.WritesFresh (w w' : World) : Prop where
  grows : w.nextId ≤ w'.nextId
  bytes : ∀ companyId purpose objectId version body, objectId < w.nextId →
    MemoryObjectStore.get (buildObjectKey companyId purpose objectId version) w'.objects =
      some body →
    MemoryObjectStore.get (buildObjectKey companyId purpose objectId version) w.objects = some body

namespace World.WritesFresh

variable {w w' : World}

/-- Nothing is written. -/
theorem of_removed (hgrows : w.nextId ≤ w'.nextId)
    (hbytes : ∀ key body, MemoryObjectStore.get key w'.objects = some body →
      MemoryObjectStore.get key w.objects = some body) : w.WritesFresh w' where
  grows := hgrows
  bytes _ _ _ _ _ _ := hbytes _ _

instance : DbFree World.WritesFresh where
  refl _ := of_removed (Nat.le_refl _) fun _ _ h => h
  trans _ _ _ h h' :=
    { grows := h.grows.trans h'.grows
      bytes := fun companyId purpose objectId version body hid hbody =>
        h.bytes companyId purpose objectId version body hid
          (h'.bytes companyId purpose objectId version body (hid.trans_le h.grows) hbody) }
  newId _ := of_removed (Nat.le_succ _) fun _ _ h => h
  rollback _ _ h := { grows := h.grows, bytes := h.bytes }
  exec _ _ := of_removed (Nat.le_refl _) fun _ _ h => h

/-- An upload stores its bytes under the key of an identifier it has drawn. -/
theorem stored (companyId : Uuid) (actor : RequestActor) (correlationId : UuidText)
    (body : Bytes) (validated : AttachmentValidationSuccess) (w : World) :
    w.WritesFresh (Attachments.stored companyId actor correlationId body validated w) where
  grows := Nat.le_add_right w.nextId 3
  bytes companyId' purpose objectId version body' hid hbody' := by
    have hne : buildObjectKey companyId' purpose objectId version ≠
        (Attachments.objectRow companyId w.nextId validated).objectKey := by
      intro heq
      exact hid.ne (objectId_eq_of_buildObjectKey_eq heq)
    rw [← hbody']
    exact (MemoryObjectStore.get_put_of_ne hne).symm

theorem ingest (rt : Runtime) (checks : AttachmentChecks) (actor : RequestActor)
    (idempotencyKey : Uuid) (correlationId : UuidText) (dto : CreateAttachmentDto) :
    Prog.Respects World.WritesFresh
      (Attachments.ingest rt checks actor idempotencyKey correlationId dto) :=
  Attachments.ingest_respects idempotencyKey dto (fun w _ => DbFree.exec w _)
    (fun options _ => DomainEvent.append_dbFree options) fun companyId body validated w =>
    stored companyId actor correlationId body validated w

theorem step (p : Program) (s : Sys) (act : ProgramAction) :
    s.world.WritesFresh (p.step s act).world := by
  cases act with
  | call call =>
      rw [Program.step_call]
      cases hcall : call.startsRun with
      | false => exact call.keepsWorkflow p.services hcall s.world
      | true =>
          cases call with
          | createGoalAndRun => exact Initiatives.createGoalAndRun_dbFree s.world
          | _ => cases hcall
  | ingest actor idempotencyKey correlationId dto => exact .ingest _ _ _ _ _ _ s.world
  | work act hact =>
      cases hkeeps : act.keepsContext with
      | true =>
          exact Sys.respects_of_keepsContext
            (fun _ _ => of_removed (Nat.le_refl _) fun _ _ h => h) p.services s hkeeps
      | false =>
          cases act with
          | answer input => exact DurableWait.answer_dbFree input s.world
          | other => cases hact
          | createGoalAndRun => cases hact
          | _ => cases hkeeps

end World.WritesFresh

/-! ## Records and links -/

/-- What an action does to records and links: nothing, or it uploads an object, or it
starts a run on a goal version with links. -/
inductive AttachedStep (p : AttachmentProgram) (act : ProgramAction) (w w' : World) : Prop
  | kept (hrecords : w'.db.objectRecords = w.db.objectRecords)
      (hlinks : w'.db.goalVersionAttachments = w.db.goalVersionAttachments)
  | ingested (actor : RequestActor) (idempotencyKey : Uuid) (correlationId : UuidText)
      (dto : CreateAttachmentDto) (companyId : Uuid) (body : Bytes)
      (validated : AttachmentValidationSuccess)
      (hact : act = .ingest actor idempotencyKey correlationId dto)
      (hcompany : actor.companyId = some companyId)
      (hbody : Attachments.decodeBody dto.contentBase64 = .ok body)
      (hvalid : AttachmentValidator.validateAttachmentIngest p.parts dto body = .ok validated)
      (hrecords : w'.db.objectRecords =
        w.db.objectRecords ++ [Attachments.objectRow companyId (w.nextId + 1) validated])
      (hlinks : w'.db.goalVersionAttachments = w.db.goalVersionAttachments)
      (hstored : MemoryObjectStore.get (buildObjectKey companyId .attachment (w.nextId + 1) 1)
        w'.objects = some body)
  | started (actor : RequestActor) (initiativeId : UuidText) (expectedVersion : ℕ)
      (idempotencyKey : Uuid) (correlationId : UuidText) (dto : CreateGoalDto)
      (companyId : Uuid) (ids : Initiatives.RunIds) (version : ℕ)
      (hact : act = .call (.createGoalAndRun actor initiativeId expectedVersion idempotencyKey
        correlationId dto))
      (hcompany : actor.companyId = some companyId)
      (hids : ids.goalVersionId = w.nextId + 1)
      (hrecords : w'.db.objectRecords = w.db.objectRecords)
      (hlinks : w'.db.goalVersionAttachments = w.db.goalVersionAttachments ++
        Attachments.linkRows companyId ids.goalVersionId 0 dto.attachmentIds)
      (hgoals : w'.db.goalVersions = w.db.goalVersions ++
        [Initiatives.goalVersionRow companyId initiativeId.value actor ids version dto w.now])

theorem AttachedStep.of_keeps {p : AttachmentProgram} {act : ProgramAction} {w w' : World}
    (h : World.Keeps Db.attached w w') : AttachedStep p act w w' :=
  .kept (congrArg Prod.fst h) (congrArg Prod.snd h)

/-- An answer changes no record and no link. -/
theorem DurableWait.answer_keepsAttached (rt : Runtime) (input : AnswerWaitInput) :
    Prog.Respects (World.Keeps Db.attached) (answer rt input) := by
  intro w
  rcases hrun : answer rt input w with ⟨_ | result, w'⟩
  · exact congrArg Db.attached (answer_error_db hrun)
  · rcases answer_eq_ok hrun with rfl | ⟨rows, response, w₁, hresolve, rfl⟩
    · rfl
    · obtain ⟨wait, run, task, source, sequence, -, -, -, -, -, -, w₂, rfl, rfl⟩ :=
        resolveWait_eq_ok hresolve
      rfl

namespace AttachmentProgram

theorem attachedStep_ingest (p : AttachmentProgram) (w : World) (actor : RequestActor)
    (idempotencyKey : Uuid) (correlationId : UuidText) (dto : CreateAttachmentDto) :
    AttachedStep p (.ingest actor idempotencyKey correlationId dto) w
      (Attachments.ingest p.services.runtime p.program.checks actor idempotencyKey correlationId
        dto w).2 := by
  have haudit : ∀ companyId e body, Prog.Respects (World.Keeps Db.attached)
      (Attachments.auditRejection companyId actor correlationId e dto body) := fun _ _ _ =>
    .transact (.bind (DomainEvent.append_respects (fun _ => rfl) (fun _ _ _ _ => rfl)
      fun _ _ _ _ _ => rfl) fun _ => .pure _)
  cases hcompany : actor.companyId with
  | none =>
      rw [Attachments.ingest, companyScopeFromActor, hcompany, Op.require_none]
      exact .kept rfl rfl
  | some companyId =>
      rw [Attachments.ingest, companyScopeFromActor, hcompany, Op.require_some]
      rcases hbody : p.program.checks.decodeBody dto.contentBase64 with e | body
      · exact .kept rfl rfl
      rcases hvalid : p.program.checks.validateAttachmentIngest dto body with e | validated
      · simp only [hvalid]
        exact .of_keeps (Prog.Respects.ite (R := World.Keeps Db.attached)
          (.bind (haudit _ _ _) fun _ => .throw _) (.throw _) w)
      simp only [hvalid]
      generalize hoptions : (CommandOptions.mk actor.id "attachments.ingest" idempotencyKey
        (.object [("declared_media_type", .text dto.declaredMediaType),
          ("filename", .str validated.safeFilename),
          ("content_sha256", .str validated.checksumSha256)])
        (Attachments.storeAttachment companyId actor correlationId body validated)) = options
      have hexecute : options.execute =
          Attachments.storeAttachment companyId actor correlationId body validated := by
        rw [← hoptions]
      rcases hrun : CommandExecutor.run p.services.runtime options w with ⟨e | result, w'⟩
      · exact .of_keeps (congrArg Db.attached (CommandExecutor.run_error_db hrun))
      · rcases CommandExecutor.run_eq_ok hrun with rfl | ⟨rows, response, w₁, hstore, rfl⟩
        · exact .kept rfl rfl
        · rw [hexecute, Attachments.storeAttachment_run] at hstore
          obtain ⟨-, rfl⟩ := Prod.mk.inj hstore
          exact .ingested actor idempotencyKey correlationId dto companyId body validated rfl
            hcompany hbody hvalid rfl rfl MemoryObjectStore.get_put_self

theorem attachedStep_start (p : AttachmentProgram) (w : World) (actor : RequestActor)
    (initiativeId : UuidText) (expectedVersion : ℕ) (idempotencyKey : Uuid)
    (correlationId : UuidText) (dto : CreateGoalDto) :
    let call := VersionedCall.createGoalAndRun actor initiativeId expectedVersion idempotencyKey
      correlationId dto
    AttachedStep p (.call call) w (call.run p.services w).2 := by
  intro call
  rcases hrun : call.run p.services w with ⟨e | result, w'⟩
  · exact .of_keeps (congrArg Db.attached (Initiatives.createGoalAndRun_error_db hrun))
  · rcases Initiatives.createGoalAndRun_eq_ok hrun with
      rfl | ⟨companyId, qualification, rows, response, w₁, hcompany, hstart, rfl⟩
    · exact .kept rfl rfl
    · obtain ⟨profileVersionId, sequence, sequence', -, rfl⟩ := Initiatives.startRun_eq_ok hstart
      exact .started actor initiativeId expectedVersion idempotencyKey correlationId dto companyId
        _ _ rfl hcompany rfl rfl rfl rfl

theorem attachedStep (p : AttachmentProgram) (s : Sys) (act : ProgramAction) :
    AttachedStep p act s.world (p.program.step s act).world := by
  cases act with
  | call call =>
      rw [Program.step_call]
      cases hcall : call.startsRun with
      | false =>
          have hkeeps : World.Keeps Db.workflow s.world (call.run p.services s.world).2 :=
            call.keepsWorkflow p.services hcall s.world
          exact .kept (congrArg WorkflowTables.objectRecords hkeeps)
            (congrArg WorkflowTables.goalVersionAttachments hkeeps)
      | true =>
          cases call with
          | createGoalAndRun actor initiativeId expectedVersion idempotencyKey correlationId dto =>
              exact p.attachedStep_start s.world actor initiativeId expectedVersion idempotencyKey
                correlationId dto
          | _ => cases hcall
  | ingest actor idempotencyKey correlationId dto =>
      exact p.attachedStep_ingest s.world actor idempotencyKey correlationId dto
  | work act hact =>
      cases hkeeps : act.keepsContext with
      | true =>
          have hcontext : World.Keeps Db.context s.world (s.step p.services act).world :=
            Sys.respects_of_keepsContext (fun _ _ => rfl) p.services s hkeeps
          exact .kept (congrArg ContextTables.objectRecords hcontext)
            (congrArg ContextTables.goalVersionAttachments hcontext)
      | false =>
          cases act with
          | answer input =>
              exact .of_keeps (DurableWait.answer_keepsAttached p.services.runtime input s.world)
          | other => cases hact
          | createGoalAndRun => cases hact
          | _ => cases hkeeps

end AttachmentProgram

/-! ## Retrievals and deletions -/

def ObjectRecordRow.identity (o : ObjectRecordRow) : Uuid × Uuid × JsString × Digest :=
  (o.id, o.companyId, o.objectKey, o.checksumSha256)

/-- Grants are added, records change their state, and objects are at most removed. -/
inductive World.Serves (w : World) : World → Prop
  | intro (nextId : Uuid) (objects : MemoryObjectStore) (rows : List ObjectRecordRow)
      (grants : List AttachmentRetrievalGrantRow) (hgrows : w.nextId ≤ nextId)
      (hobjects : ∀ key body, MemoryObjectStore.get key objects = some body →
        MemoryObjectStore.get key w.objects = some body)
      (hrows : rows.map ObjectRecordRow.identity =
        w.db.objectRecords.map ObjectRecordRow.identity) :
      Serves w { w with
        nextId := nextId
        objects := objects
        db := { w.db with objectRecords := rows, attachmentRetrievalGrants := grants } }

namespace World.Serves

variable {w w' : World}

theorem removed {objects : MemoryObjectStore}
    (hobjects : ∀ key body, MemoryObjectStore.get key objects = some body →
      MemoryObjectStore.get key w.objects = some body) :
    w.Serves { w with objects := objects } :=
  .intro w.nextId objects _ _ (Nat.le_refl _) hobjects rfl

theorem granted (grants : List AttachmentRetrievalGrantRow) :
    w.Serves { w with db := { w.db with attachmentRetrievalGrants := grants } } :=
  .intro w.nextId w.objects _ grants (Nat.le_refl _) (fun _ _ h => h) rfl

instance : WorldOrder World.Serves where
  refl _ := removed fun _ _ h => h
  trans _ _ _ h h' := by
    obtain ⟨nextId, objects, rows, grants, hgrows, hobjects, hrows⟩ := h
    obtain ⟨nextId', objects', rows', grants', hgrows', hobjects', hrows'⟩ := h'
    exact .intro nextId' objects' rows' grants' (hgrows.trans hgrows')
      (fun key body h => hobjects key body (hobjects' key body h)) (hrows'.trans hrows)
  newId w := .intro (w.nextId + 1) w.objects _ _ (Nat.le_succ _) (fun _ _ h => h) rfl
  rollback w _ h := by
    obtain ⟨nextId, objects, rows, grants, hgrows, hobjects, hrows⟩ := h
    exact .intro nextId objects _ _ hgrows hobjects rfl

theorem writesFresh (h : w.Serves w') : w.WritesFresh w' := by
  obtain ⟨nextId, objects, rows, grants, hgrows, hobjects, hrows⟩ := h
  exact .of_removed hgrows hobjects

theorem links_eq (h : w.Serves w') :
    w'.db.goalVersionAttachments = w.db.goalVersionAttachments := by
  obtain ⟨nextId, objects, rows, grants, hgrows, hobjects, hrows⟩ := h
  rfl

/-- Every record is one that was there, in another state. -/
theorem exists_record (h : w.Serves w') {o' : ObjectRecordRow} (ho' : o' ∈ w'.db.objectRecords) :
    ∃ o ∈ w.db.objectRecords, o.identity = o'.identity := by
  obtain ⟨nextId, objects, rows, grants, hgrows, hobjects, hrows⟩ := h
  have hmem : o'.identity ∈ w.db.objectRecords.map ObjectRecordRow.identity :=
    hrows ▸ List.mem_map_of_mem ho'
  exact List.mem_map.mp hmem

end World.Serves

namespace ObjectAccess

theorem loadOwnRecord_serves (companyId objectId : Uuid) :
    Prog.Respects World.Serves (loadOwnRecord companyId objectId) :=
  .bind (.query _) fun _ => .require _ _

theorem storeDelete_serves (row : ObjectRecordRow) :
    Prog.Respects World.Serves (storeDelete row) := by
  refine .modify fun w => .removed fun key body h => ?_
  by_cases hkey : key = row.objectKey
  · rw [hkey, MemoryObjectStore.get_delete_self] at h
    cases h
  · rwa [MemoryObjectStore.get_delete_of_ne hkey] at h

theorem setDeleted_serves (companyId objectId : Uuid) :
    Prog.Respects World.Serves (setDeleted companyId objectId) := by
  refine .exec fun w => .intro w.nextId w.objects _ _ (Nat.le_refl _) (fun _ _ h => h) ?_
  exact Table.map_updateWhere (fun _ => by rfl) _

end ObjectAccess

namespace AttachmentRetrieval

theorem findLinked_serves (companyId runId attachmentId : Uuid) :
    Prog.Respects World.Serves (findLinked companyId runId attachmentId) :=
  .bind (.query _) fun _ => .bind (.require _ _) fun _ => .bind .now fun _ =>
    .bind (.ensure _ _) fun _ => .pure _

theorem insertGrant_serves (companyId runId attachmentId : Uuid) :
    Prog.Respects World.Serves (insertGrant companyId runId attachmentId) :=
  .bind .newId fun _ => .bind .now fun _ => .exec fun _ => .granted _

theorem readBody_serves (row : ObjectRecordRow) : Prog.Respects World.Serves (readBody row) :=
  .bind (.bind (.gets _) fun _ => .bind (.require _ _) fun _ => .pure _) fun _ => .pure _

end AttachmentRetrieval

namespace AttachmentSys

theorem step_cases (p : AttachmentProgram) (s : AttachmentSys) (a : AttachmentAction) :
    (∃ act, a = .program act ∧
      s.step p a = { s with sys := p.program.step s.sys act }) ∨
    (∀ act, a ≠ .program act) ∧ ∃ w', s.sys.world.Serves w' ∧
      (s.step p a).sys = { s.sys with world := w' } := by
  have hsettle : ∀ {α : Type} {op : Op α} {place : α → AttachmentPlace} {k : ℕ},
      Prog.Respects World.Serves op → ∃ w', s.sys.world.Serves w' ∧
        (s.settle k op place).sys = { s.sys with world := w' } :=
    fun hop => ⟨_, hop s.sys.world, rfl⟩
  have hsame : ∃ w', s.sys.world.Serves w' ∧ s.sys = { s.sys with world := w' } :=
    ⟨s.sys.world, refl _, rfl⟩
  have hcall : ∀ k place, ∃ w', s.sys.world.Serves w' ∧
      (s.call k place).sys = { s.sys with world := w' } := by
    intro k place
    rw [AttachmentSys.call]
    split <;> exact hsame
  cases a with
  | program act => exact .inl ⟨act, rfl, rfl⟩
  | delete k companyId objectId => exact .inr ⟨fun _ h => (by cases h), hcall k _⟩
  | retrieve k call =>
      refine .inr ⟨fun _ h => (by cases h), ?_⟩
      rw [step]
      split <;> exact hcall k _
  | next k =>
      refine .inr ⟨fun _ h => (by cases h), ?_⟩
      rw [step, next]
      split
      · exact hsettle (ObjectAccess.loadOwnRecord_serves _ _)
      · exact hsettle (ObjectAccess.storeDelete_serves _)
      · exact hsettle (ObjectAccess.setDeleted_serves _ _)
      · exact hsettle (AttachmentRetrieval.findLinked_serves _ _ _)
      · exact hsettle (AttachmentRetrieval.insertGrant_serves _ _ _)
      · exact hsettle (AttachmentRetrieval.readBody_serves _)
      · exact hsame
  | lost k => exact .inr ⟨fun _ h => (by cases h), hsame⟩
  | crash =>
      have hnone (key : JsString) (body : Bytes) (h : MemoryObjectStore.get key [] = some body) :
          MemoryObjectStore.get key s.sys.world.objects = some body := by
        cases h
      exact .inr ⟨fun _ h => (by cases h), _, .removed hnone, rfl⟩

end AttachmentSys

end Aico
