import Aico.Initiatives.Initiatives

/-!
# What starting a run commits

`createGoalAndRun` that returns has replayed an earlier answer, or has inserted a
goal version with its attachments, the run with its task, and two events.
-/

namespace Aico

/-! ## Attachments -/

def World.Links (w w' : World) : Prop :=
  ∃ links, w' = { w with db := { w.db with goalVersionAttachments := links } }

instance : IsPreorder World World.Links where
  refl w := ⟨w.db.goalVersionAttachments, rfl⟩
  trans := by
    rintro w _ _ ⟨links, rfl⟩ ⟨links', rfl⟩
    exact ⟨links', rfl⟩

theorem World.Links.dbFree {R : World → World → Prop} [DbFree R] {w w' : World}
    (h : World.Links w w') : R w w' := by
  obtain ⟨links, rfl⟩ := h
  exact DbFree.exec w _

namespace Attachments

theorem linkAll_links (companyId goalVersionId : Uuid) (rows : List ObjectRecordRow)
    (attachmentIds : List UuidText) (ordinal aggregate : ℕ) :
    Prog.Respects World.Links
      (linkAll companyId goalVersionId rows ordinal aggregate attachmentIds) := by
  induction attachmentIds generalizing ordinal aggregate with
  | nil => exact .pure _
  | cons attachmentId rest ih =>
      exact .bind (.require _ _) fun row => .bind .now fun _ => .bind (.ensure _ _) fun _ =>
        .bind (.ensure _ _) fun _ => .bind (.exec fun w => ⟨_, rfl⟩) fun _ => ih _ _

theorem bindToGoalVersion_links (companyId goalVersionId : Uuid)
    (attachmentIds : List UuidText) :
    Prog.Respects World.Links
      (bindToGoalVersion companyId goalVersionId attachmentIds) :=
  .ite (.pure _) (.bind (.ensure _ _) fun _ => .bind (.ensure _ _) fun _ =>
    .bind (.query _) fun _ => .bind (.ensure _ _) fun _ => linkAll_links _ _ _ _ _ _)

def linkRows (companyId goalVersionId : Uuid) (ordinal : ℕ) (attachmentIds : List UuidText) :
    List GoalVersionAttachmentRow :=
  (attachmentIds.zipIdx ordinal).map fun entry =>
    linkRow companyId goalVersionId entry.1.value entry.2

theorem linkAll_eq_ok {companyId goalVersionId : Uuid} {rows : List ObjectRecordRow}
    {attachmentIds : List UuidText} {ordinal aggregate : ℕ} {u : PUnit} {w w' : World}
    (h : linkAll companyId goalVersionId rows ordinal aggregate attachmentIds w = (.ok u, w')) :
    w' = { w with
        db := { w.db with
          goalVersionAttachments := w.db.goalVersionAttachments ++
            linkRows companyId goalVersionId ordinal attachmentIds } } ∧
      ∀ id ∈ attachmentIds, ∃ row ∈ rows, row.id = id.value := by
  induction attachmentIds generalizing ordinal aggregate w with
  | nil =>
      obtain ⟨-, rfl⟩ := Prog.pure_eq_ok.mp h
      exact ⟨by simp [linkRows], nofun⟩
  | cons attachmentId rest ih =>
      rw [linkAll] at h
      obtain ⟨row, w₁, hrequire, h₁⟩ := Prog.bind_eq_ok.mp h
      obtain ⟨hrow, rfl⟩ := Prog.require_eq_ok.mp hrequire
      rw [Op.now_bind] at h₁
      obtain ⟨_, w₂, hlinkable, h₂⟩ := Prog.bind_eq_ok.mp h₁
      obtain ⟨-, rfl⟩ := Prog.ensure_eq_ok.mp hlinkable
      obtain ⟨_, w₃, htotal, h₃⟩ := Prog.bind_eq_ok.mp h₂
      obtain ⟨-, rfl⟩ := Prog.ensure_eq_ok.mp htotal
      rw [Op.exec_bind] at h₃
      obtain ⟨rfl, hrest⟩ := ih h₃
      refine ⟨by simp [linkRows, List.zipIdx_cons], ?_⟩
      intro id hid
      rcases List.mem_cons.mp hid with rfl | hid
      · refine ⟨row, List.mem_of_find?_eq_some hrow, ?_⟩
        have htext : row.id.text = id.text := by simpa using List.find?_some hrow
        exact UuidText.value_eq_of_text_eq (x := .ofUuid row.id) htext
      · exact hrest id hid

theorem bindToGoalVersion_eq_ok {companyId goalVersionId : Uuid}
    {attachmentIds : List UuidText} {u : PUnit} {w w' : World}
    (h : bindToGoalVersion companyId goalVersionId attachmentIds w = (.ok u, w')) :
    w' = { w with
        db := { w.db with
          goalVersionAttachments := w.db.goalVersionAttachments ++
            linkRows companyId goalVersionId 0 attachmentIds } } ∧
      ∀ id ∈ attachmentIds,
        ∃ o ∈ w.db.objectRecords, o.companyId = companyId ∧ o.id = id.value := by
  rw [bindToGoalVersion] at h
  rcases Prog.ite_eq_ok.mp h with ⟨rfl, hpure⟩ | ⟨-, h₀⟩
  · obtain ⟨-, rfl⟩ := Prog.pure_eq_ok.mp hpure
    exact ⟨by simp [linkRows], nofun⟩
  · obtain ⟨_, w₁, hcount, h₁⟩ := Prog.bind_eq_ok.mp h₀
    obtain ⟨-, rfl⟩ := Prog.ensure_eq_ok.mp hcount
    obtain ⟨_, w₂, hunique, h₂⟩ := Prog.bind_eq_ok.mp h₁
    obtain ⟨-, rfl⟩ := Prog.ensure_eq_ok.mp hunique
    rw [Op.query_bind] at h₂
    obtain ⟨_, w₃, hall, h₃⟩ := Prog.bind_eq_ok.mp h₂
    obtain ⟨-, rfl⟩ := Prog.ensure_eq_ok.mp hall
    obtain ⟨rfl, hrows⟩ := linkAll_eq_ok h₃
    refine ⟨rfl, fun id hid => ?_⟩
    obtain ⟨o, ho, heq⟩ := hrows id hid
    obtain ⟨ho, hown⟩ := List.mem_filter.mp ho
    simp only [decide_eq_true_eq] at hown
    exact ⟨o, ho, hown.1, heq⟩

end Attachments

namespace Initiatives

variable {services : Services} {w w' : World}

/-! ## Opening an initiative -/

theorem openInitiative_eq_ok {companyId : Uuid} {actor : RequestActor}
    {correlationId : UuidText} {dto : CreateInitiativeDto} {response : CommandResponse}
    (h : openInitiative companyId actor correlationId dto w = (.ok response, w')) :
    (∀ i ∈ w.db.initiatives, isActivePrototype companyId i = false) ∧
      w' = DomainEvent.appended
        (initiativeCreatedEvent companyId actor correlationId w.nextId) none
        { w with
          nextId := w.nextId + 1
          db := { w.db with
            initiatives := w.db.initiatives ++
              [initiativeRow companyId w.nextId dto.title.trim w.now] } } := by
  rw [openInitiative, Op.query_bind] at h
  obtain ⟨_, w₁, hexisting, h₁⟩ := Prog.bind_eq_ok.mp h
  obtain ⟨hnone, rfl⟩ := Prog.ensure_eq_ok.mp hexisting
  rw [Op.newId_bind] at h₁
  simp only [Op.now_bind] at h₁
  obtain ⟨_, w₂, htitle, h₂⟩ := Prog.bind_eq_ok.mp h₁
  obtain ⟨-, rfl⟩ := Prog.ensure_eq_ok.mp htitle
  rw [Op.exec_bind] at h₂
  obtain ⟨_, w₃, happend, hpure⟩ := Prog.bind_eq_ok.mp h₂
  obtain ⟨sequence, hsequence, -, -, rfl⟩ := DomainEvent.append_eq_ok.mp happend
  obtain rfl : none = sequence := Except.ok.inj hsequence
  obtain ⟨-, rfl⟩ := Prog.pure_eq_ok.mp hpure
  exact ⟨fun i hi => by simpa using List.filter_eq_nil_iff.mp hnone i hi, rfl⟩

theorem openInitiative_keepsWorkflow {R : World → World → Prop} [ViewOrder Db.workflow R]
    {companyId : Uuid} {actor : RequestActor} {correlationId : UuidText}
    {dto : CreateInitiativeDto} :
    Prog.Respects R (openInitiative companyId actor correlationId dto) :=
  .bind (.query _) fun _ => .bind (.ensure _ _) fun _ => .bind .newId fun _ =>
    .bind .now fun _ => .bind (.ensure _ _) fun _ => .bind (.keepsWorkflow fun _ => rfl) fun _ =>
    .bind (DomainEvent.append_keepsWorkflow rfl) fun _ => .pure _

/-! ## The run -/

/-- The identifiers drawn from `n` on. -/
def runIds (needsClarification : Bool) (n : ℕ) : RunIds where
  goalVersionId := n
  contextSnapshotId := n + 1
  runId := n + 2
  taskId := if needsClarification then none else some (n + 3)
  qualificationId := if needsClarification then n + 3 else n + 4

/-- How many identifiers `drawRunIds` draws. -/
def idCount (needsClarification : Bool) : ℕ := if needsClarification then 4 else 5

theorem four_le_idCount (needsClarification : Bool) : 4 ≤ idCount needsClarification := by
  cases needsClarification <;> decide

theorem drawRunIds_run (needsClarification : Bool) (w : World) :
    drawRunIds needsClarification w =
      (.ok (runIds needsClarification w.nextId),
        { w with nextId := w.nextId + idCount needsClarification }) := by
  cases needsClarification <;> rfl

def inserted (services : Services) (companyId initiativeId : Uuid) (ids : RunIds)
    (profileVersionId : Uuid) (qualification : GoalQualification)
    (needsClarification : Bool) (now : Timestamp) (db : Db) : Db :=
  { db with
    contextSnapshots := db.contextSnapshots ++
      [contextSnapshotRow companyId ids profileVersionId now]
    runs := db.runs ++ [runRow services companyId initiativeId ids needsClarification now]
    runEventCounters := db.runEventCounters ++
      [{ companyId := companyId, runId := ids.runId, nextSequence := 1 }]
    tasks := db.tasks ++
      ids.taskId.toList.map (taskRow services companyId ids profileVersionId now)
    goalQualifications := db.goalQualifications ++
      [qualificationRow companyId initiativeId ids qualification]
    budgetLedgers := db.budgetLedgers ++ budgetLedgerRows companyId ids.runId }

theorem insertRun_eq_ok {companyId initiativeId : Uuid} {ids : RunIds}
    {profileVersionId : Uuid} {qualification : GoalQualification}
    {needsClarification : Bool} {now : Timestamp} {u : PUnit}
    (h : insertRun services companyId initiativeId ids profileVersionId qualification
      needsClarification now w = (.ok u, w')) :
    w' = { w with
      db := inserted services companyId initiativeId ids profileVersionId qualification
        needsClarification now w.db } := by
  rw [insertRun, Op.exec_bind, Op.exec_bind, Op.exec_bind, Op.exec_bind] at h
  obtain ⟨_, w₁, hcheck, hrest⟩ := Prog.bind_eq_ok.mp h
  obtain ⟨-, rfl⟩ := Prog.ensure_eq_ok.mp hcheck
  rw [Op.exec_bind] at hrest
  exact Prog.modify_eq_ok.mp hrest

def started (services : Services) (companyId : Uuid) (actor : RequestActor)
    (initiativeId : UuidText) (correlationId : UuidText) (qualification : GoalQualification)
    (profileVersionId : Uuid) (sequence sequence' : Option ℕ) (w : World) (db : Db) :
    World :=
  let needsClarification := decide (qualification.result = .needsClarification)
  let ids := runIds needsClarification w.nextId
  DomainEvent.appended
    (goalQualificationRecordedEvent companyId correlationId ids qualification) sequence'
    (DomainEvent.appended
      (runCreatedEvent companyId initiativeId actor correlationId ids needsClarification)
      sequence
      { w with
        nextId := w.nextId + idCount needsClarification
        db := inserted services companyId initiativeId.value ids profileVersionId
          qualification needsClarification w.now db })

def goalAdded (companyId : Uuid) (actor : RequestActor) (initiativeId : UuidText)
    (dto : CreateGoalDto) (ids : RunIds) (now : Timestamp) (db : Db) : Db :=
  { db with
    goalVersions := db.goalVersions ++
      [goalVersionRow companyId initiativeId.value actor ids
        (nextGoalVersion companyId initiativeId.value db.goalVersions) dto now]
    goalVersionAttachments := db.goalVersionAttachments ++
      Attachments.linkRows companyId ids.goalVersionId 0 dto.attachmentIds
    initiatives := Table.updateWhere
      (fun i => i.companyId = companyId ∧ i.id = initiativeId.value)
      (fun i =>
        { i with
          currentGoalVersionId := some ids.goalVersionId
          status := .active
          rowVersion := i.rowVersion + 1
          updatedAt := now })
      db.initiatives }

/-- What a run that starts has found: its initiative at the expected version, and
the current profile version of the company. -/
structure Startable (companyId : Uuid) (actor : RequestActor) (initiativeId : UuidText)
    (expectedVersion : ℕ) (dto : CreateGoalDto) (profileVersionId : Uuid) (db : Db) : Prop where
  initiative : ∃ i ∈ db.initiatives, i.companyId = companyId ∧ i.id = initiativeId.value ∧
    i.status.isOpen = true ∧ i.rowVersion = expectedVersion
  profile : ∃ c ∈ db.companies, c.id = companyId ∧ c.founderId = actor.id ∧
    c.currentProfileVersionId = some profileVersionId
  attachments : ∀ id ∈ dto.attachmentIds,
    ∃ o ∈ db.objectRecords, o.companyId = companyId ∧ o.id = id.value

theorem startRun_eq_ok {companyId : Uuid} {actor : RequestActor} {initiativeId : UuidText}
    {expectedVersion : ℕ} {correlationId : UuidText} {dto : CreateGoalDto}
    {qualification : GoalQualification} {response : CommandResponse}
    (h : startRun services companyId actor initiativeId expectedVersion correlationId dto
      qualification w = (.ok response, w')) :
    ∃ profileVersionId sequence sequence',
      Startable companyId actor initiativeId expectedVersion dto profileVersionId w.db ∧
      w' = started services companyId actor initiativeId correlationId qualification
        profileVersionId sequence sequence' w
        (goalAdded companyId actor initiativeId dto
          (runIds (decide (qualification.result = .needsClarification)) w.nextId) w.now w.db) := by
  rw [startRun, Op.query_bind] at h
  obtain ⟨initiative, w₁, hrequire, h₁⟩ := Prog.bind_eq_ok.mp h
  obtain ⟨hinitiative, rfl⟩ := Prog.require_eq_ok.mp hrequire
  obtain ⟨_, w₂, hensure, h₂⟩ := Prog.bind_eq_ok.mp h₁
  obtain ⟨hversion, rfl⟩ := Prog.ensure_eq_ok.mp hensure
  rw [Op.query_bind, Op.query_bind, Prog.bind_of_ok (drawRunIds_run _ _), Op.now_bind,
    Op.query_bind] at h₂
  obtain ⟨_, w₃, hfree, h₃⟩ := Prog.bind_eq_ok.mp h₂
  obtain ⟨-, rfl⟩ := Prog.ensure_eq_ok.mp hfree
  rw [Op.exec_bind] at h₃
  obtain ⟨_, w₄, hbind, h₄⟩ := Prog.bind_eq_ok.mp h₃
  obtain ⟨rfl, hattachments⟩ := Attachments.bindToGoalVersion_eq_ok hbind
  rw [Op.exec_bind] at h₄
  obtain ⟨profileVersion, w₅, hrequire', h₅⟩ := Prog.bind_eq_ok.mp h₄
  obtain ⟨hprofile, rfl⟩ := Prog.require_eq_ok.mp hrequire'
  obtain ⟨profileVersionId, w₆, hrequire'', h₆⟩ := Prog.bind_eq_ok.mp h₅
  obtain ⟨hid, rfl⟩ := Prog.require_eq_ok.mp hrequire''
  obtain ⟨_, w₇, hinsert, h₇⟩ := Prog.bind_eq_ok.mp h₆
  obtain rfl := insertRun_eq_ok hinsert
  obtain ⟨_, w₈, happend, h₈⟩ := Prog.bind_eq_ok.mp h₇
  obtain ⟨sequence, -, -, -, rfl⟩ := DomainEvent.append_eq_ok.mp happend
  obtain ⟨_, w₉, happend', hpure⟩ := Prog.bind_eq_ok.mp h₈
  obtain ⟨sequence', -, -, -, rfl⟩ := DomainEvent.append_eq_ok.mp happend'
  obtain ⟨-, rfl⟩ := Prog.pure_eq_ok.mp hpure
  refine ⟨profileVersionId, sequence, sequence', ⟨?_, ?_, hattachments⟩, rfl⟩
  · obtain ⟨hmem, hopen⟩ := List.mem_filter.mp (List.mem_of_mem_head? hinitiative)
    simp only [decide_eq_true_eq] at hopen
    exact ⟨initiative, hmem, hopen.1, hopen.2.1, hopen.2.2, hversion⟩
  · obtain ⟨c, hc, hcurrent⟩ := List.mem_map.mp (List.mem_of_mem_head? hprofile)
    obtain ⟨hc, hown⟩ := List.mem_filter.mp hc
    simp only [decide_eq_true_eq] at hown
    exact ⟨c, hc, hown.1, hown.2, hcurrent.trans hid⟩

/-! ## The command -/

def goalCommand (services : Services) (companyId : Uuid) (actor : RequestActor)
    (initiativeId : UuidText) (expectedVersion : ℕ) (idempotencyKey : Uuid)
    (correlationId : UuidText) (dto : CreateGoalDto) (qualification : GoalQualification) :
    CommandOptions where
  actorId := actor.id
  operation := "initiatives.goals.create_and_start"
  idempotencyKey := idempotencyKey
  request := .object [("initiativeId", initiativeId.toJson),
    ("expectedVersion", .nat expectedVersion), ("dto", dto.toJson)]
  execute := startRun services companyId actor initiativeId expectedVersion correlationId
    dto qualification

variable {actor : RequestActor} {initiativeId : UuidText} {expectedVersion : ℕ}
  {idempotencyKey : Uuid} {correlationId : UuidText} {dto : CreateGoalDto}

theorem createGoalAndRun_eq_ok {result : CommandResult}
    (h : createGoalAndRun services actor initiativeId expectedVersion idempotencyKey
      correlationId dto w = (.ok result, w')) :
    w' = { w with nextId := w.nextId + 1 } ∨
      ∃ companyId qualification rows response w₁, actor.companyId = some companyId ∧
        startRun services companyId actor initiativeId expectedVersion correlationId dto
          qualification
          { w with
            nextId := w.nextId + 1
            db := { w.db with idempotencyRecords := rows } } = (.ok response, w₁) ∧
        w' = { w₁ with
          db := CommandExecutor.committed
            (goalCommand services companyId actor initiativeId expectedVersion
              idempotencyKey correlationId dto qualification) response w₁.db } := by
  obtain ⟨companyId, w₁, hcompany, h₁⟩ := Prog.bind_eq_ok.mp h
  obtain ⟨hactor, rfl⟩ := Prog.require_eq_ok.mp hcompany
  obtain ⟨qualification, w₂, hevaluate, h₂⟩ := Prog.bind_eq_ok.mp h₁
  obtain ⟨_, w₃, hviolations, hpure⟩ := Prog.bind_eq_ok.mp hevaluate
  obtain ⟨-, rfl⟩ := Prog.ensure_eq_ok.mp hviolations
  obtain ⟨-, rfl⟩ := Prog.pure_eq_ok.mp hpure
  obtain ⟨_, w₄, hscope, hrun⟩ := Prog.bind_eq_ok.mp h₂
  obtain ⟨-, rfl⟩ := Prog.ensure_eq_ok.mp hscope
  rcases CommandExecutor.run_eq_ok hrun with rfl | ⟨rows, response, w₁, hexecute, rfl⟩
  · exact .inl rfl
  · exact .inr ⟨companyId, _, rows, response, w₁, hactor, hexecute, rfl⟩

theorem evaluate_reads (evaluateGoalQualification : StructuredGoalDto → GoalQualification)
    (dto : CreateGoalDto) :
    Prog.Respects (· = ·) (GoalScopePolicy.evaluate evaluateGoalQualification dto) :=
  .bind (.ensure _ _) fun _ => .pure _

theorem createGoalAndRun_error_db {e : Failure}
    (h : createGoalAndRun services actor initiativeId expectedVersion idempotencyKey
      correlationId dto w = (.error e, w')) : w'.db = w.db :=
  Op.bind_error_db (.require _ _)
    (fun _ => Op.bind_error_db (evaluate_reads _ _)
      fun _ => Op.bind_error_db (.ensure _ _) fun _ => CommandExecutor.run_error_db) h

theorem drawRunIds_dbFree {R : World → World → Prop} [DbFree R] (needsClarification : Bool) :
    Prog.Respects R (drawRunIds needsClarification) :=
  .bind .newId fun _ => .bind .newId fun _ => .bind .newId fun _ =>
    .ite (.bind .newId fun _ => .pure _) (.bind .newId fun _ => .bind .newId fun _ => .pure _)

theorem startRun_dbFree {R : World → World → Prop} [DbFree R] {companyId : Uuid}
    {qualification : GoalQualification} :
    Prog.Respects R (startRun services companyId actor initiativeId expectedVersion
      correlationId dto qualification) := by
  refine .bind (.query _) fun _ => .bind (.require _ _) fun _ => .bind (.ensure _ _) fun _ =>
    .bind (.query _) fun _ => .bind (.query _) fun _ => .bind (drawRunIds_dbFree _) fun ids =>
    .bind .now fun _ => .bind (.query _) fun _ => .bind (.ensure _ _) fun _ =>
    .bind (DbFree.respects_exec _) fun _ => .bind ?_ fun _ =>
    .bind (DbFree.respects_exec _) fun _ => .bind (.require _ _) fun _ =>
    .bind (.require _ _) fun _ => .bind ?_ fun _ => .bind (DomainEvent.append_dbFree _) fun _ =>
    .bind (DomainEvent.append_dbFree _) fun _ => .pure _
  · exact fun w => (Attachments.bindToGoalVersion_links _ _ _ w).dbFree
  · exact .bind (DbFree.respects_exec _) fun _ => .bind (DbFree.respects_exec _) fun _ =>
      .bind (DbFree.respects_exec _) fun _ => .bind (DbFree.respects_exec _) fun _ =>
      .bind (.ensure _ _) fun _ => .bind (DbFree.respects_exec _) fun _ =>
      DbFree.respects_exec _

theorem createGoalAndRun_dbFree {R : World → World → Prop} [DbFree R] :
    Prog.Respects R (createGoalAndRun services actor initiativeId expectedVersion
      idempotencyKey correlationId dto) :=
  .bind (.require _ _) fun _ => .bind (.bind (.ensure _ _) fun _ => .pure _) fun _ =>
    .bind (.ensure _ _) fun _ => CommandExecutor.run_dbFree startRun_dbFree

end Initiatives

end Aico
