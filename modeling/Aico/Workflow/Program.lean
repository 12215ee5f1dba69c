import Aico.Attachments.AttachmentsSteps
import Aico.Tenancy.VersionChains
import Aico.Workflow.SystemInvariant

/-!
# The program

The workflow together with the commands of the founders on companies, initiatives
and attachments, from a database without companies. Every action of the program
is one of the workflow system (`toAction`), in which the commands that start no
run are operations of the rest of the program.
-/

namespace Aico

/-! ## Commands that start no run -/

theorem KeepsWorkflow.of_workflow_eq {w w' : World} (h : w'.db.workflow = w.db.workflow)
    (hgrows : w.nextId ≤ w'.nextId) : KeepsWorkflow w w' where
  runs := congrArg WorkflowTables.runs h
  tasks := congrArg WorkflowTables.tasks h
  taskAttempts := congrArg WorkflowTables.taskAttempts h
  modelInvocationEffects := congrArg WorkflowTables.modelInvocationEffects h
  artifacts := congrArg WorkflowTables.artifacts h
  artifactVersions := congrArg WorkflowTables.artifactVersions h
  humanWaits := congrArg WorkflowTables.humanWaits h
  clarificationAnswerVersions := congrArg WorkflowTables.clarificationAnswerVersions h
  runEvents := congrArg WorkflowTables.runEvents h
  nextId := hgrows

instance : ViewOrder Db.workflow KeepsWorkflow where
  refl _ := .of_workflow_eq rfl (Nat.le_refl _)
  trans _ _ _ h h' :=
    { runs := h'.runs.trans h.runs
      tasks := h'.tasks.trans h.tasks
      taskAttempts := h'.taskAttempts.trans h.taskAttempts
      modelInvocationEffects := h'.modelInvocationEffects.trans h.modelInvocationEffects
      artifacts := h'.artifacts.trans h.artifacts
      artifactVersions := h'.artifactVersions.trans h.artifactVersions
      humanWaits := h'.humanWaits.trans h.humanWaits
      clarificationAnswerVersions :=
        h'.clarificationAnswerVersions.trans h.clarificationAnswerVersions
      runEvents := h'.runEvents.trans h.runEvents
      nextId := h.nextId.trans h'.nextId }
  newId _ := .of_workflow_eq rfl (Nat.le_succ _)
  rollback _ _ h := .of_workflow_eq rfl h.nextId
  exec _ _ h := .of_workflow_eq h (Nat.le_refl _)

def VersionedCall.startsRun : VersionedCall → Bool
  | createGoalAndRun .. => true
  | _ => false

theorem VersionedCall.keepsWorkflow {R : World → World → Prop} [ViewOrder Db.workflow R]
    (services : Services) {c : VersionedCall} (h : c.startsRun = false) :
    Prog.Respects R (c.run services) := by
  cases c with
  | createCompany actor idempotencyKey correlationId dto =>
      rw [run, Companies.create_eq]
      exact .bind (.bind (.ensure _ _) fun _ => .bind (.ensure _ _) fun _ => .ensure _ _) fun _ =>
        CommandExecutor.run_keeps (v := Db.workflow) (fun _ _ => rfl)
          (Companies.provision_keepsWorkflow dto)
  | updateProfile actor idempotencyKey expectedVersion correlationId dto =>
      rw [run, Companies.updateProfile_eq]
      exact .bind (.bind (.ensure _ _) fun _ => .ensure _ _) fun _ =>
        CommandExecutor.run_keeps (v := Db.workflow) (fun _ _ => rfl)
          (Companies.replaceProfile_keepsWorkflow expectedVersion dto)
  | createInitiative actor idempotencyKey correlationId dto =>
      exact .bind (.require _ _) fun _ => .catchError
        (CommandExecutor.run_keeps (v := Db.workflow) (fun _ _ => rfl)
          Initiatives.openInitiative_keepsWorkflow) fun _ => .throw _
  | createGoalAndRun => cases h

theorem Attachments.ingest_keepsWorkflow (rt : Runtime) (checks : AttachmentChecks)
    (actor : RequestActor) (idempotencyKey : Uuid) (correlationId : UuidText)
    (dto : CreateAttachmentDto) :
    Prog.Respects KeepsWorkflow (ingest rt checks actor idempotencyKey correlationId dto) := by
  refine ingest_respects idempotencyKey dto
    (fun w _ => ViewOrder.exec (v := Db.workflow) w _ rfl)
    (fun _ hrun => DomainEvent.append_keepsWorkflow hrun) fun companyId body validated w => ?_
  have hevents : (w.db.events ++ [DomainEvent.eventRow (ingestedEvent companyId actor
      correlationId (objectRow companyId w.nextId validated) validated) (w.nextId + 1) none
      w.now]).filter (fun e => e.runId.isSome) = w.db.events.filter fun e => e.runId.isSome := by
    rw [List.filter_append]
    exact List.append_nil _
  exact ⟨rfl, rfl, rfl, rfl, rfl, rfl, rfl, rfl, hevents, Nat.le_add_right w.nextId 3⟩

/-! ## The actions -/

/-- Whether the action is one of a worker, a wait or the clock. -/
def Action.isWork : Action → Bool
  | .other _ | .createGoalAndRun .. => false
  | _ => true

inductive ProgramAction where
  | call (call : VersionedCall)
  | ingest (actor : RequestActor) (idempotencyKey : Uuid) (correlationId : UuidText)
      (dto : CreateAttachmentDto)
  | work (act : Action) (hact : act.isWork = true)

/-- What the program runs with. -/
structure Program where
  services : Services
  checks : AttachmentChecks

/-- A world before the first company. -/
structure InitialProgram extends InitialWorld where
  companies : world.db.companies = []
  companyProfileVersions : world.db.companyProfileVersions = []
  initiatives : world.db.initiatives = []
  goalVersions : world.db.goalVersions = []
  goalVersionAttachments : world.db.goalVersionAttachments = []
  objectRecords : world.db.objectRecords = []
  contextSnapshots : world.db.contextSnapshots = []
  contextSnapshotAnswers : world.db.contextSnapshotAnswers = []

namespace Program

/-- A program that leaves the rows of runs alone, as an operation. -/
def tenantOp {α : Type} (op : Op α) (h : Prog.Respects KeepsWorkflow op) : TenantOp where
  run w := (op w).2
  keeps := h

def toAction (p : Program) : ProgramAction → Action
  | .call (.createGoalAndRun actor initiativeId expectedVersion idempotencyKey correlationId
      dto) =>
      .createGoalAndRun actor initiativeId expectedVersion idempotencyKey correlationId dto
  | .call (.createCompany actor idempotencyKey correlationId dto) =>
      .other (tenantOp _ (VersionedCall.keepsWorkflow p.services
        (c := .createCompany actor idempotencyKey correlationId dto) rfl))
  | .call (.updateProfile actor idempotencyKey expectedVersion correlationId dto) =>
      .other (tenantOp _ (VersionedCall.keepsWorkflow p.services
        (c := .updateProfile actor idempotencyKey expectedVersion correlationId dto) rfl))
  | .call (.createInitiative actor idempotencyKey correlationId dto) =>
      .other (tenantOp _ (VersionedCall.keepsWorkflow p.services
        (c := .createInitiative actor idempotencyKey correlationId dto) rfl))
  | .ingest actor idempotencyKey correlationId dto =>
      .other (tenantOp _ (Attachments.ingest_keepsWorkflow p.services.runtime p.checks actor
        idempotencyKey correlationId dto))
  | .work act _ => act

def step (p : Program) (s : Sys) (act : ProgramAction) : Sys :=
  s.step p.services (p.toAction act)

def after (p : Program) (init : InitialProgram) (acts : List ProgramAction) : Sys :=
  Transition.run p.step init.sys acts

theorem step_call (p : Program) (s : Sys) (call : VersionedCall) :
    (p.step s (.call call)).world = (call.run p.services s.world).2 := by
  cases call <;> rfl

/-! ## A sample program -/

def demoFounding : InitialProgram where
  world :=
    { db := { Db.empty with founders := [{ id := 0 }] }
      objects := []
      nextId := 1
      now := 0 }
  runs := rfl
  tasks := rfl
  taskAttempts := rfl
  modelInvocationEffects := rfl
  artifacts := rfl
  artifactVersions := rfl
  humanWaits := rfl
  clarificationAnswerVersions := rfl
  runEvents := nofun
  companies := rfl
  companyProfileVersions := rfl
  initiatives := rfl
  goalVersions := rfl
  goalVersionAttachments := rfl
  objectRecords := rfl
  contextSnapshots := rfl
  contextSnapshotAnswers := rfl

/-- The program with the sample services; it takes every upload for text. -/
def demo : Program where
  services := demoServices
  checks :=
    { decodeBody := fun text => .ok (text.map UInt16.toUInt8)
      validateAttachmentIngest := fun dto body =>
        .ok { mediaType := "text/plain", checksumSha256 := dto.contentSha256,
              safeFilename := dto.filename, sizeBytes := body.length } }

def demoActor : RequestActor where
  id := 0
  companyId := some 2

def demoCompanyProfile : CompanyProfileDto where
  purpose := js "Prototypes"
  targetCustomer := js "Founders"
  constraints := [js "No real data"]
  normalizedLimits := { maxScreens := 1, primaryFlows := 1, dataMode := js "mock_or_local" }
  sensitiveDataWarningAcknowledged := true

def demoOpening : List ProgramAction :=
  [.call (.createCompany { id := 0, companyId := none } 1 (.ofUuid 0)
      { name := js "Demo", profile := demoCompanyProfile }),
    .call (.createInitiative demoActor 2 (.ofUuid 0) { type := "PROTOTYPE", title := js "Demo" }),
    .call (.createGoalAndRun demoActor (.ofUuid 7) 1 3 (.ofUuid 0) demoGoal)]

end Program

end Aico
