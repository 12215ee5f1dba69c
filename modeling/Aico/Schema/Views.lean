import Aico.Schema.Database

/-!
# Views of the database

`Db.context` is what the context of a run is resolved from: the transactions of
the workflow leave it alone unless they start a run or answer a wait.
`Db.workflow` is what the commands on companies and initiatives leave alone.
-/

namespace Aico

def RunRow.pointer (r : RunRow) : Uuid × Uuid × Uuid := (r.id, r.companyId, r.contextSnapshotId)

/-- The tables the context of a run is resolved from. -/
@[ext] structure ContextTables where
  companies : List CompanyRow
  companyProfileVersions : List CompanyProfileVersionRow
  initiatives : List InitiativeRow
  goalVersions : List GoalVersionRow
  goalVersionAttachments : List GoalVersionAttachmentRow
  objectRecords : List ObjectRecordRow
  contextSnapshots : List ContextSnapshotRow
  contextSnapshotAnswers : List ContextSnapshotAnswerRow
  pointers : List (Uuid × Uuid × Uuid)

/-- The tables of the runs with the goals and the objects they refer to, and the
events about them. -/
@[ext] structure WorkflowTables where
  goalVersions : List GoalVersionRow
  goalVersionAttachments : List GoalVersionAttachmentRow
  objectRecords : List ObjectRecordRow
  contextSnapshots : List ContextSnapshotRow
  contextSnapshotAnswers : List ContextSnapshotAnswerRow
  runs : List RunRow
  tasks : List TaskRow
  taskAttempts : List TaskAttemptRow
  modelInvocationEffects : List ModelInvocationEffectRow
  artifacts : List ArtifactRow
  artifactVersions : List ArtifactVersionRow
  humanWaits : List HumanWaitRow
  clarificationAnswerVersions : List ClarificationAnswerVersionRow
  runEvents : List EventRow

namespace Db

def context (db : Db) : ContextTables where
  companies := db.companies
  companyProfileVersions := db.companyProfileVersions
  initiatives := db.initiatives
  goalVersions := db.goalVersions
  goalVersionAttachments := db.goalVersionAttachments
  objectRecords := db.objectRecords
  contextSnapshots := db.contextSnapshots
  contextSnapshotAnswers := db.contextSnapshotAnswers
  pointers := db.runs.map RunRow.pointer

def workflow (db : Db) : WorkflowTables where
  goalVersions := db.goalVersions
  goalVersionAttachments := db.goalVersionAttachments
  objectRecords := db.objectRecords
  contextSnapshots := db.contextSnapshots
  contextSnapshotAnswers := db.contextSnapshotAnswers
  runs := db.runs
  tasks := db.tasks
  taskAttempts := db.taskAttempts
  modelInvocationEffects := db.modelInvocationEffects
  artifacts := db.artifacts
  artifactVersions := db.artifactVersions
  humanWaits := db.humanWaits
  clarificationAnswerVersions := db.clarificationAnswerVersions
  runEvents := db.events.filter fun e => e.runId.isSome

theorem context_updateRuns {p : RunRow → Bool} {f : RunRow → RunRow}
    (hf : ∀ r, (f r).pointer = r.pointer) (db : Db) :
    Db.context { db with runs := Table.updateWhere p f db.runs } = db.context :=
  ContextTables.ext rfl rfl rfl rfl rfl rfl rfl rfl (Table.map_updateWhere hf db.runs)

end Db

end Aico

namespace Prog.Respects

open Aico

variable {R : World → World → Prop} {f : Db → Db}

/-- A change that leaves the context of every run alone. -/
theorem keepsContext [ViewOrder Db.context R] (hf : ∀ db, (f db).context = db.context) :
    Respects R (Op.exec f) :=
  ViewOrder.respects_exec Db.context hf

/-- A change that leaves the runs and what they refer to alone. -/
theorem keepsWorkflow [ViewOrder Db.workflow R] (hf : ∀ db, (f db).workflow = db.workflow) :
    Respects R (Op.exec f) :=
  ViewOrder.respects_exec Db.workflow hf

end Prog.Respects
