import Aico.Common.CompanyScope
import Aico.Foundation.Selection

/-!
# Portions of the database

Every row is of a company, of a founder or of the local consumer of events, and a `Portion` of
the database is the rows of some of them. Inserting rows of one owner, or changing rows of his,
acts on the portion with that owner alone. The catalogue of employees is in every portion.
-/

namespace Aico

/-- Whom a row is of. -/
inductive Owner where
  | company (id : Uuid)
  | founder (id : Uuid)
  | consumer

/-- Some owners, and the keys of their objects. -/
structure Portion where
  has : Owner → Bool
  hasKey : JsString → Bool

/-- The other owners. -/
def Portion.compl (p : Portion) : Portion where
  has o := !p.has o
  hasKey key := !p.hasKey key

def Db.portion (p : Portion) (db : Db) : Db where
  founders := db.founders.filter fun r => p.has (.founder r.id)
  companies := db.companies.filter fun r => p.has (.founder r.founderId)
  companyProfileVersions :=
    db.companyProfileVersions.filter fun r => p.has (.company r.companyId)
  initiatives := db.initiatives.filter fun r => p.has (.company r.companyId)
  goalVersions := db.goalVersions.filter fun r => p.has (.company r.companyId)
  goalQualifications := db.goalQualifications.filter fun r => p.has (.company r.companyId)
  goalVersionAttachments :=
    db.goalVersionAttachments.filter fun r => p.has (.company r.companyId)
  objectRecords := db.objectRecords.filter fun r => p.has (.company r.companyId)
  attachmentRetrievalGrants :=
    db.attachmentRetrievalGrants.filter fun r => p.has (.company r.companyId)
  employeeDefinitions := db.employeeDefinitions
  idempotencyRecords := db.idempotencyRecords.filter fun r => p.has (.founder r.actorId)
  contextSnapshots := db.contextSnapshots.filter fun r => p.has (.company r.companyId)
  contextSnapshotAnswers :=
    db.contextSnapshotAnswers.filter fun r => p.has (.company r.companyId)
  runs := db.runs.filter fun r => p.has (.company r.companyId)
  runEventCounters := db.runEventCounters.filter fun r => p.has (.company r.companyId)
  budgetLedgers := db.budgetLedgers.filter fun r => p.has (.company r.companyId)
  tasks := db.tasks.filter fun r => p.has (.company r.companyId)
  taskAttempts := db.taskAttempts.filter fun r => p.has (.company r.companyId)
  policyDecisions := db.policyDecisions.filter fun r => p.has (.company r.companyId)
  artifacts := db.artifacts.filter fun r => p.has (.company r.companyId)
  artifactVersions := db.artifactVersions.filter fun r => p.has (.company r.companyId)
  modelInvocationEffects :=
    db.modelInvocationEffects.filter fun r => p.has (.company r.companyId)
  humanWaits := db.humanWaits.filter fun r => p.has (.company r.companyId)
  clarificationAnswerVersions :=
    db.clarificationAnswerVersions.filter fun r => p.has (.company r.companyId)
  events := db.events.filter fun r => p.has (.company r.companyId)
  outboxMessages :=
    db.outboxMessages.filter fun r => p.has (.company r.envelope.companyId.value)
  inboxReceipts := db.inboxReceipts.filter fun _ => p.has .consumer
  localEventProjections := db.localEventProjections.filter fun _ => p.has .consumer

def World.portion (p : Portion) (w : World) : World :=
  { w with
    db := w.db.portion p
    objects := w.objects.filter fun o => p.hasKey o.1 }

structure OwnedTable (ρ : Type) where
  rows : Db → List ρ
  put : List ρ → Db → Db
  owner : ρ → Owner
  rows_portion : ∀ p db, rows (db.portion p) = (rows db).filter fun r => p.has (owner r) := by
    intro _ _; rfl
  portion_put : ∀ p l db,
    (put l db).portion p = put (l.filter fun r => p.has (owner r)) (db.portion p) := by
    intro _ _ _; rfl
  put_rows : ∀ db, put (rows db) db = db := by
    intro _; rfl

namespace OwnedTable

variable {ρ : Type} (T : OwnedTable ρ) {p : Portion} {db : Db}

theorem portion_insert_of_has {new : List ρ} (h : ∀ r ∈ new, p.has (T.owner r) = true) :
    (T.put (T.rows db ++ new) db).portion p =
      T.put (T.rows (db.portion p) ++ new) (db.portion p) := by
  rw [T.portion_put, List.filter_append, List.filter_eq_self.mpr h, T.rows_portion]

theorem portion_insert_of_not {new : List ρ} (h : ∀ r ∈ new, p.has (T.owner r) = false) :
    (T.put (T.rows db ++ new) db).portion p = db.portion p := by
  have hnone : new.filter (fun r => p.has (T.owner r)) = [] :=
    List.filter_eq_nil_iff.mpr fun r hr => by simp [h r hr]
  rw [T.portion_put, List.filter_append, hnone, List.append_nil, ← T.rows_portion, T.put_rows]

variable {q : ρ → Bool} {f : ρ → ρ}

theorem portion_update (hf : ∀ r, T.owner (f r) = T.owner r) :
    (T.put (Table.updateWhere q f (T.rows db)) db).portion p =
      T.put (Table.updateWhere q f (T.rows (db.portion p))) (db.portion p) := by
  have hkeeps : ∀ r, p.has (T.owner (f r)) = p.has (T.owner r) := fun r => by rw [hf r]
  rw [T.portion_put, Table.filter_updateWhere hkeeps, T.rows_portion]

theorem portion_update_of_not (hf : ∀ r, T.owner (f r) = T.owner r)
    (hq : ∀ r, q r = true → p.has (T.owner r) = false) :
    (T.put (Table.updateWhere q f (T.rows db)) db).portion p = db.portion p := by
  have hnone : ∀ r ∈ T.rows (db.portion p), q r = false := by
    intro r hr
    rw [T.rows_portion] at hr
    by_contra hqr
    have hnot := hq r (Bool.eq_true_of_not_eq_false hqr)
    rw [(List.mem_filter.mp hr).2] at hnot
    cases hnot
  rw [T.portion_update hf, Table.updateWhere_eq_self hnone, T.put_rows]

end OwnedTable

/-! ## The tables -/

namespace OwnedTable

def founders : OwnedTable FounderRow where
  rows := Db.founders
  put l db := { db with founders := l }
  owner r := .founder r.id

def companies : OwnedTable CompanyRow where
  rows := Db.companies
  put l db := { db with companies := l }
  owner r := .founder r.founderId

def companyProfileVersions : OwnedTable CompanyProfileVersionRow where
  rows := Db.companyProfileVersions
  put l db := { db with companyProfileVersions := l }
  owner r := .company r.companyId

def initiatives : OwnedTable InitiativeRow where
  rows := Db.initiatives
  put l db := { db with initiatives := l }
  owner r := .company r.companyId

def goalVersions : OwnedTable GoalVersionRow where
  rows := Db.goalVersions
  put l db := { db with goalVersions := l }
  owner r := .company r.companyId

def goalQualifications : OwnedTable GoalQualificationRow where
  rows := Db.goalQualifications
  put l db := { db with goalQualifications := l }
  owner r := .company r.companyId

def goalVersionAttachments : OwnedTable GoalVersionAttachmentRow where
  rows := Db.goalVersionAttachments
  put l db := { db with goalVersionAttachments := l }
  owner r := .company r.companyId

def objectRecords : OwnedTable ObjectRecordRow where
  rows := Db.objectRecords
  put l db := { db with objectRecords := l }
  owner r := .company r.companyId

def attachmentRetrievalGrants : OwnedTable AttachmentRetrievalGrantRow where
  rows := Db.attachmentRetrievalGrants
  put l db := { db with attachmentRetrievalGrants := l }
  owner r := .company r.companyId

def idempotencyRecords : OwnedTable IdempotencyRecordRow where
  rows := Db.idempotencyRecords
  put l db := { db with idempotencyRecords := l }
  owner r := .founder r.actorId

def contextSnapshots : OwnedTable ContextSnapshotRow where
  rows := Db.contextSnapshots
  put l db := { db with contextSnapshots := l }
  owner r := .company r.companyId

def runs : OwnedTable RunRow where
  rows := Db.runs
  put l db := { db with runs := l }
  owner r := .company r.companyId

def runEventCounters : OwnedTable RunEventCounterRow where
  rows := Db.runEventCounters
  put l db := { db with runEventCounters := l }
  owner r := .company r.companyId

def budgetLedgers : OwnedTable BudgetLedgerRow where
  rows := Db.budgetLedgers
  put l db := { db with budgetLedgers := l }
  owner r := .company r.companyId

def tasks : OwnedTable TaskRow where
  rows := Db.tasks
  put l db := { db with tasks := l }
  owner r := .company r.companyId

def events : OwnedTable EventRow where
  rows := Db.events
  put l db := { db with events := l }
  owner r := .company r.companyId

def outboxMessages : OwnedTable OutboxMessageRow where
  rows := Db.outboxMessages
  put l db := { db with outboxMessages := l }
  owner r := .company r.envelope.companyId.value

end OwnedTable

end Aico
