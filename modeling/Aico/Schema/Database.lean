import Aico.Foundation.Program
import Aico.Foundation.Table
import Aico.Schema.Event

/-!
# The database and the programs over it

`Db` holds the tables, `World` the database with what lies outside a
transaction: the object store, the clock and the supply of identifiers. An
`Op α` is a program over the world that returns an `α` or throws a `Failure`;
`Op.transaction` rolls the database back when it throws, and nothing else.
-/

namespace Aico

structure Db where
  founders : List FounderRow
  companies : List CompanyRow
  companyProfileVersions : List CompanyProfileVersionRow
  initiatives : List InitiativeRow
  goalVersions : List GoalVersionRow
  goalQualifications : List GoalQualificationRow
  goalVersionAttachments : List GoalVersionAttachmentRow
  objectRecords : List ObjectRecordRow
  attachmentRetrievalGrants : List AttachmentRetrievalGrantRow
  employeeDefinitions : List EmployeeDefinitionRow
  idempotencyRecords : List IdempotencyRecordRow
  contextSnapshots : List ContextSnapshotRow
  contextSnapshotAnswers : List ContextSnapshotAnswerRow
  runs : List RunRow
  runEventCounters : List RunEventCounterRow
  budgetLedgers : List BudgetLedgerRow
  tasks : List TaskRow
  taskAttempts : List TaskAttemptRow
  policyDecisions : List PolicyDecisionRow
  artifacts : List ArtifactRow
  artifactVersions : List ArtifactVersionRow
  modelInvocationEffects : List ModelInvocationEffectRow
  humanWaits : List HumanWaitRow
  clarificationAnswerVersions : List ClarificationAnswerVersionRow
  events : List EventRow
  outboxMessages : List OutboxMessageRow
  inboxReceipts : List InboxReceiptRow
  localEventProjections : List LocalEventProjectionRow

/-- The database with no rows. -/
def Db.empty : Db where
  founders := []
  companies := []
  companyProfileVersions := []
  initiatives := []
  goalVersions := []
  goalQualifications := []
  goalVersionAttachments := []
  objectRecords := []
  attachmentRetrievalGrants := []
  employeeDefinitions := []
  idempotencyRecords := []
  contextSnapshots := []
  contextSnapshotAnswers := []
  runs := []
  runEventCounters := []
  budgetLedgers := []
  tasks := []
  taskAttempts := []
  policyDecisions := []
  artifacts := []
  artifactVersions := []
  modelInvocationEffects := []
  humanWaits := []
  clarificationAnswerVersions := []
  events := []
  outboxMessages := []
  inboxReceipts := []
  localEventProjections := []

/-- The database and what a transaction does not roll back. -/
structure World where
  db : Db
  objects : List (JsString × Bytes)
  nextId : ℕ
  now : Timestamp

/-- The error a domain rule raises; the response of a refused request. -/
structure DomainError where
  status : ℕ
  code : String
  detail : String
  title : String := "The command could not be completed"
  remediation : List String := []
  errors : List Json := []

/-- What an operation throws: an error of its own, a violated constraint, or a
property read off `undefined`. -/
inductive Failure where
  | domain (e : DomainError)
  | constraint (name : String)
  | error (message : String)
  | typeError

abbrev Op (α : Type) := Prog World Failure α

namespace Op

/-- A fresh identifier. -/
def newId : Op Uuid :=
  fun w => (.ok w.nextId, { w with nextId := w.nextId + 1 })

/-- The time of the database and of the process. -/
def now : Op Timestamp := Prog.gets World.now

/-- Read the database. -/
def query {α : Type} (f : Db → α) : Op α := Prog.gets fun w => f w.db

/-- Change the database. -/
def exec (f : Db → Db) : Op PUnit := Prog.modify fun w => { w with db := f w.db }

/-- `dataSource.transaction`: the database is rolled back when the callback
throws. -/
def transaction {α : Type} (p : Op α) : Op α :=
  Prog.transaction (fun w w' => { w' with db := w.db }) p

section Evaluation

variable {α β : Type} (w : World)

theorem newId_bind (k : Uuid → Op β) :
    (newId >>= k) w = k w.nextId { w with nextId := w.nextId + 1 } := rfl

theorem now_bind (k : Timestamp → Op β) : (now >>= k) w = k w.now w := rfl

theorem query_bind (f : Db → α) (k : α → Op β) :
    (query f >>= k) w = k (f w.db) w := rfl

theorem exec_bind (f : Db → Db) (k : PUnit → Op β) :
    (exec f >>= k) w = k ⟨⟩ { w with db := f w.db } := rfl

theorem ensure_bind (c : Prop) [Decidable c] (e : Failure) (k : PUnit → Op β) :
    (Prog.ensure c e >>= k) w = if c then k ⟨⟩ w else (.error e, w) := by
  by_cases hc : c
  · simp only [Prog.ensure, hc, if_true]
    rfl
  · simp only [Prog.ensure, hc, if_false]
    rfl

theorem ensure_of {c : Prop} [Decidable c] (hc : c) (e : Failure)
    (k : PUnit → Op β) : (Prog.ensure c e >>= k) w = k ⟨⟩ w := by
  rw [ensure_bind, if_pos hc]

theorem ensure_of_not {c : Prop} [Decidable c] (hc : ¬ c) (e : Failure)
    (k : PUnit → Op β) : (Prog.ensure c e >>= k) w = (.error e, w) := by
  rw [ensure_bind, if_neg hc]

theorem require_some (a : α) (e : Failure) (k : α → Op β) :
    (Prog.require (some a) e >>= k) w = k a w := rfl

theorem require_none (e : Failure) (k : α → Op β) :
    (Prog.require none e >>= k) w = (.error e, w) := rfl

theorem throw_run (e : Failure) : (Prog.throw e : Op α) w = (.error e, w) := rfl

end Evaluation

theorem transaction_of_ok {α : Type} {p : Op α} {a : α} {w w' : World}
    (h : p w = (.ok a, w')) : transaction p w = (.ok a, w') :=
  Prog.transaction_of_ok h

theorem transaction_of_error {α : Type} {p : Op α} {e : Failure} {w w' : World}
    (h : p w = (.error e, w')) :
    transaction p w = (.error e, { w' with db := w.db }) :=
  Prog.transaction_of_error h

theorem transaction_eq_ok {α : Type} {p : Op α} {a : α} {w w' : World} :
    transaction p w = (.ok a, w') ↔ p w = (.ok a, w') :=
  Prog.transaction_eq_ok

/-- A transaction that throws leaves the database as it was. -/
theorem transaction_error {α : Type} {p : Op α} {e : Failure} {w w' : World}
    (h : transaction p w = (.error e, w')) : w'.db = w.db := by
  obtain ⟨w₁, -, rfl⟩ := Prog.transaction_eq_error.mp h
  rfl

/-- Reads before a program do not change what it leaves when it throws. -/
theorem bind_error_db {α β : Type} {p : Op α} {k : α → Op β} {e : Failure} {w w' : World}
    (hp : Prog.Respects (· = ·) p)
    (hk : ∀ a, k a w = (.error e, w') → w'.db = w.db)
    (h : (p >>= k) w = (.error e, w')) : w'.db = w.db := by
  have hreads := hp w
  rw [Prog.bind_apply] at h
  rcases hrun : p w with ⟨_ | a, w₁⟩
  · rw [hrun] at h hreads
    obtain ⟨-, rfl⟩ := Prod.mk.inj h
    exact congrArg World.db hreads.symm
  · rw [hrun] at h hreads
    obtain rfl := hreads
    exact hk a h

end Op

/-- A relation between an earlier and a later world that drawing identifiers and
rolling the database back respect. -/
class WorldOrder (R : World → World → Prop) : Prop extends IsPreorder World R where
  newId : ∀ w, R w { w with nextId := w.nextId + 1 }
  rollback : ∀ w w', R w w' → R w { w' with db := w.db }

end Aico

namespace Prog.Respects

open Aico

variable {R : World → World → Prop} {α : Type}

theorem newId [WorldOrder R] : Respects R Op.newId := fun w => WorldOrder.newId w

theorem now [IsPreorder World R] : Respects R Op.now := gets _

theorem query [IsPreorder World R] (f : Db → α) : Respects R (Op.query f) := gets _

theorem exec {f : Db → Db} (hf : ∀ w, R w { w with db := f w.db }) :
    Respects R (Op.exec f) := modify hf

theorem transact [WorldOrder R] {p : Op α} (hp : Respects R p) :
    Respects R (Op.transaction p) :=
  transaction hp fun w w' h => WorldOrder.rollback w w' h

end Prog.Respects

namespace Aico

/-- A relation that drawing identifiers, rolling back and changes outside the view
`v` of the database respect. -/
class ViewOrder {β : Type} (v : Db → β) (R : World → World → Prop) : Prop
    extends WorldOrder R where
  exec : ∀ (w : World) (db : Db), v db = v w.db → R w { w with db := db }

/-- A change outside the view. -/
theorem ViewOrder.respects_exec {β : Type} (v : Db → β) {R : World → World → Prop}
    [ViewOrder v R] {f : Db → Db} (hf : ∀ db, v (f db) = v db) :
    Prog.Respects R (Op.exec f) :=
  .exec fun w => ViewOrder.exec w (f w.db) (hf w.db)

/-- The view of the database is what it was. -/
def World.Keeps {β : Type} (v : Db → β) (w w' : World) : Prop := v w'.db = v w.db

instance {β : Type} (v : Db → β) : ViewOrder v (World.Keeps v) where
  refl _ := rfl
  trans _ _ _ h h' := h'.trans h
  newId _ := rfl
  rollback _ _ _ := rfl
  exec _ _ h := h

/-- A relation between what lies outside the database, which changes of the database
respect. -/
class DbFree (R : World → World → Prop) : Prop extends WorldOrder R where
  exec : ∀ (w : World) (db : Db), R w { w with db := db }

instance {β : Type} (v : Db → β) (R : World → World → Prop) [DbFree R] : ViewOrder v R where
  exec w db _ := DbFree.exec w db

theorem DbFree.respects_exec {R : World → World → Prop} [DbFree R] (f : Db → Db) :
    Prog.Respects R (Op.exec f) :=
  .exec fun w => DbFree.exec w (f w.db)

/-- Identifiers are never handed back. -/
def World.Grows (w w' : World) : Prop := w.nextId ≤ w'.nextId

instance : DbFree World.Grows where
  refl w := le_refl w.nextId
  trans _ _ _ := Nat.le_trans
  newId w := Nat.le_succ w.nextId
  rollback _ _ h := h
  exec w _ := Nat.le_refl w.nextId

end Aico
