import Aico.Attachments.Base64
import Aico.Objects.ObjectAccess
import Aico.Runs.Runs
import Aico.Workflow.Program

/-!
# Retrieving an attachment

`retrieveForRun` finds the record of an attachment through the run, its context
snapshot and the links of the goal version the snapshot names, records a grant and
reads the bytes. Its three statements, and those of the deletion of an object, run
one by one: calls are numbered (`AttachmentPlace` is the place a call has reached),
and between two statements of a call anything else of the program may happen. A
call may be lost anywhere, and a crash takes all of them and the objects.
-/

namespace Aico

/-- What a retrieval returns. -/
structure RetrievedAttachment where
  body : Bytes
  mediaType : Option String
  filename : Option JsString

namespace AttachmentRetrieval

def linked (companyId runId attachmentId : Uuid) (db : Db) : List ObjectRecordRow :=
  (db.runs.filter (Runs.isRun companyId runId)).flatMap fun r =>
    (db.contextSnapshots.filter fun cs =>
      cs.id = r.contextSnapshotId ∧ cs.companyId = r.companyId).flatMap fun cs =>
      (db.goalVersionAttachments.filter fun gva =>
        gva.companyId = r.companyId ∧ gva.goalVersionId = cs.goalVersionId ∧
          gva.objectId = attachmentId).flatMap fun gva =>
        db.objectRecords.filter fun o => o.companyId = r.companyId ∧ o.id = gva.objectId

def retrievable (companyId : Uuid) (row : ObjectRecordRow) (now : Timestamp) : Bool :=
  row.scanState = .clean ∧ row.lifecycleState = .ready ∧
    Attachments.expired row now = false ∧
    (objectKeyScope companyId .attachment).isPrefixOf row.objectKey = true

def findLinked (companyId runId attachmentId : Uuid) : Op ObjectRecordRow := do
  let rows ← Op.query (linked companyId runId attachmentId)
  let row ← Prog.require rows.head? (.domain tenantResourceNotFound)
  let now ← Op.now
  Prog.ensure (retrievable companyId row now = true) (.domain tenantResourceNotFound)
  pure row

def grantRow (grantId companyId attachmentId runId : Uuid) (now : Timestamp) :
    AttachmentRetrievalGrantRow where
  id := grantId
  companyId := companyId
  objectId := attachmentId
  runId := runId
  expiresAt := now + AttachmentPolicy.grantTtlSeconds * 1000
  consumedAt := some now

def insertGrant (companyId runId attachmentId : Uuid) : Op PUnit := do
  let grantId ← Op.newId
  let now ← Op.now
  Op.exec fun db =>
    { db with
      attachmentRetrievalGrants := db.attachmentRetrievalGrants ++
        [grantRow grantId companyId attachmentId runId now] }

def readBody (row : ObjectRecordRow) : Op RetrievedAttachment := do
  let body ← Attachments.storeGet row.objectKey
  pure { body := body, mediaType := row.detectedMediaType, filename := row.originalFilename }

def retrieveForRun (actor : RequestActor) (runId attachmentId : UuidText) :
    Op RetrievedAttachment := do
  let companyId ← companyScopeFromActor actor
  let row ← findLinked companyId runId.value attachmentId.value
  insertGrant companyId runId.value attachmentId.value
  readBody row

end AttachmentRetrieval

namespace ObjectAccess

def loadOwnRecord (companyId objectId : Uuid) : Op ObjectRecordRow := do
  let rows ← Op.query fun db => db.objectRecords.filter (isOwnReady companyId objectId)
  Prog.require rows.head? (.domain tenantResourceNotFound)

/-- `store.delete`. -/
def storeDelete (row : ObjectRecordRow) : Op PUnit :=
  Prog.modify fun w => { w with objects := MemoryObjectStore.delete row.objectKey w.objects }

def setDeleted (companyId objectId : Uuid) : Op PUnit :=
  Op.exec fun db => { db with objectRecords := markDeleted companyId objectId db.objectRecords }

def delete (companyId objectId : Uuid) : Op PUnit := do
  let row ← loadOwnRecord companyId objectId
  storeDelete row
  setDeleted companyId objectId

end ObjectAccess

/-- The program with what its uploads are checked by. -/
structure AttachmentProgram where
  services : Services
  parts : ValidatorParts

namespace AttachmentProgram

def program (p : AttachmentProgram) : Program where
  services := p.services
  checks :=
    { decodeBody := Attachments.decodeBody
      validateAttachmentIngest := AttachmentValidator.validateAttachmentIngest p.parts }

end AttachmentProgram

/-- The arguments of a retrieval. -/
structure RetrievalCall where
  actor : RequestActor
  runId : UuidText
  attachmentId : UuidText

/-- Where a call stands. -/
inductive AttachmentPlace where
  | idle
  | deleting (companyId objectId : Uuid)
  | loaded (companyId objectId : Uuid) (row : ObjectRecordRow)
  | removed (companyId objectId : Uuid)
  | retrieving (call : RetrievalCall) (companyId : Uuid)
  | found (call : RetrievalCall) (companyId : Uuid) (row : ObjectRecordRow)
  | granted (call : RetrievalCall) (companyId : Uuid) (row : ObjectRecordRow)
  | returned (call : RetrievalCall) (result : RetrievedAttachment)
  | over

namespace AttachmentPlace

def body : AttachmentPlace → Option Bytes
  | .returned _ result => some result.body
  | _ => none

theorem body_eq_some {place : AttachmentPlace} {bytes : Bytes} :
    place.body = some bytes ↔ ∃ call result, place = .returned call result ∧
      result.body = bytes := by
  cases place <;> simp [body]

end AttachmentPlace

/-- The program, and the calls that retrieve and delete attachments. -/
structure AttachmentSys where
  sys : Sys
  calls : ℕ → AttachmentPlace

/-- What can happen next; `next` is the next statement of a call. -/
inductive AttachmentAction where
  | program (act : ProgramAction)
  | delete (k : ℕ) (companyId objectId : Uuid)
  | retrieve (k : ℕ) (call : RetrievalCall)
  | next (k : ℕ)
  | lost (k : ℕ)
  | crash

namespace AttachmentSys

variable (s : AttachmentSys) (k : ℕ)

def moved (place : AttachmentPlace) : AttachmentSys :=
  { s with calls := Function.update s.calls k place }

/-- A statement of the call has run: the call moves on where it returned, and is over
where it threw. -/
def settle {α : Type} (op : Op α) (place : α → AttachmentPlace) : AttachmentSys where
  sys := { s.sys with world := (op s.sys.world).2 }
  calls := Function.update s.calls k
    (match (op s.sys.world).1 with
      | .ok a => place a
      | .error _ => .over)

def next : AttachmentSys :=
  match s.calls k with
  | .deleting companyId objectId =>
      s.settle k (ObjectAccess.loadOwnRecord companyId objectId) (.loaded companyId objectId)
  | .loaded companyId objectId row =>
      s.settle k (ObjectAccess.storeDelete row) fun _ => .removed companyId objectId
  | .removed companyId objectId =>
      s.settle k (ObjectAccess.setDeleted companyId objectId) fun _ => .over
  | .retrieving call companyId =>
      s.settle k (AttachmentRetrieval.findLinked companyId call.runId.value
        call.attachmentId.value) (.found call companyId)
  | .found call companyId row =>
      s.settle k (AttachmentRetrieval.insertGrant companyId call.runId.value
        call.attachmentId.value) fun _ => .granted call companyId row
  | .granted call _ row => s.settle k (AttachmentRetrieval.readBody row) (.returned call)
  | _ => s

def call (place : AttachmentPlace) : AttachmentSys :=
  match s.calls k with
  | .idle => s.moved k place
  | _ => s

def step (p : AttachmentProgram) (s : AttachmentSys) : AttachmentAction → AttachmentSys
  | .program act => { s with sys := p.program.step s.sys act }
  | .delete k companyId objectId => s.call k (.deleting companyId objectId)
  | .retrieve k call =>
      match call.actor.companyId with
      | some companyId => s.call k (.retrieving call companyId)
      | none => s.call k .over
  | .next k => s.next k
  | .lost k => s.moved k .over
  | .crash =>
      { sys := { s.sys with world := { s.sys.world with objects := [] } }
        calls := fun _ => .over }

end AttachmentSys

def AttachmentSys.initial (init : InitialProgram) : AttachmentSys where
  sys := init.sys
  calls _ := .idle

/-- The state after a history. -/
def AttachmentProgram.after (p : AttachmentProgram) (init : InitialProgram)
    (acts : List AttachmentAction) : AttachmentSys :=
  Transition.run (AttachmentSys.step p) (.initial init) acts

/-! ## A call that nothing comes between -/

namespace AttachmentSys

variable {s : AttachmentSys} {k : ℕ}

def standing (s : AttachmentSys) (k : ℕ) (w : World) (place : AttachmentPlace) :
    AttachmentSys where
  sys := { s.sys with world := w }
  calls := Function.update s.calls k place

@[simp] theorem standing_calls_self (w : World) (place : AttachmentPlace) :
    (s.standing k w place).calls k = place := Function.update_self ..

/-- A statement that returns moves the call on. -/
theorem settle_standing {α : Type} {op : Op α} {place : α → AttachmentPlace}
    {place' : AttachmentPlace} {a : α} {w w' : World} (h : op w = (.ok a, w')) :
    (s.standing k w place').settle k op place = s.standing k w' (place a) := by
  simp only [settle, standing, h, Function.update_idem]

/-- The statements of a retrieval make up `retrieveForRun`. -/
theorem retrieveForRun_steps (p : AttachmentProgram) {call : RetrievalCall}
    {result : RetrievedAttachment} {w : World} (hidle : s.calls k = .idle)
    (h : AttachmentRetrieval.retrieveForRun call.actor call.runId call.attachmentId s.sys.world =
      (.ok result, w)) :
    Transition.run (step p) s [.retrieve k call, .next k, .next k, .next k] =
      s.standing k w (.returned call result) := by
  obtain ⟨companyId, w₁, hcompany, h₁⟩ := Prog.bind_eq_ok.mp h
  obtain ⟨hactor, rfl⟩ := Prog.require_eq_ok.mp hcompany
  obtain ⟨row, w₂, hfound, h₂⟩ := Prog.bind_eq_ok.mp h₁
  obtain ⟨⟨⟩, w₃, hgranted, hread⟩ := Prog.bind_eq_ok.mp h₂
  have hcalled : step p s (.retrieve k call) =
      s.standing k s.sys.world (.retrieving call companyId) := by
    simp only [step, hactor, AttachmentSys.call, hidle]
    rfl
  have hfound' : (s.standing k s.sys.world (.retrieving call companyId)).next k =
      s.standing k w₂ (.found call companyId row) := by
    rw [next, standing_calls_self]
    exact settle_standing hfound
  have hgranted' : (s.standing k w₂ (.found call companyId row)).next k =
      s.standing k w₃ (.granted call companyId row) := by
    rw [next, standing_calls_self]
    exact settle_standing hgranted
  have hread' : (s.standing k w₃ (.granted call companyId row)).next k =
      s.standing k w (.returned call result) := by
    rw [next, standing_calls_self]
    exact settle_standing hread
  rw [Transition.run_cons, hcalled]
  simp only [Transition.run_cons, Transition.run_nil, step, hfound', hgranted', hread']

end AttachmentSys

end Aico
