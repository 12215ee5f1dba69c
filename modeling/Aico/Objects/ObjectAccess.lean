import Aico.Attachments.AttachmentValidator
import Aico.Foundation.Locks
import Aico.Foundation.Transition

/-!
# Object records and their bytes

`put` inserts the record of an object and then stores its bytes, `delete` removes
the bytes and then marks the record; their statements commit one by one. `ingest`
inserts its record, stores the bytes and commits the record afterwards, in the
transaction of its command. Calls are numbered and run one statement at a time
(`ObjectPlace` is the place a call has reached); between two statements anything
else may happen. A statement may fail and a call may be lost anywhere, and when
the process crashes all of them are lost, and the objects with them, which
`MemoryObjectStore` keeps in the memory of the process.
-/

namespace Aico

abbrev MemoryObjectStore := List (JsString × Bytes)

namespace MemoryObjectStore

def put (key : JsString) (body : Bytes) (objects : MemoryObjectStore) : MemoryObjectStore :=
  (key, body) :: objects.filter fun o => o.1 ≠ key

def delete (key : JsString) (objects : MemoryObjectStore) : MemoryObjectStore :=
  objects.filter fun o => o.1 ≠ key

def get (key : JsString) (objects : MemoryObjectStore) : Option Bytes :=
  (objects.find? fun o => o.1 = key).map Prod.snd

variable {key key' : JsString} {body : Bytes} {objects : MemoryObjectStore}

@[simp] theorem get_delete_self : get key (delete key objects) = none := by
  have hnone : (objects.filter fun o => o.1 ≠ key).find? (fun o => o.1 = key) = none :=
    List.find?_eq_none.mpr fun o ho => by simpa using (List.mem_filter.mp ho).2
  rw [get, delete, hnone, Option.map_none]

theorem get_delete_of_ne (h : key' ≠ key) :
    get key' (delete key objects) = get key' objects := by
  rw [get, delete, List.find?_filter, get]
  congr 2
  funext o
  by_cases ho : o.1 = key'
  · simp [ho, h]
  · simp [ho]

@[simp] theorem get_put_self : get key (put key body objects) = some body := by
  simp [get, put]

theorem get_put_of_ne (h : key' ≠ key) :
    get key' (put key body objects) = get key' objects := by
  have hfind : get key' (put key body objects) = get key' (delete key objects) := by
    simp [get, put, delete, h.symm]
  rw [hfind, get_delete_of_ne h]

end MemoryObjectStore

/-- What the object operations ask of the platform. -/
structure ObjectPlatform where
  rt : Runtime
  decodeBody : JsString → Except DomainError Bytes
  parts : ValidatorParts

namespace ObjectPlatform

def checks (platform : ObjectPlatform) : AttachmentChecks where
  decodeBody := platform.decodeBody
  validateAttachmentIngest := AttachmentValidator.validateAttachmentIngest platform.parts

end ObjectPlatform

/-- An upload that has passed the checks. -/
structure IngestCall (platform : ObjectPlatform) where
  actor : RequestActor
  companyId : Uuid
  idempotencyKey : Uuid
  correlationId : UuidText
  dto : CreateAttachmentDto
  body : Bytes
  validated : AttachmentValidationSuccess
  valid : AttachmentValidator.validateAttachmentIngest platform.parts dto body = .ok validated

namespace IngestCall

variable {platform : ObjectPlatform} (call : IngestCall platform)

def options : CommandOptions where
  actorId := call.actor.id
  operation := "attachments.ingest"
  idempotencyKey := call.idempotencyKey
  request := .object [("declared_media_type", .text call.dto.declaredMediaType),
    ("filename", .str call.validated.safeFilename),
    ("content_sha256", .str call.validated.checksumSha256)]
  execute := Attachments.storeAttachment call.companyId call.actor call.correlationId
    call.body call.validated

def row (objectId : Uuid) : ObjectRecordRow :=
  Attachments.objectRow call.companyId objectId call.validated

def response (objectId : Uuid) : CommandResponse where
  status := 201
  body := Attachments.metadataResponse (call.row objectId)

end IngestCall

/-- Where a call stands. -/
inductive ObjectPlace (platform : ObjectPlatform) where
  | idle
  | putting (companyId : Uuid) (body : Bytes)
  | inserted (row : ObjectRecordRow) (body : Bytes)
  | deleting (companyId objectId : Uuid)
  | loaded (companyId : Uuid) (row : ObjectRecordRow)
  | removed (companyId : Uuid) (row : ObjectRecordRow)
  | ingesting (call : IngestCall platform)
  | reserved (call : IngestCall platform) (recordId : Uuid)
  | recorded (call : IngestCall platform) (recordId objectId : Uuid)
  | stored (call : IngestCall platform) (recordId objectId : Uuid)
  | appended (call : IngestCall platform) (recordId objectId : Uuid)

/-- The state of the system: what is committed, what is stored, and the calls with
the idempotency keys they hold. -/
structure ObjectSys (platform : ObjectPlatform) where
  founders : List FounderRow
  companies : List CompanyRow
  objectRecords : List ObjectRecordRow
  idempotencyRecords : List IdempotencyRecordRow
  store : MemoryObjectStore
  nextId : Uuid
  keyLocks : Uuid × Uuid → Option ℕ
  calls : ℕ → ObjectPlace platform

/-- What can happen next; `next` is the next statement of a call. -/
inductive ObjectAction where
  | put (k : ℕ) (companyId : Uuid) (body : Bytes)
  | delete (k : ℕ) (companyId objectId : Uuid)
  | ingest (k : ℕ) (actor : RequestActor) (idempotencyKey : Uuid) (correlationId : UuidText)
      (dto : CreateAttachmentDto)
  | next (k : ℕ)
  | lost (k : ℕ)
  | crash

namespace ObjectAccess

def fixtureRow (parts : ValidatorParts) (companyId objectId : Uuid) (body : Bytes) :
    ObjectRecordRow where
  id := objectId
  companyId := companyId
  purpose := .qualityFixture
  objectKey := buildObjectKey companyId .qualityFixture objectId 1
  checksumSha256 := parts.sha256 body
  sizeBytes := body.length
  version := 1
  lifecycleState := .ready
  declaredMediaType := none
  detectedMediaType := none
  originalFilename := none
  scanState := .clean
  expiresAt := none

/-- `company_id = $1 AND id = $2 AND lifecycle_state = 'READY'`. -/
def isOwnReady (companyId objectId : Uuid) (r : ObjectRecordRow) : Bool :=
  r.companyId = companyId ∧ r.id = objectId ∧ r.lifecycleState = .ready

def markDeleted (companyId objectId : Uuid) (rows : List ObjectRecordRow) :
    List ObjectRecordRow :=
  Table.updateWhere (isOwnReady companyId objectId)
    (fun r => { r with lifecycleState := .deleted }) rows

end ObjectAccess

namespace ObjectSys

variable {platform : ObjectPlatform}

def moved (s : ObjectSys platform) (k : ℕ) (p : ObjectPlace platform) : ObjectSys platform :=
  { s with calls := Function.update s.calls k p }

def ended (s : ObjectSys platform) (k : ℕ) : ObjectSys platform :=
  { s with keyLocks := Locks.release s.keyLocks k, calls := Function.update s.calls k .idle }

/-- The constraints of `object_records` on a record with a fresh identifier. -/
def insertable (s : ObjectSys platform) (row : ObjectRecordRow) : Bool :=
  s.companies.any (fun c => c.id = row.companyId) ∧ row.checksumSha256.charLength = 64 ∧
    row.sizeBytes < 2 ^ 31

/-- The idempotency record is reserved: the key is taken, and the founder must
exist where the record is a new one. -/
def reserve (s : ObjectSys platform) (k : ℕ) (call : IngestCall platform) :
    ObjectSys platform :=
  let key := (call.actor.id, call.idempotencyKey)
  let requestDigest := platform.rt.canonicalDigest call.options.request
  let going := { s with
    nextId := s.nextId + 1
    keyLocks := Locks.acquire s.keyLocks key k
    calls := Function.update s.calls k (.reserved call s.nextId) }
  if Locks.Free s.keyLocks key k then
    match s.idempotencyRecords.find? (CommandExecutor.isRecordOf call.options) with
    | some record =>
        if record.requestDigest = requestDigest ∧ CommandExecutor.replay record = none then going
        else s.ended k
    | none => if s.founders.any (fun f => f.id = call.actor.id) then going else s.ended k
  else s

def commitIngest (s : ObjectSys platform) (k : ℕ) (call : IngestCall platform)
    (recordId objectId : Uuid) : ObjectSys platform :=
  let requestDigest := platform.rt.canonicalDigest call.options.request
  let rows :=
    if s.idempotencyRecords.any (CommandExecutor.isRecordOf call.options) then
      s.idempotencyRecords
    else
      s.idempotencyRecords ++
        [CommandExecutor.processingRow call.options recordId requestDigest]
  { s.ended k with
    objectRecords := s.objectRecords ++ [call.row objectId]
    idempotencyRecords := Table.updateWhere (CommandExecutor.isRecordOf call.options)
      (CommandExecutor.completedRow (call.response objectId)) rows }

/-- The next statement of the call. One that throws ends the call, and so does the
last one. -/
def next (s : ObjectSys platform) (k : ℕ) : ObjectSys platform :=
  match s.calls k with
  | .idle => s
  | .putting companyId body =>
      let row := ObjectAccess.fixtureRow platform.parts companyId s.nextId body
      let drawn := { s with nextId := s.nextId + 1 }
      if s.insertable row then
        { drawn.moved k (.inserted row body) with objectRecords := s.objectRecords ++ [row] }
      else drawn.ended k
  | .inserted row body =>
      { s.ended k with store := MemoryObjectStore.put row.objectKey body s.store }
  | .deleting companyId objectId =>
      match s.objectRecords.find? (ObjectAccess.isOwnReady companyId objectId) with
      | some row => s.moved k (.loaded companyId row)
      | none => s.ended k
  | .loaded companyId row =>
      { s.moved k (.removed companyId row) with
        store := MemoryObjectStore.delete row.objectKey s.store }
  | .removed companyId row =>
      { s.ended k with
        objectRecords := ObjectAccess.markDeleted companyId row.id s.objectRecords }
  | .ingesting call => s.reserve k call
  | .reserved call recordId =>
      let drawn := { s with nextId := s.nextId + 1 }
      if s.insertable (call.row s.nextId) then drawn.moved k (.recorded call recordId s.nextId)
      else drawn.ended k
  | .recorded call recordId objectId =>
      { s.moved k (.stored call recordId objectId) with
        store := MemoryObjectStore.put (call.row objectId).objectKey call.body s.store }
  | .stored call recordId objectId =>
      { s.moved k (.appended call recordId objectId) with nextId := s.nextId + 2 }
  | .appended call recordId objectId => s.commitIngest k call recordId objectId

def call (s : ObjectSys platform) (k : ℕ) (p : ObjectPlace platform) : ObjectSys platform :=
  match s.calls k with
  | .idle => s.moved k p
  | _ => s

/-- An upload is checked before its command runs. -/
def ingest (s : ObjectSys platform) (k : ℕ) (actor : RequestActor) (idempotencyKey : Uuid)
    (correlationId : UuidText) (dto : CreateAttachmentDto) : ObjectSys platform :=
  match actor.companyId, platform.decodeBody dto.contentBase64 with
  | some companyId, .ok body =>
      match hvalid :
        AttachmentValidator.validateAttachmentIngest platform.parts dto body with
      | .ok validated =>
          s.call k (.ingesting ⟨actor, companyId, idempotencyKey, correlationId, dto, body,
            validated, hvalid⟩)
      | .error _ => s
  | _, _ => s

def step (s : ObjectSys platform) : ObjectAction → ObjectSys platform
  | .put k companyId body => s.call k (.putting companyId body)
  | .delete k companyId objectId => s.call k (.deleting companyId objectId)
  | .ingest k actor idempotencyKey correlationId dto =>
      s.ingest k actor idempotencyKey correlationId dto
  | .next k => s.next k
  | .lost k => s.ended k
  | .crash => { s with store := [], keyLocks := fun _ => none, calls := fun _ => .idle }

def after (s : ObjectSys platform) (acts : List ObjectAction) : ObjectSys platform :=
  Transition.run step s acts

def initial (platform : ObjectPlatform) (founders : List FounderRow)
    (companies : List CompanyRow) (nextId : Uuid) : ObjectSys platform where
  founders := founders
  companies := companies
  objectRecords := []
  idempotencyRecords := []
  store := []
  nextId := nextId
  keyLocks := fun _ => none
  calls := fun _ => .idle

end ObjectSys

theorem Attachments.ingest_eq {platform : ObjectPlatform} (call : IngestCall platform)
    (hcompany : call.actor.companyId = some call.companyId)
    (hbody : platform.decodeBody call.dto.contentBase64 = .ok call.body) :
    Attachments.ingest platform.rt platform.checks call.actor call.idempotencyKey
      call.correlationId call.dto = CommandExecutor.run platform.rt call.options := by
  funext w
  have hvalid : platform.checks.validateAttachmentIngest call.dto call.body =
      .ok call.validated := call.valid
  have hdecode : platform.checks.decodeBody call.dto.contentBase64 = .ok call.body := hbody
  rw [Attachments.ingest, companyScopeFromActor, hcompany, Op.require_some]
  simp only [hdecode, hvalid]
  rfl

end Aico
