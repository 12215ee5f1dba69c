import Aico.Common.CompanyScope
import Aico.Governance.CommandExecutor
import Aico.Governance.DomainEvent

/-!
# Attachments

An attachment is ingested once (`ingest`), read back by its metadata
(`getMetadata`) and linked to a goal version (`bindToGoalVersion`). Decoding the
request body and checking the file are pure functions of the request and
parameters of the service (`AttachmentChecks`).
-/

namespace Aico

structure CreateAttachmentDto where
  declaredMediaType : String
  filename : JsString
  contentSha256 : Digest
  contentBase64 : JsString

structure AttachmentValidationSuccess where
  mediaType : String
  checksumSha256 : Digest
  safeFilename : JsString
  sizeBytes : ℕ

/-- What the service asks about an upload before it touches the database. -/
structure AttachmentChecks where
  decodeBody : JsString → Except DomainError Bytes
  validateAttachmentIngest : CreateAttachmentDto → Bytes →
    Except DomainError AttachmentValidationSuccess

namespace AttachmentPolicy

def maxCount : ℕ := 5
def aggregateMaxBytes : ℕ := 20971520
def grantTtlSeconds : ℕ := 60

end AttachmentPolicy

namespace Attachments

/-- An error about the list of attachments of a goal version. -/
def bindingError (code title detail rule remediation : String) : DomainError where
  status := 422
  code := code
  title := title
  detail := detail
  errors := [.object [("field", .text "attachment_ids"), ("rule", .text rule)]]
  remediation := [remediation]

def countExceeded : DomainError :=
  bindingError "attachment_count_exceeded" "Too many attachments"
    "A goal version can reference at most five validated attachments." "count_limit"
    "remove_extra_attachments"

def notUnique : DomainError :=
  bindingError "attachment_validation_failed" "The attachment could not be accepted"
    "Attachment references must be unique, validated, and in the current company."
    "unique" "replace_attachment"

def totalExceeded : DomainError :=
  bindingError "attachment_total_exceeded" "Attachments exceed the aggregate size limit"
    "The combined attachments exceed the twenty MiB run limit." "aggregate_byte_limit"
    "remove_extra_attachments"

def notLinkable : DomainError :=
  bindingError "attachment_validation_failed" "The attachment could not be accepted"
    "Unvalidated, rejected, or expired attachment references cannot be linked."
    "validated_ready_unexpired" "replace_attachment"

/-- `expires_at !== null && expires_at <= Date.now()`. -/
def expired (row : ObjectRecordRow) (now : Timestamp) : Bool :=
  row.expiresAt.any fun expiresAt => expiresAt ≤ now

def linkable (row : ObjectRecordRow) (now : Timestamp) : Bool :=
  row.purpose = .attachment ∧ row.lifecycleState = .ready ∧ row.scanState = .clean ∧
    expired row now = false

def linkRow (companyId goalVersionId objectId : Uuid) (ordinal : ℕ) :
    GoalVersionAttachmentRow where
  companyId := companyId
  goalVersionId := goalVersionId
  objectId := objectId
  ordinal := ordinal

def linkAll (companyId goalVersionId : Uuid) (rows : List ObjectRecordRow) :
    ℕ → ℕ → List UuidText → Op PUnit
  | _, _, [] => pure ⟨⟩
  | ordinal, aggregate, attachmentId :: rest => do
      let row ← Prog.require (rows.find? fun entry => entry.id.text = attachmentId.text)
        (.domain tenantResourceNotFound)
      let now ← Op.now
      Prog.ensure (linkable row now = true) (.domain notLinkable)
      let aggregate := aggregate + row.sizeBytes
      Prog.ensure (aggregate ≤ AttachmentPolicy.aggregateMaxBytes)
        (.domain totalExceeded)
      Op.exec fun db =>
        { db with
          goalVersionAttachments := db.goalVersionAttachments ++
            [linkRow companyId goalVersionId attachmentId.value ordinal] }
      linkAll companyId goalVersionId rows (ordinal + 1) aggregate rest

def bindToGoalVersion (companyId goalVersionId : Uuid) (attachmentIds : List UuidText) :
    Op PUnit :=
  if attachmentIds = [] then pure ⟨⟩
  else do
    Prog.ensure (attachmentIds.length ≤ AttachmentPolicy.maxCount)
      (.domain countExceeded)
    Prog.ensure ((attachmentIds.map UuidText.text).dedup.length = attachmentIds.length)
      (.domain notUnique)
    let rows ← Op.query fun db => db.objectRecords.filter fun o =>
      o.companyId = companyId ∧ o.id ∈ attachmentIds.map UuidText.value
    Prog.ensure (rows.length = attachmentIds.length) (.domain tenantResourceNotFound)
    linkAll companyId goalVersionId rows 0 0 attachmentIds

/-- The public form of an attachment. -/
def metadataResponse (row : ObjectRecordRow) : Json :=
  .object [("id", .uuid row.id),
    ("media_type",
      Json.orNull .text (row.detectedMediaType.or row.declaredMediaType)),
    ("size_bytes", .nat row.sizeBytes), ("checksum_sha256", .str row.checksumSha256),
    ("scan_state", .text row.scanState.text),
    ("filename", Json.orNull .str row.originalFilename),
    ("expires_at", Json.orNull .time row.expiresAt)]

def objectRow (companyId objectId : Uuid) (validated : AttachmentValidationSuccess) :
    ObjectRecordRow where
  id := objectId
  companyId := companyId
  purpose := .attachment
  objectKey := buildObjectKey companyId .attachment objectId 1
  checksumSha256 := validated.checksumSha256
  sizeBytes := validated.sizeBytes
  version := 1
  lifecycleState := .ready
  declaredMediaType := some validated.mediaType
  detectedMediaType := some validated.mediaType
  originalFilename := some validated.safeFilename
  scanState := .clean
  expiresAt := none

def storePut (key : JsString) (body : Bytes) : Op PUnit :=
  Prog.modify fun w =>
    { w with objects := (key, body) :: w.objects.filter fun o => o.1 ≠ key }

/-- `store.get`. -/
def storeGet (key : JsString) : Op Bytes := do
  let found ← Prog.gets fun w => w.objects.find? fun o => o.1 = key
  let object ← Prog.require found (.error "object_store_miss")
  pure object.2

def ingestedEvent (companyId : Uuid) (actor : RequestActor) (correlationId : UuidText)
    (row : ObjectRecordRow) (validated : AttachmentValidationSuccess) :
    AppendEventOptions where
  companyId := .ofUuid companyId
  runId := none
  type := "attachment_ingested"
  actorType := "FOUNDER"
  actorId := actor.id.text
  correlationId := correlationId
  payload := .object [("attachment_id", .uuid row.id),
    ("media_type", .text validated.mediaType), ("size_bytes", .nat validated.sizeBytes),
    ("checksum_sha256", .str validated.checksumSha256), ("scan_state", .text "CLEAN")]

def rejectedEvent (companyId : Uuid) (actor : RequestActor) (correlationId : UuidText)
    (error : DomainError) (dto : CreateAttachmentDto) (sizeBytes : ℕ) :
    AppendEventOptions where
  companyId := .ofUuid companyId
  runId := none
  type := "attachment_rejected"
  actorType := "FOUNDER"
  actorId := actor.id.text
  correlationId := correlationId
  payload := .object [("reason_code", .text error.code),
    ("declared_media_type", .text dto.declaredMediaType), ("size_bytes", .nat sizeBytes)]

/-- Record that an upload was refused. -/
def auditRejection (companyId : Uuid) (actor : RequestActor) (correlationId : UuidText)
    (error : DomainError) (dto : CreateAttachmentDto) (sizeBytes : ℕ) : Op PUnit :=
  Op.transaction do
    let _ ← DomainEvent.append
      (rejectedEvent companyId actor correlationId error dto sizeBytes)
    pure ⟨⟩

def storeAttachment (companyId : Uuid) (actor : RequestActor) (correlationId : UuidText)
    (body : Bytes) (validated : AttachmentValidationSuccess) : Op CommandResponse := do
  let objectId ← Op.newId
  let row := objectRow companyId objectId validated
  Op.exec fun db => { db with objectRecords := db.objectRecords ++ [row] }
  storePut row.objectKey body
  let _ ← DomainEvent.append (ingestedEvent companyId actor correlationId row validated)
  pure { status := 201, body := metadataResponse row }

def ingest (rt : Runtime) (checks : AttachmentChecks) (actor : RequestActor)
    (idempotencyKey : Uuid) (correlationId : UuidText) (dto : CreateAttachmentDto) :
    Op CommandResult := do
  let companyId ← companyScopeFromActor actor
  match checks.decodeBody dto.contentBase64 with
  | .error e => Prog.throw (.domain e)
  | .ok body =>
      match checks.validateAttachmentIngest dto body with
      | .error e => do
          if e.status = 422 then
            auditRejection companyId actor correlationId e dto body.length
          else pure ⟨⟩
          Prog.throw (.domain e)
      | .ok validated =>
          CommandExecutor.run rt
            { actorId := actor.id
              operation := "attachments.ingest"
              idempotencyKey := idempotencyKey
              request := .object [("declared_media_type", .text dto.declaredMediaType),
                ("filename", .str validated.safeFilename),
                ("content_sha256", .str validated.checksumSha256)]
              execute := storeAttachment companyId actor correlationId body validated }

def readable (row : ObjectRecordRow) (now : Timestamp) : Bool :=
  row.purpose = .attachment ∧ row.lifecycleState = .ready ∧ row.scanState = .clean ∧
    row.expiresAt.all fun expiresAt => now < expiresAt

def getMetadata (actor : RequestActor) (attachmentId : UuidText) : Op Json := do
  let companyId ← companyScopeFromActor actor
  let now ← Op.now
  let rows ← Op.query fun db => db.objectRecords.filter fun o =>
    o.companyId = companyId ∧ o.id = attachmentId.value ∧ readable o now
  let row ← Prog.require rows.head? (.domain tenantResourceNotFound)
  pure (metadataResponse row)

end Attachments

end Aico
