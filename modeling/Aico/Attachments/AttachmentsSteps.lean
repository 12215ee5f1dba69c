import Aico.Attachments.Attachments

/-!
# What an upload commits

An upload that passes its checks inserts the record of one object under a fresh
identifier. One that is refused leaves at most an event of the company.
-/

namespace Aico.Attachments

variable {rt : Runtime} {checks : AttachmentChecks} {actor : RequestActor}
  {correlationId : UuidText} {body : Bytes} {validated : AttachmentValidationSuccess}
  {w w' : World}

theorem storePut_bind {α : Type} (key : JsString) (body : Bytes) (k : PUnit → Op α) (w : World) :
    (storePut key body >>= k) w =
      k ⟨⟩ { w with objects := (key, body) :: w.objects.filter fun o => o.1 ≠ key } := rfl

def stored (companyId : Uuid) (actor : RequestActor) (correlationId : UuidText) (body : Bytes)
    (validated : AttachmentValidationSuccess) (w : World) : World :=
  let row := objectRow companyId w.nextId validated
  DomainEvent.appended (ingestedEvent companyId actor correlationId row validated) none
    { w with
      nextId := w.nextId + 1
      objects := (row.objectKey, body) :: w.objects.filter fun o => o.1 ≠ row.objectKey
      db := { w.db with objectRecords := w.db.objectRecords ++ [row] } }

theorem storeAttachment_run (companyId : Uuid) (w : World) :
    storeAttachment companyId actor correlationId body validated w =
      (.ok { status := 201, body := metadataResponse (objectRow companyId w.nextId validated) },
        stored companyId actor correlationId body validated w) := by
  have hnone : ∀ e : EventRow, e.runId = none → ∀ events,
      DomainEvent.sequenceTaken e events = false := by
    intro e he events
    simp [DomainEvent.sequenceTaken, he]
  rw [storeAttachment, Op.newId_bind]
  simp only [Op.exec_bind, storePut_bind]
  exact Prog.bind_of_ok (DomainEvent.append_of_allocated rfl (hnone _ rfl _))

/-- An upload respects what the events of the company, the record of its command
and a stored object respect. -/
theorem ingest_respects {R : World → World → Prop} [WorldOrder R] (idempotencyKey : Uuid)
    (dto : CreateAttachmentDto)
    (hrecords : ∀ (w : World) rows, R w { w with db := { w.db with idempotencyRecords := rows } })
    (hevent : ∀ options : AppendEventOptions, options.runId = none →
      Prog.Respects R (DomainEvent.append options))
    (hstored : ∀ companyId body validated w,
      R w (stored companyId actor correlationId body validated w)) :
    Prog.Respects R (ingest rt checks actor idempotencyKey correlationId dto) := by
  refine .bind (.require _ _) fun companyId => ?_
  rcases checks.decodeBody dto.contentBase64 with e | body
  · exact .throw _
  · rcases hvalid : checks.validateAttachmentIngest dto body with e | validated
    · simp only [hvalid]
      have haudit : Prog.Respects R
          (auditRejection companyId actor correlationId e dto body.length) :=
        .transact (.bind (hevent _ rfl) fun _ => .pure _)
      exact .ite (.bind haudit fun _ => .throw _) (.throw _)
    · simp only [hvalid]
      have hstore : Prog.Respects R
          (storeAttachment companyId actor correlationId body validated) := by
        intro w
        rw [storeAttachment_run]
        exact hstored companyId body validated w
      exact CommandExecutor.run_respects (fun w _ _ => hrecords w _) (fun w _ => hrecords w _)
        hstore

end Aico.Attachments
