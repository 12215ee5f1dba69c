import Aico.Attachments.AttachmentRetrieval
import Aico.Tenancy.Alike

/-!
# Reads of a founder

Every read begins with a query by the company, and its joins carry the company along, so it
finds in the portion of the company what it finds in the database.
-/

namespace Aico

namespace TenantScope

variable {t : TenantScope} {w₀ w₀' w w' : World} {actor : RequestActor}

/-- A join finds the rows of the portion when it starts from rows of the portion and goes on
from each of them within the portion. -/
theorem sees_flatMap {α β : Type} {Q : α → Prop} {f : Db → List α} {g : α → Db → List β}
    (hf : t.Sees f) (hQ : ∀ db, ∀ a ∈ f db, Q a) (hg : ∀ a, Q a → t.Sees (g a)) :
    t.Sees fun db => (f db).flatMap fun a => g a db := by
  intro db
  show (f (db.portion t.own)).flatMap _ = (f db).flatMap _
  rw [hf db]
  apply List.flatMap_congr
  intro a ha
  exact hg a (hQ db a ha) db

/-! ## Initiatives and companies -/

theorem agrees_getInitiative (hcompany : actor.companyId = some t.companyId) :
    Prog.Agrees (t.Alike w₀ w₀') (Initiatives.getCurrent actor) := by
  refine .require_bind hcompany (.bind (agrees_sees (Sees.map
    (sees_filter OwnedTable.initiatives fun i hi => ?_) _)) fun _ =>
    .bind (.require _ _) fun _ => .pure _)
  exact (own_company t).mpr (of_decide_eq_true hi).1

/-! ## Attachments -/

theorem agrees_getMetadata (hcompany : actor.companyId = some t.companyId)
    (attachmentId : UuidText) :
    Prog.Agrees (t.Alike w₀ w₀') (Attachments.getMetadata actor attachmentId) := by
  refine .require_bind hcompany (.bind agrees_now fun now => .bind (agrees_sees
    (sees_filter OwnedTable.objectRecords fun o ho => ?_)) fun _ =>
    .bind (.require _ _) fun _ => .pure _)
  exact (own_company t).mpr (of_decide_eq_true ho).1

theorem isRun_company {runId : Uuid} {r : RunRow} (h : Runs.isRun t.companyId runId r = true) :
    r.companyId = t.companyId := (of_decide_eq_true h).1

theorem sees_runs (runId : Uuid) :
    t.Sees fun db => db.runs.filter (Runs.isRun t.companyId runId) :=
  sees_filter OwnedTable.runs fun _ hr => (own_company t).mpr (isRun_company hr)

theorem company_of_mem_runs (runId : Uuid) (db : Db) :
    ∀ r ∈ db.runs.filter (Runs.isRun t.companyId runId), r.companyId = t.companyId :=
  fun _ hr => isRun_company (List.mem_filter.mp hr).2

theorem sees_linked (runId attachmentId : Uuid) :
    t.Sees (AttachmentRetrieval.linked t.companyId runId attachmentId) := by
  refine sees_flatMap (sees_runs runId) (company_of_mem_runs runId) fun r hr => ?_
  refine sees_flatMap (Q := fun _ => True) (sees_filter OwnedTable.contextSnapshots
    fun cs hcs => ?_) (fun _ _ _ => trivial) fun cs _ => ?_
  · exact (own_company t).mpr ((of_decide_eq_true hcs).2.trans hr)
  refine sees_flatMap (Q := fun _ => True) (sees_filter OwnedTable.goalVersionAttachments
    fun gva hgva => ?_) (fun _ _ _ => trivial) fun gva _ => ?_
  · exact (own_company t).mpr ((of_decide_eq_true hgva).1.trans hr)
  refine sees_filter OwnedTable.objectRecords fun o ho => ?_
  exact (own_company t).mpr ((of_decide_eq_true ho).1.trans hr)

theorem agrees_findLinked (runId attachmentId : Uuid) :
    Prog.Agrees (t.Alike w₀ w₀')
      (AttachmentRetrieval.findLinked t.companyId runId attachmentId) :=
  .bind (agrees_sees (sees_linked runId attachmentId)) fun _ => .bind (.require _ _) fun _ =>
    .bind agrees_now fun _ => .bind (.ensure _ _) fun _ => .pure _

theorem hasKey_of_findLinked {runId attachmentId : Uuid} {row : ObjectRecordRow} {v : World}
    (h : AttachmentRetrieval.findLinked t.companyId runId attachmentId w = (.ok row, v)) :
    t.own.hasKey row.objectKey = true := by
  unfold AttachmentRetrieval.findLinked at h
  rw [Op.query_bind] at h
  obtain ⟨row', w₁, -, h₁⟩ := Prog.bind_eq_ok.mp h
  rw [Op.now_bind] at h₁
  obtain ⟨_, w₂, hensure, h₂⟩ := Prog.bind_eq_ok.mp h₁
  obtain ⟨rfl, -⟩ := Prog.pure_eq_ok.mp h₂
  exact (of_decide_eq_true (Prog.ensure_eq_ok.mp hensure).1).2.2.2

theorem agrees_insertGrant (runId attachmentId : Uuid) :
    Prog.Agrees (t.Alike w₀ w₀')
      (AttachmentRetrieval.insertGrant t.companyId runId attachmentId) := by
  refine .bind agrees_newId fun _ => .bind agrees_now fun _ => agrees_exec
    (within_insert OwnedTable.attachmentRetrievalGrants ?_) (fun _ => rfl) fun _ => rfl
  exact List.forall_mem_singleton.mpr ((own_company t).mpr rfl)

theorem agrees_storeGet {key : JsString} (hkey : t.own.hasKey key = true) :
    Prog.Agrees (t.Alike w₀ w₀') (Attachments.storeGet key) := by
  refine .bind (.gets fun w w' h => ?_) fun _ => .bind (.require _ _) fun _ => .pure _
  have hfind : ∀ objects : List (JsString × Bytes),
      (objects.filter fun o => t.own.hasKey o.1).find? (fun o => o.1 = key) =
        objects.find? fun o => o.1 = key :=
    fun objects => Table.find?_filter_of_imp (fun o ho => of_decide_eq_true ho ▸ hkey) objects
  rw [← hfind w.objects, ← hfind w'.objects, h.objects]

theorem agrees_retrieveForRun (hcompany : actor.companyId = some t.companyId)
    (runId attachmentId : UuidText) :
    Prog.Agrees (t.Alike w₀ w₀')
      (AttachmentRetrieval.retrieveForRun actor runId attachmentId) :=
  .require_bind hcompany (.bind_of (agrees_findLinked _ _)
    (fun _ _ _ _ _ hrun => hasKey_of_findLinked hrun) fun _ hkey =>
    .bind (agrees_insertGrant _ _) fun _ => .bind (agrees_storeGet hkey) fun _ => .pure _)

/-! ## Runs -/

theorem sees_runViews (runId : Uuid) : t.Sees (Runs.runViews t.companyId runId) := by
  refine sees_flatMap (sees_runs runId) (company_of_mem_runs runId) fun r hr => ?_
  refine sees_flatMap (Q := fun _ => True) (sees_filter OwnedTable.contextSnapshots
    fun cs hcs => ?_) (fun _ _ _ => trivial) fun cs _ => ?_
  · exact (own_company t).mpr ((of_decide_eq_true hcs).2.trans hr)
  refine sees_flatMap (Q := fun _ => True) (sees_filter OwnedTable.companyProfileVersions
    fun p hp => ?_) (fun _ _ _ => trivial) fun p _ => ?_
  · exact (own_company t).mpr ((of_decide_eq_true hp).2.trans hr)
  refine sees_flatMap (Q := fun _ => True) (sees_filter OwnedTable.goalVersions
    fun gv hgv => ?_) (fun _ _ _ => trivial) fun gv _ => ?_
  · exact (own_company t).mpr ((of_decide_eq_true hgv).2.trans hr)
  refine Sees.map (sees_filter OwnedTable.goalQualifications fun q hq => ?_)
    fun rows => (Runs.leftJoin rows).map fun q => RunView.mk r cs p gv q
  exact (own_company t).mpr ((of_decide_eq_true hq).1.trans hr)

theorem sees_attachments (goalVersionId : Uuid) :
    t.Sees (Runs.attachments t.companyId goalVersionId) := by
  refine Sees.map (sees_flatMap (Q := fun gva => gva.companyId = t.companyId)
    (sees_filter OwnedTable.goalVersionAttachments fun gva hgva => ?_)
    (fun db gva hgva => ?_) fun gva hgva => Sees.map
    (sees_filter OwnedTable.objectRecords fun o ho => ?_) (List.map fun o => (gva, o)))
    fun rows => (rows.insertionSort fun a b => Runs.attachmentOrder a b).map Prod.snd
  · exact (own_company t).mpr (of_decide_eq_true hgva).1
  · exact (of_decide_eq_true (List.mem_filter.mp hgva).2).1
  · exact (own_company t).mpr ((of_decide_eq_true ho).1.trans hgva)

theorem sees_taskCounts (runId : Uuid) : t.Sees (Runs.taskCounts t.companyId runId) := by
  refine Sees.map (sees_filter OwnedTable.tasks fun u hu => ?_) fun rows =>
    let states := rows.map TaskRow.state
    states.dedup.map fun state => (state, states.count state)
  exact (own_company t).mpr (of_decide_eq_true hu).1

theorem sees_taskRows (runId : Uuid) (query : TaskQueryDto) :
    t.Sees (Runs.taskRows t.companyId runId query) := by
  refine Sees.map (sees_flatMap (Q := fun _ => True) (sees_filter OwnedTable.tasks
    fun u hu => ?_) (fun _ _ _ => trivial) fun u _ => ?_)
    fun rows : List (TaskRow × Option EmployeeDefinitionRow) =>
      (rows.insertionSort fun a b => Runs.taskOrder a.1 b.1).take query.limit
  · exact (own_company t).mpr (of_decide_eq_true hu).1
  -- the catalogue of employees is of every portion
  · exact fun _ => rfl

theorem sees_eventRows (runId : Uuid) (query : EventQueryDto) :
    t.Sees (Runs.eventRows t.companyId runId query) := by
  refine Sees.map (sees_filter OwnedTable.events fun e he => ?_) fun rows =>
    (rows.insertionSort fun e e' => Runs.sequenceOrder e e').take (query.limit + 1)
  exact (own_company t).mpr (of_decide_eq_true he).1

theorem agrees_assertRun (runId : Uuid) :
    Prog.Agrees (t.Alike w₀ w₀') (Runs.assertRun t.companyId runId) := by
  refine .bind (agrees_sees (sees_any OwnedTable.runs fun r hr => ?_)) fun _ => .ensure _ _
  exact (own_company t).mpr (isRun_company hr)

theorem agrees_getRun (hcompany : actor.companyId = some t.companyId) (runId : UuidText) :
    Prog.Agrees (t.Alike w₀ w₀') (Runs.get actor runId) :=
  .require_bind hcompany (.bind (agrees_sees (sees_runViews _)) fun _ =>
    .bind (.require _ _) fun _ => .bind (agrees_sees (sees_taskCounts _)) fun _ =>
    .bind (agrees_sees (sees_attachments _)) fun _ => .pure _)

theorem agrees_tasks (hcompany : actor.companyId = some t.companyId) (runId : UuidText)
    (query : TaskQueryDto) : Prog.Agrees (t.Alike w₀ w₀') (Runs.tasks actor runId query) :=
  .require_bind hcompany (.bind (agrees_assertRun _) fun _ =>
    .bind (agrees_sees (sees_taskRows _ query)) fun _ => .pure _)

theorem agrees_events (hcompany : actor.companyId = some t.companyId) (runId : UuidText)
    (query : EventQueryDto) : Prog.Agrees (t.Alike w₀ w₀') (Runs.events actor runId query) :=
  .require_bind hcompany (.bind (agrees_assertRun _) fun _ =>
    .bind (agrees_sees (sees_eventRows _ query)) fun _ => .pure _)

theorem agrees_denyDelete (hcompany : actor.companyId = some t.companyId) (runId : UuidText) :
    Prog.Agrees (t.Alike w₀ w₀') (Runs.denyDelete actor runId) :=
  .require_bind hcompany (.bind (agrees_assertRun _) fun _ => .throw _)

end TenantScope

end Aico
