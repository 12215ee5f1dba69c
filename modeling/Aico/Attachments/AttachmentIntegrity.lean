import Aico.Attachments.RetrievalSteps
import Aico.Runs.FrozenContext

/-!
# Attachments from upload to retrieval

A retrieval that returns has found its attachment, at a step of the history
(`CheckedAt`), through the goal version of the context of a run of the company
(`Retrievable`). The link is one of the goal the version was made of (`Linked`), and
the bytes are the ones of the upload that made the record (`Ingested`).
-/

namespace Aico

/-- What a call does, as an operation of the rest of the program. -/
def servingOp (drawn : ℕ) (objects : MemoryObjectStore) (rows : List ObjectRecordRow)
    (grants : List AttachmentRetrievalGrantRow) : TenantOp where
  run w :=
    { w with
      nextId := w.nextId + drawn
      objects := objects
      db := { w.db with objectRecords := rows, attachmentRetrievalGrants := grants } }
  keeps _ := ⟨rfl, rfl, rfl, rfl, rfl, rfl, rfl, rfl, rfl, Nat.le_add_right _ _⟩

/-- The statements of the calls keep the invariant of the contexts. -/
theorem Program.ContextInv.serves {p : Program} {s : Sys} {w' : World} (h : p.ContextInv s)
    (hw : s.world.Serves w') : p.ContextInv { s with world := w' } := by
  obtain ⟨nextId, objects, rows, grants, hgrows, hobjects, hrows⟩ := hw
  have hstep : s.step p.services (.other (servingOp (nextId - s.world.nextId) objects rows
      grants)) = { s with world := { s.world with
        nextId := nextId
        objects := objects
        db := { s.world.db with objectRecords := rows, attachmentRetrievalGrants := grants } } } := by
    simp only [Sys.step, servingOp, Nat.add_sub_cancel' hgrows]
  have hids : rows.map ObjectRecordRow.id = s.world.db.objectRecords.map ObjectRecordRow.id := by
    have hfst := congrArg (List.map Prod.fst) hrows
    rwa [List.map_map, List.map_map] at hfst
  rw [← hstep]
  refine ⟨h.sys.step (h.sys.steps _), ?_, ?_, ?_, ?_⟩
  · rw [hstep]
    exact ⟨VersionedTables.Keyed.mono h.tenant.keyed hgrows, h.tenant.chains⟩
  · rw [hstep]
    refine ⟨fun v hv => (h.drawn.profiles v hv).trans_le hgrows,
      fun g hg => (h.drawn.goals g hg).trans_le hgrows,
      fun cs hcs => (h.drawn.snapshots cs hcs).trans_le hgrows,
      fun l hl => (h.drawn.links l hl).trans_le hgrows, ?_, fun o ho => ?_,
      fun l hl => (h.drawn.linked.links l hl).trans_le hgrows⟩
    · change (rows.map ObjectRecordRow.id).Nodup
      rw [hids]
      exact h.drawn.linked.objects
    · have hid : o.id ∈ s.world.db.objectRecords.map ObjectRecordRow.id :=
        hids ▸ List.mem_map_of_mem ho
      obtain ⟨o₀, ho₀, heq⟩ := List.mem_map.mp hid
      exact heq ▸ (h.drawn.linked.drawn o₀ ho₀).trans_le hgrows
  · exact h.sys.each_step (fun l hnew wait hwait => by simp [hnew.waits] at hwait)
      (fun _ _ _ hinv hwaits hstep => hwaits.step hinv hstep) h.waits
  · rw [hstep]
    intro r hr
    obtain ⟨cs, context, hcontext⟩ := h.contexts r hr
    exact ⟨cs, ⟨context.profile, context.goal, Runs.attachments r.companyId cs.goalVersionId _⟩,
      ⟨hcontext.snapshot, hcontext.profile, hcontext.goal, rfl⟩⟩

/-! ## What a retrieval rests on -/

namespace AttachmentProgram

variable (p : AttachmentProgram)

/-- The action uploads the bytes, and stores the record with the digest the uploader
has declared. -/
structure Ingested (o : ObjectRecordRow) (body : Bytes) (s : AttachmentSys)
    (a : AttachmentAction) : Prop where
  upload : ∃ actor idempotencyKey correlationId dto,
    a = .program (.ingest actor idempotencyKey correlationId dto) ∧
    actor.companyId = some o.companyId ∧ Attachments.decodeBody dto.contentBase64 = .ok body ∧
    o.checksumSha256 = p.parts.toLowerCase dto.contentSha256
  checksum : o.checksumSha256 = p.parts.sha256 body
  fresh : ∀ o' ∈ s.sys.world.db.objectRecords, o'.id ≠ o.id
  created : ∃ o' ∈ (s.step p a).sys.world.db.objectRecords, o'.identity = o.identity

/-- The action creates the goal version, on a goal that names the attachment. -/
structure Bound (companyId goalVersionId objectId : Uuid) (s : AttachmentSys)
    (a : AttachmentAction) : Prop where
  goal : ∃ actor initiativeId expectedVersion idempotencyKey correlationId dto,
    a = .program (.call (.createGoalAndRun actor initiativeId expectedVersion idempotencyKey
      correlationId dto)) ∧
    actor.companyId = some companyId ∧ ∃ id ∈ dto.attachmentIds, id.value = objectId
  fresh : ∀ g ∈ s.sys.world.db.goalVersions, g.id ≠ goalVersionId
  created : ∃ g ∈ (s.step p a).sys.world.db.goalVersions,
    g.id = goalVersionId ∧ g.companyId = companyId

end AttachmentProgram

/-- The record is linked to the goal version in the context of a run of the actor's
company, and it is one that may be retrieved now. -/
structure World.Retrievable (w : World) (call : RetrievalCall) (companyId goalVersionId : Uuid)
    (row : ObjectRecordRow) : Prop where
  actor : call.actor.companyId = some companyId
  run : ∃ r ∈ w.db.runs, r.id = call.runId.value ∧ r.companyId = companyId ∧
    ∃ cs ∈ w.db.contextSnapshots, cs.id = r.contextSnapshotId ∧ cs.companyId = companyId ∧
      cs.goalVersionId = goalVersionId
  link : ∃ l ∈ w.db.goalVersionAttachments, l.companyId = companyId ∧
    l.goalVersionId = goalVersionId ∧ l.objectId = call.attachmentId.value
  record : row ∈ w.db.objectRecords ∧ row.id = call.attachmentId.value ∧
    row.companyId = companyId
  state : row.lifecycleState = .ready ∧ row.scanState = .clean
  unexpired : ∀ expiresAt, row.expiresAt = some expiresAt → w.now < expiresAt

/-- The bytes are the ones under the key. -/
theorem AttachmentRetrieval.get_of_readBody {row : ObjectRecordRow}
    {result : RetrievedAttachment} {w w' : World} (h : readBody row w = (.ok result, w')) :
    MemoryObjectStore.get row.objectKey w.objects = some result.body := by
  obtain ⟨body, w₁, hget, hpure⟩ := Prog.bind_eq_ok.mp h
  obtain ⟨rfl, -⟩ := Prog.pure_eq_ok.mp hpure
  obtain ⟨found, w₂, hfind, hrest⟩ := Prog.bind_eq_ok.mp hget
  obtain ⟨rfl, rfl⟩ := Prog.gets_eq_ok.mp hfind
  obtain ⟨object, w₃, hrequire, hbody⟩ := Prog.bind_eq_ok.mp hrest
  obtain ⟨hobject, -⟩ := Prog.require_eq_ok.mp hrequire
  obtain ⟨rfl, -⟩ := Prog.pure_eq_ok.mp hbody
  rw [MemoryObjectStore.get, hobject, Option.map_some]

/-- What the statement that finds the record has seen. -/
theorem AttachmentRetrieval.findLinked_eq_ok {call : RetrievalCall} {companyId : Uuid}
    {row : ObjectRecordRow} {w w' : World} (hactor : call.actor.companyId = some companyId)
    (h : findLinked companyId call.runId.value call.attachmentId.value w = (.ok row, w')) :
    ∃ goalVersionId, w.Retrievable call companyId goalVersionId row := by
  rw [findLinked, Op.query_bind] at h
  obtain ⟨row', w₁, hrequire, h₁⟩ := Prog.bind_eq_ok.mp h
  obtain ⟨hhead, rfl⟩ := Prog.require_eq_ok.mp hrequire
  rw [Op.now_bind] at h₁
  obtain ⟨_, w₂, hensure, hpure⟩ := Prog.bind_eq_ok.mp h₁
  obtain ⟨hretrievable, rfl⟩ := Prog.ensure_eq_ok.mp hensure
  obtain ⟨rfl, -⟩ := Prog.pure_eq_ok.mp hpure
  have hmem := List.mem_of_mem_head? hhead
  simp only [linked, List.mem_flatMap, List.mem_filter, Runs.isRun, decide_eq_true_eq] at hmem
  obtain ⟨r, ⟨hr, rfl, hrid⟩, cs, ⟨hcs, hcsid, hcscompany⟩, l, ⟨hl, hlcompany, hlgoal, hlobject⟩,
    ho, hocompany, hoid⟩ := hmem
  simp only [retrievable, decide_eq_true_eq] at hretrievable
  obtain ⟨hclean, hready, hexpired, -⟩ := hretrievable
  refine ⟨cs.goalVersionId, hactor, ⟨r, hr, hrid, rfl, cs, hcs, hcsid, hcscompany, rfl⟩,
    ⟨l, hl, hlcompany, hlgoal, hlobject⟩, ⟨ho, hoid.trans hlobject, hocompany⟩,
    ⟨hready, hclean⟩, fun expiresAt heq => ?_⟩
  simpa [Attachments.expired, heq] using hexpired

/-! ## Histories -/

/-- The record has been drawn and keyed, and the store has no other bytes for it. -/
structure World.Holds (w : World) (o : ObjectRecordRow) (body : Bytes) : Prop where
  drawn : o.id < w.nextId
  keyed : o.objectKey = buildObjectKey o.companyId .attachment o.id 1
  bytes : ∀ body', MemoryObjectStore.get o.objectKey w.objects = some body' → body' = body

theorem World.Holds.later {w w' : World} {o : ObjectRecordRow} {body : Bytes} (h : w.Holds o body)
    (hw : w.WritesFresh w') : w'.Holds o body where
  drawn := h.drawn.trans_le hw.grows
  keyed := h.keyed
  bytes body' hbody' := by
    refine h.bytes body' ?_
    rw [h.keyed] at hbody' ⊢
    exact hw.bytes _ _ _ _ body' h.drawn hbody'

theorem World.Holds.congr {w : World} {o o' : ObjectRecordRow} {body : Bytes}
    (h : w.Holds o body) (heq : o.identity = o'.identity) : w.Holds o' body := by
  obtain ⟨hid, hcompany, hkey, -⟩ : o.id = o'.id ∧ o.companyId = o'.companyId ∧
    o.objectKey = o'.objectKey ∧ o.checksumSha256 = o'.checksumSha256 := by
      simpa [ObjectRecordRow.identity] using heq
  exact ⟨hid ▸ h.drawn, hkey ▸ hid ▸ hcompany ▸ h.keyed, hkey ▸ h.bytes⟩

namespace AttachmentProgram

variable {p : AttachmentProgram}

theorem Ingested.congr {o o' : ObjectRecordRow} {body : Bytes} {s : AttachmentSys}
    {a : AttachmentAction} (h : p.Ingested o body s a) (heq : o.identity = o'.identity) :
    p.Ingested o' body s a := by
  obtain ⟨hid, hcompany, -, hchecksum⟩ : o.id = o'.id ∧ o.companyId = o'.companyId ∧
    o.objectKey = o'.objectKey ∧ o.checksumSha256 = o'.checksumSha256 := by
      simpa [ObjectRecordRow.identity] using heq
  exact ⟨hcompany ▸ hchecksum ▸ h.upload, hchecksum ▸ h.checksum, hid ▸ h.fresh, heq ▸ h.created⟩

variable (p : AttachmentProgram) (init : InitialProgram)

/-- The history has a step that met the condition. -/
def Happened (C : AttachmentSys → AttachmentAction → Prop) (acts : List AttachmentAction) : Prop :=
  Transition.SomeStep (AttachmentSys.step p) C (.initial init) acts

/-- At a step of the history the call `k` has found the record, which was uploaded with
the bytes and is linked to the goal version of the context since that was created. -/
def CheckedAt (k : ℕ) (call : RetrievalCall) (row : ObjectRecordRow) (body : Bytes)
    (acts : List AttachmentAction) : Prop :=
  ∃ acts₁ acts₂ companyId goalVersionId, acts = acts₁ ++ .next k :: acts₂ ∧
    (p.after init acts₁).calls k = .retrieving call companyId ∧
    (p.after init acts₁).sys.world.Retrievable call companyId goalVersionId row ∧
    p.Happened init (p.Bound companyId goalVersionId row.id) acts₁ ∧
    p.Happened init (p.Ingested row body) acts₁

def PlaceInv (acts : List AttachmentAction) (w : World) (k : ℕ) : AttachmentPlace → Prop
  | .retrieving call companyId => call.actor.companyId = some companyId
  | .found call _ row | .granted call _ row =>
      ∃ body, p.CheckedAt init k call row body acts ∧ w.Holds row body
  | .returned call result => ∃ row, p.CheckedAt init k call row result.body acts
  | _ => True

structure History (acts : List AttachmentAction) (s : AttachmentSys) : Prop where
  context : p.program.ContextInv s.sys
  records : ∀ o ∈ s.sys.world.db.objectRecords,
    ∃ body, p.Happened init (p.Ingested o body) acts ∧ s.sys.world.Holds o body
  links : ∀ l ∈ s.sys.world.db.goalVersionAttachments,
    p.Happened init (p.Bound l.companyId l.goalVersionId l.objectId) acts
  places : ∀ k, p.PlaceInv init acts s.sys.world k (s.calls k)

variable {p init} {acts : List AttachmentAction} {s : AttachmentSys} {a : AttachmentAction}
  {w w' : World} {k : ℕ}

theorem CheckedAt.append {call : RetrievalCall} {row : ObjectRecordRow} {body : Bytes}
    (h : p.CheckedAt init k call row body acts) (acts' : List AttachmentAction) :
    p.CheckedAt init k call row body (acts ++ acts') := by
  obtain ⟨acts₁, acts₂, companyId, goalVersionId, rfl, hrest⟩ := h
  exact ⟨acts₁, acts₂ ++ acts', companyId, goalVersionId, by simp, hrest⟩

theorem PlaceInv.later {place : AttachmentPlace} (h : p.PlaceInv init acts w k place)
    (hw : w.WritesFresh w') : p.PlaceInv init (acts ++ [a]) w' k place := by
  cases place with
  | found call companyId row | granted call companyId row =>
      obtain ⟨body, hchecked, hholds⟩ := h
      exact ⟨body, hchecked.append [a], hholds.later hw⟩
  | returned call result =>
      obtain ⟨row, hchecked⟩ := h
      exact ⟨row, hchecked.append [a]⟩
  | _ => exact h

/-- A call moves, and the others stay where they are. -/
theorem places_update {place : AttachmentPlace} (hk : p.PlaceInv init acts w k place)
    (hs : ∀ j, p.PlaceInv init acts w j (s.calls j)) (j : ℕ) :
    p.PlaceInv init acts w j (Function.update s.calls k place j) := by
  by_cases hj : j = k
  · rw [hj, Function.update_self]
    exact hk
  · rw [Function.update_of_ne hj]
    exact hs j

/-- A statement that returns moves its call to a place where this is known. -/
theorem places_settle {α : Type} {op : Op α} {place : α → AttachmentPlace}
    (hop : Prog.Respects World.Serves op)
    (hplace : ∀ b w', op s.sys.world = (.ok b, w') →
      p.PlaceInv init (acts ++ [a]) w' k (place b))
    (hs : ∀ j, p.PlaceInv init acts s.sys.world j (s.calls j)) (j : ℕ) :
    p.PlaceInv init (acts ++ [a]) (s.settle k op place).sys.world j
      ((s.settle k op place).calls j) := by
  have hfresh : s.sys.world.WritesFresh (op s.sys.world).2 := (hop s.sys.world).writesFresh
  refine places_update ?_ (fun j => (hs j).later hfresh) j
  rcases hrun : op s.sys.world with ⟨e | b, w'⟩
  · trivial
  · exact hplace b w' hrun

namespace History

theorem ingested_of_identity {o o' : ObjectRecordRow} {body : Bytes}
    (h : p.Happened init (p.Ingested o body) acts) (heq : o.identity = o'.identity) :
    p.Happened init (p.Ingested o' body) acts :=
  h.imp fun _ _ hstep => hstep.congr heq

/-- The statement that finds a record is the step the retrieval rests on. -/
theorem checkedAt (h : p.History init acts (p.after init acts)) {call : RetrievalCall}
    {companyId : Uuid} {row : ObjectRecordRow} {w' : World}
    (hplace : (p.after init acts).calls k = .retrieving call companyId)
    (hfound : AttachmentRetrieval.findLinked companyId call.runId.value call.attachmentId.value
      (p.after init acts).sys.world = (.ok row, w')) :
    ∃ body, p.CheckedAt init k call row body (acts ++ [.next k]) ∧
      (p.after init acts).sys.world.Holds row body := by
  have hactor := h.places k
  rw [hplace] at hactor
  obtain ⟨goalVersionId, hretrievable⟩ := AttachmentRetrieval.findLinked_eq_ok hactor hfound
  obtain ⟨body, hingested, hholds⟩ := h.records row hretrievable.record.1
  obtain ⟨l, hl, hlcompany, hlgoal, hlobject⟩ := hretrievable.link
  have hbound := h.links l hl
  rw [hlcompany, hlgoal, hlobject, ← hretrievable.record.2.1] at hbound
  exact ⟨body, ⟨acts, [], companyId, goalVersionId, rfl, hplace, hretrievable, hbound,
    hingested⟩, hholds⟩

theorem places_next (h : p.History init acts (p.after init acts)) (k j : ℕ) :
    p.PlaceInv init (acts ++ [.next k]) ((p.after init acts).next k).sys.world j
      (((p.after init acts).next k).calls j) := by
  have hk := h.places k
  rw [AttachmentSys.next]
  split
  · refine places_settle (ObjectAccess.loadOwnRecord_serves _ _) (fun _ _ _ => ?_) h.places j
    trivial
  · refine places_settle (ObjectAccess.storeDelete_serves _) (fun _ _ _ => ?_) h.places j
    trivial
  · refine places_settle (ObjectAccess.setDeleted_serves _ _) (fun _ _ _ => ?_) h.places j
    trivial
  next call companyId hplace =>
    refine places_settle (AttachmentRetrieval.findLinked_serves _ _ _) (fun row w' hrun => ?_)
      h.places j
    obtain ⟨body, hchecked, hholds⟩ := h.checkedAt hplace hrun
    have hserves := AttachmentRetrieval.findLinked_serves companyId call.runId.value
      call.attachmentId.value (p.after init acts).sys.world
    rw [hrun] at hserves
    exact ⟨body, hchecked, hholds.later hserves.writesFresh⟩
  next call companyId row hplace =>
    refine places_settle (AttachmentRetrieval.insertGrant_serves _ _ _) (fun _ w' hrun => ?_)
      h.places j
    have hserves := AttachmentRetrieval.insertGrant_serves companyId call.runId.value
      call.attachmentId.value (p.after init acts).sys.world
    rw [hrun] at hserves
    rw [hplace] at hk
    exact hk.later hserves.writesFresh
  next call companyId row hplace =>
    refine places_settle (AttachmentRetrieval.readBody_serves _) (fun result w' hrun => ?_)
      h.places j
    rw [hplace] at hk
    obtain ⟨body, hchecked, hholds⟩ := hk
    refine ⟨row, ?_⟩
    rw [hholds.bytes result.body (AttachmentRetrieval.get_of_readBody hrun)]
    exact hchecked.append _
  · exact (h.places j).later (refl _)

theorem places_call (h : p.History init acts (p.after init acts)) {place : AttachmentPlace}
    (hplace : ∀ w, p.PlaceInv init (acts ++ [a]) w k place) (j : ℕ) :
    p.PlaceInv init (acts ++ [a]) ((p.after init acts).call k place).sys.world j
      (((p.after init acts).call k place).calls j) := by
  rw [AttachmentSys.call]
  split
  · exact places_update (hplace _) (fun j => (h.places j).later (refl _)) j
  · exact (h.places j).later (refl _)

theorem places_step (h : p.History init acts (p.after init acts)) (a : AttachmentAction) (j : ℕ) :
    p.PlaceInv init (acts ++ [a]) ((p.after init acts).step p a).sys.world j
      (((p.after init acts).step p a).calls j) := by
  cases a with
  | program act => exact (h.places j).later (.step p.program _ act)
  | delete k companyId objectId =>
      refine h.places_call (fun _ => ?_) j
      trivial
  | retrieve k call =>
      rw [AttachmentSys.step]
      split
      next companyId hactor =>
        refine h.places_call (fun _ => ?_) j
        exact hactor
      next =>
        refine h.places_call (fun _ => ?_) j
        trivial
  | next k => exact h.places_next k j
  | lost k =>
      refine places_update ?_ (fun j => (h.places j).later (refl _)) j
      trivial
  | crash => trivial

theorem records_program (h : p.History init acts (p.after init acts)) (act : ProgramAction) :
    ∀ o ∈ (p.program.step (p.after init acts).sys act).world.db.objectRecords,
      ∃ body, p.Happened init (p.Ingested o body) (acts ++ [.program act]) ∧
        (p.program.step (p.after init acts).sys act).world.Holds o body := by
  have hfresh := World.WritesFresh.step p.program (p.after init acts).sys act
  have hdrawn := (h.context.step act).drawn.linked.drawn
  have hold : ∀ o ∈ (p.after init acts).sys.world.db.objectRecords,
      ∃ body, p.Happened init (p.Ingested o body) (acts ++ [.program act]) ∧
        (p.program.step (p.after init acts).sys act).world.Holds o body := by
    intro o ho
    obtain ⟨body, hingested, hholds⟩ := h.records o ho
    exact ⟨body, hingested.append _, hholds.later hfresh⟩
  intro o ho
  cases p.attachedStep (p.after init acts).sys act with
  | kept hrecords => exact hold o (hrecords ▸ ho)
  | started actor initiativeId expectedVersion idempotencyKey correlationId dto companyId ids
      version hact hcompany hids hrecords =>
      exact hold o (hrecords ▸ ho)
  | ingested actor idempotencyKey correlationId dto companyId body validated hact hcompany hbody
      hvalid hrecords hlinks hstored =>
      rcases List.mem_append.mp (hrecords ▸ ho) with ho' | ho'
      · exact hold o ho'
      · obtain rfl := List.mem_singleton.mp ho'
        obtain ⟨hsum, -⟩ := AttachmentValidator.measured hvalid
        refine ⟨body, .last ⟨⟨actor, idempotencyKey, correlationId, dto, by rw [hact], hcompany,
          hbody, AttachmentValidator.declared hvalid⟩, hsum, fun o' ho' => ?_, ⟨_, ho, rfl⟩⟩,
          hdrawn _ ho, rfl, fun body' hbody' => ?_⟩
        · exact ((h.context.drawn.linked.drawn o' ho').trans (Nat.lt_succ_self _)).ne
        · exact Option.some.inj (hbody'.symm.trans hstored)

theorem links_program (h : p.History init acts (p.after init acts)) (act : ProgramAction) :
    ∀ l ∈ (p.program.step (p.after init acts).sys act).world.db.goalVersionAttachments,
      p.Happened init (p.Bound l.companyId l.goalVersionId l.objectId)
        (acts ++ [.program act]) := by
  have hold : ∀ l ∈ (p.after init acts).sys.world.db.goalVersionAttachments,
      p.Happened init (p.Bound l.companyId l.goalVersionId l.objectId)
        (acts ++ [.program act]) := fun l hl => (h.links l hl).append _
  intro l hl
  cases p.attachedStep (p.after init acts).sys act with
  | kept hrecords hlinks => exact hold l (hlinks ▸ hl)
  | ingested actor idempotencyKey correlationId dto companyId body validated hact hcompany hbody
      hvalid hrecords hlinks =>
      exact hold l (hlinks ▸ hl)
  | started actor initiativeId expectedVersion idempotencyKey correlationId dto companyId ids
      version hact hcompany hids hrecords hlinks hgoals =>
      rcases List.mem_append.mp (hlinks ▸ hl) with hl' | hl'
      · exact hold l hl'
      · obtain ⟨entry, hentry, rfl⟩ := List.mem_map.mp hl'
        refine .last ⟨⟨actor, initiativeId, expectedVersion, idempotencyKey, correlationId, dto,
          by rw [hact], hcompany, entry.1, List.fst_mem_of_mem_zipIdx hentry, rfl⟩,
          fun g hg => ?_, ⟨_, hgoals ▸ List.mem_append_right _ (List.mem_singleton_self _), rfl,
          rfl⟩⟩
        change g.id ≠ ids.goalVersionId
        rw [hids]
        exact ((h.context.drawn.goals g hg).trans (Nat.lt_succ_self _)).ne

theorem step (h : p.History init acts (p.after init acts)) (a : AttachmentAction) :
    p.History init (acts ++ [a]) ((p.after init acts).step p a) := by
  have hplaces := h.places_step a
  rcases AttachmentSys.step_cases p (p.after init acts) a with
    ⟨act, rfl, hstep⟩ | ⟨-, w', hserves, hstep⟩
  · rw [hstep] at hplaces ⊢
    exact ⟨h.context.step act, h.records_program act, h.links_program act, hplaces⟩
  · refine ⟨?_, ?_, ?_, hplaces⟩
    · rw [hstep]
      exact h.context.serves hserves
    · rw [hstep]
      intro o' ho'
      obtain ⟨o, ho, heq⟩ := hserves.exists_record ho'
      obtain ⟨body, hingested, hholds⟩ := h.records o ho
      exact ⟨body, (ingested_of_identity hingested heq).append _,
        (hholds.later hserves.writesFresh).congr heq⟩
    · rw [hstep]
      intro l hl
      exact (h.links l (hserves.links_eq ▸ hl)).append _

theorem initial (p : AttachmentProgram) (init : InitialProgram) :
    p.History init [] (.initial init) where
  context := p.program.contextInv_initial init
  records o ho := by
    have hnone : (AttachmentSys.initial init).sys.world.db.objectRecords = [] := init.objectRecords
    rw [hnone] at ho
    cases ho
  links l hl := by
    have hnone : (AttachmentSys.initial init).sys.world.db.goalVersionAttachments = [] :=
      init.goalVersionAttachments
    rw [hnone] at hl
    cases hl
  places _ := trivial

end History

theorem history_after (p : AttachmentProgram) (init : InitialProgram)
    (acts : List AttachmentAction) : p.History init acts (p.after init acts) :=
  Transition.run_history (P := p.History init) (.initial p init) (fun _ a h => h.step a) acts

/-- A retrieval that has returned found its record through the context of a run of the
actor's company, where the record could be retrieved, and returned the bytes that were
uploaded for it. -/
theorem retrieved_after (p : AttachmentProgram) (init : InitialProgram)
    (acts : List AttachmentAction) {k : ℕ} {call : RetrievalCall} {result : RetrievedAttachment}
    (h : (p.after init acts).calls k = .returned call result) :
    ∃ row, p.CheckedAt init k call row result.body acts := by
  have hplace := (p.history_after init acts).places k
  rw [h] at hplace
  exact hplace

/-! ## A sample history -/

def demoDigest : Digest :=
  js "559aead08264d5795d3909718cdd05abd49572e84fe55590eef31a88a08fdffd"

def demo : AttachmentProgram where
  services := demoServices
  parts :=
    { sha256 := fun _ => demoDigest
      toLowerCase := id
      sanitizeAttachmentFilename := .ok
      detectMediaType := fun _ => "text/plain"
      deniedClass := fun _ _ => none
      pdfPageCount := fun _ => 0
      pngPixels := fun _ => none
      jpegPixels := fun _ => none
      webpPixels := fun _ => none }

def demoUpload : CreateAttachmentDto where
  declaredMediaType := "text/plain"
  filename := js "a.txt"
  contentSha256 := demoDigest
  contentBase64 := js "QQ=="

/-- The founder uploads attachment `11`, starts run `17` on a goal with it and
retrieves it. -/
def demoRetrieval : List AttachmentAction :=
  [.program (.call (.createCompany { id := 0, companyId := none } 1 (.ofUuid 0)
      { name := js "Demo", profile := Program.demoCompanyProfile })),
    .program (.call (.createInitiative Program.demoActor 2 (.ofUuid 0)
      { type := "PROTOTYPE", title := js "Demo" })),
    .program (.ingest Program.demoActor 3 (.ofUuid 0) demoUpload),
    .program (.call (.createGoalAndRun Program.demoActor (.ofUuid 7) 1 4 (.ofUuid 0)
      { demoGoal with attachmentIds := [.ofUuid 11] })),
    .retrieve 0 { actor := Program.demoActor, runId := .ofUuid 17, attachmentId := .ofUuid 11 },
    .next 0, .next 0, .next 0]

theorem retrieved_after_demo : ∃ call result row,
    (demo.after Program.demoFounding demoRetrieval).calls 0 = .returned call result ∧
      result.body = [0x41] ∧
      demo.CheckedAt Program.demoFounding 0 call row result.body demoRetrieval := by
  have hbody : ((demo.after Program.demoFounding demoRetrieval).calls 0).body = some [0x41] := by
    decide +kernel
  obtain ⟨call, result, hcall, hresult⟩ := AttachmentPlace.body_eq_some.mp hbody
  obtain ⟨row, hrow⟩ := demo.retrieved_after Program.demoFounding demoRetrieval hcall
  exact ⟨call, result, row, hcall, hresult, hrow⟩

end AttachmentProgram

end Aico
