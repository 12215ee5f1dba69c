import Aico.Runs.Runs
import Aico.Workflow.ContextSteps

/-!
# Frozen contexts

The context of a run is reached through its snapshot: the profile version and the
goal version the snapshot names, and the attachments of that goal version. A run
is started on the current profile of the company and the goal of the request
(`Starts`), and what it shows of them, to a founder who reads it and to a worker
that loads its context, stays what it was then. Only an answer moves the run to
another snapshot, which names the same two versions and one more answer.
-/

namespace Aico

structure FrozenContext where
  profile : CompanyProfileVersionRow
  goal : GoalVersionRow
  attachments : List ObjectRecordRow

/-- The snapshot of the run is `cs`, and the context is what it resolves to. -/
structure Db.Resolves (db : Db) (r : RunRow) (cs : ContextSnapshotRow)
    (context : FrozenContext) : Prop where
  snapshot : (db.contextSnapshots.filter fun cs =>
    cs.id = r.contextSnapshotId ∧ cs.companyId = r.companyId) = [cs]
  profile : (db.companyProfileVersions.filter fun p =>
    p.id = cs.companyProfileVersionId ∧ p.companyId = r.companyId) = [context.profile]
  goal : (db.goalVersions.filter fun gv =>
    gv.id = cs.goalVersionId ∧ gv.companyId = r.companyId) = [context.goal]
  attachments : Runs.attachments r.companyId cs.goalVersionId db = context.attachments

/-- The body of a response tells the content of the context. -/
structure FrozenContext.ToldBy (context : FrozenContext) (body : Json) : Prop where
  profile : ∃ c p, body.field "context" = some c ∧ c.field "company_profile" = some p ∧
    p.field "id" = some (.uuid context.profile.id) ∧
    p.field "version" = some (.nat context.profile.version) ∧
    p.field "purpose" = some (.str context.profile.purpose) ∧
    p.field "target_customer" = some (.str context.profile.targetCustomer) ∧
    p.field "constraints" = some context.profile.constraints ∧
    p.field "normalized_limits" = some context.profile.normalizedLimits
  goal : ∃ c g, body.field "context" = some c ∧ c.field "goal" = some g ∧
    g.field "id" = some (.uuid context.goal.id) ∧
    g.field "version" = some (.nat context.goal.version) ∧
    g.field "structured_goal" = some context.goal.structuredGoal
  attachments : ∃ c items, body.field "context" = some c ∧
    c.field "attachments" = some (.arr items) ∧
    List.Forall₂ (fun item o => item.field "id" = some (.uuid o.id) ∧
      item.field "media_type" = some (Json.orNull .text o.detectedMediaType) ∧
      item.field "size_bytes" = some (.nat o.sizeBytes) ∧
      item.field "checksum_sha256" = some (.str o.checksumSha256) ∧
      item.field "filename" = some (Json.orNull .str o.originalFilename))
      items context.attachments

/-- The run shows the context to a founder of its company and to a worker. -/
structure World.Shows (w : World) (r : RunRow) (context : FrozenContext) : Prop where
  get : ∀ (actor : RequestActor) (runId : UuidText), actor.companyId = some r.companyId →
    runId.value = r.id → ∃ snapshot qualification body,
      Runs.get actor runId w = (.ok body, w) ∧
      body = Runs.runJson
        { run := r, snapshot := snapshot, profile := context.profile, goal := context.goal,
          qualification := qualification }
        (Runs.taskCounts r.companyId r.id w.db) context.attachments ∧
      context.ToldBy body
  loadContext : Worker.loadContext r.companyId r.id w =
    (.ok { goal := context.goal.structuredGoal, purpose := context.profile.purpose,
           targetCustomer := context.profile.targetCustomer }, w)

structure World.Drawn (w : World) : Prop where
  profiles : ∀ v ∈ w.db.companyProfileVersions, v.id < w.nextId
  goals : ∀ g ∈ w.db.goalVersions, g.id < w.nextId
  snapshots : ∀ cs ∈ w.db.contextSnapshots, cs.id < w.nextId
  links : ∀ l ∈ w.db.goalVersionAttachments, l.goalVersionId < w.nextId
  linked : w.Linked

theorem World.Drawn.later {w w' : World} (h : w.Drawn) (hw : w.Extends w') : w'.Drawn where
  profiles := hw.profiles.forall_key_lt hw.nextId h.profiles
  goals := hw.goals.forall_key_lt hw.nextId h.goals
  snapshots := hw.snapshots.forall_key_lt hw.nextId h.snapshots
  links := hw.links.forall_key_lt hw.nextId h.links
  linked := hw.linked h.linked

theorem Runs.toldBy_runJson (context : FrozenContext) (view : RunView)
    (counts : List (TaskState × ℕ)) (hprofile : view.profile = context.profile)
    (hgoal : view.goal = context.goal) :
    context.ToldBy (Runs.runJson view counts context.attachments) where
  profile := ⟨Runs.contextJson view context.attachments, Runs.profileJson view.profile, rfl, rfl,
    hprofile ▸ ⟨rfl, rfl, rfl, rfl, rfl, rfl⟩⟩
  goal := ⟨Runs.contextJson view context.attachments, Runs.goalJson view.goal, rfl, rfl,
    hgoal ▸ ⟨rfl, rfl, rfl⟩⟩
  attachments := by
    refine ⟨Runs.contextJson view context.attachments,
      context.attachments.map Runs.attachmentJson, rfl, rfl, ?_⟩
    rw [List.forall₂_map_left_iff]
    exact List.forall₂_same.mpr fun o _ => ⟨rfl, rfl, rfl, rfl, rfl⟩

namespace Db.Resolves

variable {db : Db} {r r' : RunRow} {cs : ContextSnapshotRow} {context : FrozenContext}
  {w w' : World}

theorem mem_snapshots (h : db.Resolves r cs context) :
    cs ∈ db.contextSnapshots ∧ cs.id = r.contextSnapshotId ∧ cs.companyId = r.companyId := by
  have hmem : cs ∈ db.contextSnapshots.filter fun cs =>
      cs.id = r.contextSnapshotId ∧ cs.companyId = r.companyId := by
    rw [h.snapshot]
    exact List.mem_singleton_self _
  obtain ⟨hcs, hfound⟩ := List.mem_filter.mp hmem
  exact ⟨hcs, of_decide_eq_true hfound⟩

theorem mem_profiles (h : db.Resolves r cs context) :
    context.profile ∈ db.companyProfileVersions ∧
      context.profile.id = cs.companyProfileVersionId := by
  have hmem : context.profile ∈ db.companyProfileVersions.filter fun p =>
      p.id = cs.companyProfileVersionId ∧ p.companyId = r.companyId := by
    rw [h.profile]
    exact List.mem_singleton_self _
  obtain ⟨hp, hfound⟩ := List.mem_filter.mp hmem
  exact ⟨hp, (of_decide_eq_true hfound).1⟩

theorem mem_goals (h : db.Resolves r cs context) :
    context.goal ∈ db.goalVersions ∧ context.goal.id = cs.goalVersionId := by
  have hmem : context.goal ∈ db.goalVersions.filter fun gv =>
      gv.id = cs.goalVersionId ∧ gv.companyId = r.companyId := by
    rw [h.goal]
    exact List.mem_singleton_self _
  obtain ⟨hg, hfound⟩ := List.mem_filter.mp hmem
  exact ⟨hg, (of_decide_eq_true hfound).1⟩

/-- The run's own row is read for its pointer alone. -/
theorem congr (h : db.Resolves r cs context) (hr : r'.pointer = r.pointer) :
    db.Resolves r' cs context := by
  obtain ⟨-, hpair⟩ := Prod.mk.inj hr
  obtain ⟨hcompany, hsnapshot⟩ := Prod.mk.inj hpair
  refine ⟨?_, ?_, ?_, ?_⟩
  · rw [hcompany, hsnapshot]
    exact h.snapshot
  · rw [hcompany]
    exact h.profile
  · rw [hcompany]
    exact h.goal
  · rw [hcompany]
    exact h.attachments

theorem of_versions (h : db.Resolves r cs context) {cs' : ContextSnapshotRow}
    (hcompany : r'.companyId = r.companyId)
    (hsnapshot : (db.contextSnapshots.filter fun cs =>
      cs.id = r'.contextSnapshotId ∧ cs.companyId = r'.companyId) = [cs'])
    (hprofile : cs'.companyProfileVersionId = cs.companyProfileVersionId)
    (hgoal : cs'.goalVersionId = cs.goalVersionId) : db.Resolves r' cs' context := by
  refine ⟨hsnapshot, ?_, ?_, ?_⟩
  · rw [hprofile, hcompany]
    exact h.profile
  · rw [hgoal, hcompany]
    exact h.goal
  · rw [hgoal, hcompany]
    exact h.attachments

/-- Rows under fresh identifiers are no part of a context. -/
theorem later (h : w.db.Resolves r cs context) (hdrawn : w.Drawn) (hw : w.Extends w') :
    w'.db.Resolves r cs context := by
  obtain ⟨hcs, hid, -⟩ := h.mem_snapshots
  obtain ⟨hp, hpid⟩ := h.mem_profiles
  obtain ⟨hg, hgid⟩ := h.mem_goals
  have hgoalVersion : cs.goalVersionId < w.nextId := hgid ▸ hdrawn.goals _ hg
  refine ⟨?_, ?_, ?_, ?_⟩
  · rw [hw.snapshots.filter_eq fun cs' hcs' => ?_]
    · exact h.snapshot
    · rw [(of_decide_eq_true hcs').1, ← hid]
      exact hdrawn.snapshots cs hcs
  · rw [hw.profiles.filter_eq fun p hp' => ?_]
    · exact h.profile
    · rw [(of_decide_eq_true hp').1, ← hpid]
      exact hdrawn.profiles _ hp
  · rw [hw.goals.filter_eq fun g hg' => ?_]
    · exact h.goal
    · rw [(of_decide_eq_true hg').1]
      exact hgoalVersion
  · rw [← h.attachments, Runs.attachments, Runs.attachments, hw.links.filter_eq fun l hl => ?_]
    · congr 2
      refine List.flatMap_congr fun l hl => ?_
      rw [hw.objects.filter_eq fun o ho => ?_]
      rw [(of_decide_eq_true ho).2]
      exact hdrawn.linked.links l (List.mem_filter.mp hl).1
    · rw [(of_decide_eq_true hl).2]
      exact hgoalVersion

/-- The snapshot that an answer copies is the one the run resolves through. -/
theorem source_eq {db : Db} {source : ContextSnapshotRow} (h : db.Resolves r cs context) {companyId snapshotId : Uuid}
    (hsource : (db.contextSnapshots.filter fun cs => cs.companyId = companyId ∧
      cs.id = snapshotId).head? = some source)
    (hcompany : r.companyId = companyId) (hsnapshot : snapshotId = r.contextSnapshotId) :
    source = cs := by
  obtain ⟨hmem, hfound⟩ := List.mem_filter.mp (List.mem_of_mem_head? hsource)
  obtain ⟨hscompany, hsid⟩ := of_decide_eq_true hfound
  have hone : source ∈ db.contextSnapshots.filter fun cs =>
      cs.id = r.contextSnapshotId ∧ cs.companyId = r.companyId :=
    List.mem_filter.mpr ⟨hmem, decide_eq_true
      ⟨hsid.trans hsnapshot, hscompany.trans hcompany.symm⟩⟩
  rw [h.snapshot] at hone
  exact List.mem_singleton.mp hone

theorem shows (h : w.db.Resolves r cs context)
    (hrun : w.db.runs.filter (Runs.isRun r.companyId r.id) = [r]) : w.Shows r context where
  get actor runId hactor hrunId := by
    set rows := w.db.goalQualifications.filter fun q =>
      q.companyId = r.companyId ∧ q.goalVersionId = context.goal.id with hrows
    have hviews : Runs.runViews r.companyId r.id w.db = (Runs.leftJoin rows).map fun q =>
        { run := r, snapshot := cs, profile := context.profile, goal := context.goal,
          qualification := q } := by
      simp only [Runs.runViews, hrun, h.snapshot, h.profile, h.goal, List.flatMap_cons,
        List.flatMap_nil, List.append_nil, hrows]
    obtain ⟨q, hq⟩ : ∃ q, (Runs.leftJoin rows).head? = some q := by
      cases rows with
      | nil => exact ⟨none, rfl⟩
      | cons q rows => exact ⟨some q, rfl⟩
    refine ⟨cs, q, _, ?_, rfl, Runs.toldBy_runJson context _ _ rfl rfl⟩
    rw [Runs.get, companyScopeFromActor, hactor, Op.require_some, hrunId, Op.query_bind, hviews,
      List.head?_map, hq, Option.map_some, Op.require_some, Op.query_bind, Op.query_bind,
      h.attachments]
    rfl
  loadContext := by
    have hcompany := h.mem_snapshots.2.2
    have hrows : Worker.contextRows r.companyId r.id w.db =
        [{ goal := context.goal.structuredGoal, purpose := context.profile.purpose,
           targetCustomer := context.profile.targetCustomer }] := by
      have hrun' : w.db.runs.filter (fun r' => r'.companyId = r.companyId ∧ r'.id = r.id) = [r] :=
        hrun
      simp only [Worker.contextRows, hrun', h.snapshot, hcompany, h.profile, h.goal,
        List.flatMap_cons, List.flatMap_nil, List.append_nil, List.map_cons, List.map_nil]
    rw [Worker.loadContext, Op.query_bind, hrows]
    rfl

end Db.Resolves

/-! ## Starting a run -/

namespace Runs

def joined (objects : List ObjectRecordRow) (links : List GoalVersionAttachmentRow) :
    List (GoalVersionAttachmentRow × ObjectRecordRow) :=
  links.flatMap fun gva =>
    (objects.filter fun o => o.companyId = gva.companyId ∧ o.id = gva.objectId).map fun o => (gva, o)

/-- The objects a request names, in its order. -/
def Names (objects : List ObjectRecordRow) (companyId : Uuid) (id : UuidText)
    (o : ObjectRecordRow) : Prop :=
  o ∈ objects ∧ o.companyId = companyId ∧ o.id = id.value

theorem joined_linkRows {objects : List ObjectRecordRow}
    (hnodup : (objects.map ObjectRecordRow.id).Nodup) (companyId goalVersionId : Uuid)
    {ids : List UuidText}
    (h : ∀ id ∈ ids, ∃ o ∈ objects, o.companyId = companyId ∧ o.id = id.value) (k : ℕ) :
    ∃ os, List.Forall₂ (Names objects companyId) ids os ∧
      (joined objects (Attachments.linkRows companyId goalVersionId k ids)).map Prod.snd = os ∧
      (joined objects (Attachments.linkRows companyId goalVersionId k ids)).Pairwise
        (fun a b => attachmentOrder a b) ∧
      ∀ x ∈ joined objects (Attachments.linkRows companyId goalVersionId k ids),
        k ≤ x.1.ordinal := by
  induction ids generalizing k with
  | nil => exact ⟨[], .nil, rfl, .nil, nofun⟩
  | cons id ids ih =>
      obtain ⟨o, ho, hcompany, hid⟩ := h id List.mem_cons_self
      obtain ⟨os, hnames, hmap, hsorted, hle⟩ :=
        ih (fun id hid => h id (List.mem_cons_of_mem _ hid)) (k + 1)
      have hfilter : (objects.filter fun o => o.companyId = companyId ∧ o.id = id.value) = [o] := by
        refine Table.filter_eq_singleton hnodup ho fun o' ho' => ?_
        rw [decide_eq_true_eq]
        constructor
        · exact fun h' => h'.2.trans hid.symm
        · intro heq
          obtain rfl := Table.eq_of_key_eq hnodup ho' ho heq
          exact ⟨hcompany, hid⟩
      have hcons : joined objects (Attachments.linkRows companyId goalVersionId k (id :: ids)) =
          (Attachments.linkRow companyId goalVersionId id.value k, o) ::
            joined objects (Attachments.linkRows companyId goalVersionId (k + 1) ids) := by
        have hhead : (objects.filter fun o =>
            o.companyId = (Attachments.linkRow companyId goalVersionId id.value k).companyId ∧
              o.id = (Attachments.linkRow companyId goalVersionId id.value k).objectId) = [o] :=
          hfilter
        simp only [joined, Attachments.linkRows, List.zipIdx_cons, List.map_cons,
          List.flatMap_cons, hhead, List.map_nil, List.cons_append, List.nil_append]
      refine ⟨o :: os, .cons ⟨ho, hcompany, hid⟩ hnames, ?_, ?_, ?_⟩
      · rw [hcons, List.map_cons, hmap]
      · rw [hcons]
        refine .cons (fun x hx => ?_) hsorted
        exact decide_eq_true (.inl (Nat.lt_of_succ_le (hle x hx)))
      · rw [hcons]
        intro x hx
        rcases List.mem_cons.mp hx with rfl | hx
        · exact Nat.le_refl k
        · exact Nat.le_of_succ_le (hle x hx)

end Runs

/-- The action starts the run on the current profile version of its company, the
goal of the request and the attachments it names. -/
inductive Program.Starts (p : Program) (s : Sys) : ProgramAction → RunRow → FrozenContext → Prop
  | intro (actor : RequestActor) (initiativeId : UuidText) (expectedVersion : ℕ)
      (idempotencyKey : Uuid) (correlationId : UuidText) (dto : CreateGoalDto) (r : RunRow)
      (context : FrozenContext) (c : CompanyRow) (ids : Initiatives.RunIds) (version : ℕ)
      (hcompany : c ∈ s.world.db.companies ∧ c.id = r.companyId ∧ c.founderId = actor.id)
      (hcurrent : c.currentProfileVersionId = some context.profile.id)
      (hprofile : context.profile ∈ s.world.db.companyProfileVersions ∧
        context.profile.companyId = r.companyId)
      (hgoal : context.goal = Initiatives.goalVersionRow r.companyId initiativeId.value actor ids
        version dto s.world.now)
      (hattachments : List.Forall₂ (Runs.Names s.world.db.objectRecords r.companyId)
        dto.attachmentIds context.attachments)
      (hfresh : ∀ r' ∈ s.world.db.runs, r'.id ≠ r.id)
      (hstarted : ∃ r' ∈ (p.step s (.call (.createGoalAndRun actor initiativeId expectedVersion
        idempotencyKey correlationId dto))).world.db.runs, r'.id = r.id) :
      Starts p s (.call (.createGoalAndRun actor initiativeId expectedVersion idempotencyKey
        correlationId dto)) r context

theorem Db.Resolves.started {companyId : Uuid} {actor : RequestActor}
    {initiativeId : UuidText} {expectedVersion : ℕ} {dto : CreateGoalDto}
    {profileVersionId : Uuid} {w : World} (w' : World) (hdrawn : w.Drawn)
    (htenant : Tenant.Inv w) (ids : Initiatives.RunIds)
    (hids : ids.goalVersionId = w.nextId ∧ ids.contextSnapshotId = w.nextId + 1)
    (hstartable : Initiatives.Startable companyId actor initiativeId expectedVersion dto
      profileVersionId w.db) {version : ℕ}
    (hprofiles : w'.db.companyProfileVersions = w.db.companyProfileVersions)
    (hobjects : w'.db.objectRecords = w.db.objectRecords)
    (hgoals : w'.db.goalVersions = w.db.goalVersions ++
      [Initiatives.goalVersionRow companyId initiativeId.value actor ids version dto w.now])
    (hlinks : w'.db.goalVersionAttachments = w.db.goalVersionAttachments ++
      Attachments.linkRows companyId ids.goalVersionId 0 dto.attachmentIds)
    (hsnapshots : w'.db.contextSnapshots = w.db.contextSnapshots ++
      [Initiatives.contextSnapshotRow companyId ids profileVersionId w.now])
    {r : RunRow} (hr : r.companyId = companyId ∧ r.contextSnapshotId = ids.contextSnapshotId) :
    ∃ context, w'.db.Resolves r
        (Initiatives.contextSnapshotRow companyId ids profileVersionId w.now) context ∧
      (∃ c ∈ w.db.companies, c.id = companyId ∧ c.founderId = actor.id ∧
        c.currentProfileVersionId = some context.profile.id) ∧
      (context.profile ∈ w.db.companyProfileVersions ∧ context.profile.companyId = companyId) ∧
      context.goal =
        Initiatives.goalVersionRow companyId initiativeId.value actor ids version dto w.now ∧
      List.Forall₂ (Runs.Names w.db.objectRecords companyId) dto.attachmentIds
        context.attachments := by
  obtain ⟨c, hc, hcid, hfounder, hcurrent⟩ := hstartable.profile
  obtain ⟨-, profile, hprofile, hpcompany, hpid, -⟩ := htenant.chains.company c hc
  obtain rfl : profileVersionId = profile.id := Option.some.inj (hcurrent.symm.trans hpid)
  obtain ⟨os, hnames, hmap, hsorted, -⟩ := Runs.joined_linkRows hdrawn.linked.objects companyId
    ids.goalVersionId hstartable.attachments 0
  refine ⟨{ profile := profile, goal := _, attachments := os }, ⟨?_, ?_, ?_, ?_⟩,
    ⟨c, hc, hcid, hfounder, hpid⟩, ⟨hprofile, hpcompany.trans hcid⟩, rfl, hnames⟩
  · rw [hsnapshots, hr.1, hr.2]
    refine Table.filter_append_singleton (fun cs hcs => ?_) (by simp [Initiatives.contextSnapshotRow])
    have hlt := hdrawn.snapshots cs hcs
    have hne : cs.id ≠ ids.contextSnapshotId := by
      rw [hids.2]
      exact (hlt.trans (Nat.lt_succ_self _)).ne
    simp [hne]
  · rw [hprofiles, hr.1]
    refine Table.filter_eq_singleton htenant.keyed.profiles.1 hprofile fun v hv => ?_
    rw [decide_eq_true_eq]
    constructor
    · exact fun h => h.1
    · intro heq
      obtain rfl := Table.eq_of_key_eq htenant.keyed.profiles.1 hv hprofile heq
      exact ⟨rfl, hpcompany.trans hcid⟩
  · rw [hgoals, hr.1]
    refine Table.filter_append_singleton (fun g hg => ?_)
      (by simp [Initiatives.contextSnapshotRow, Initiatives.goalVersionRow])
    have hne : g.id ≠ ids.goalVersionId := by
      rw [hids.1]
      exact (hdrawn.goals g hg).ne
    simp [Initiatives.contextSnapshotRow, hne]
  · have hold : w.db.goalVersionAttachments.filter (fun l =>
        l.companyId = companyId ∧ l.goalVersionId = ids.goalVersionId) = [] := by
      refine List.filter_eq_nil_iff.mpr fun l hl heq => ?_
      have hlt := hdrawn.links l hl
      rw [(of_decide_eq_true heq).2, hids.1] at hlt
      exact Nat.lt_irrefl _ hlt
    have hnew : (Attachments.linkRows companyId ids.goalVersionId 0 dto.attachmentIds).filter
        (fun l => l.companyId = companyId ∧ l.goalVersionId = ids.goalVersionId) =
          Attachments.linkRows companyId ids.goalVersionId 0 dto.attachmentIds := by
      refine List.filter_eq_self.mpr fun l hl => ?_
      obtain ⟨entry, -, rfl⟩ := List.mem_map.mp hl
      exact decide_eq_true ⟨rfl, rfl⟩
    rw [hr.1]
    change Runs.attachments companyId ids.goalVersionId w'.db = os
    rw [Runs.attachments, hlinks, hobjects, List.filter_append, hold, hnew, List.nil_append]
    change ((Runs.joined _ _).insertionSort _).map Prod.snd = os
    rw [List.Pairwise.insertionSort_eq hsorted, hmap]

/-! ## Open waits -/

def Life.WaitsAtContext (l : Life) : Prop :=
  ∀ w ∈ l.waits, w.status = .opened → w.contextSnapshotId = l.run.contextSnapshotId

theorem Life.WaitsAtContext.step {rt : Runtime} {act : Action} {l l' : Life}
    (h : l.WaitsAtContext) (hinv : l.Invariant rt) (hstep : LifeStep rt act l l') :
    l'.WaitsAtContext := by
  cases hstep with
  | claim w config runId locked =>
      intro wait hwait hopened
      refine (h wait hwait hopened).trans ?_
      change _ = (if l.run.state = .draft then Worker.qualifying _ l.run else l.run).contextSnapshotId
      split <;> rfl
  | openWait input =>
      intro wait hwait hopened
      rcases List.mem_append.mp hwait with hwait | hwait
      · exact h wait hwait hopened
      · rw [List.mem_singleton.mp hwait]
        rfl
  | answer input _ t wait source answerVersionId resumedContextSnapshotId now event n hn htask
      hwait hwaitId hanswerable =>
      intro wait' hwait' hopened
      obtain ⟨w, hw, rfl⟩ := Table.mem_updateWhere.mp hwait'
      -- the answered wait was the only open one
      by_cases hp : w.id = wait.id ∧ w.status = .opened
      · simp [hp, DurableWait.resolvedWait] at hopened
      · simp only [hp, decide_false, Bool.false_eq_true, if_false] at hopened
        have hstatus : wait.status = .opened := (DurableWait.answerable_iff.mp hanswerable).opened
        obtain rfl := hinv.waiting.single w hw wait hwait hopened hstatus
        exact absurd ⟨rfl, hopened⟩ hp
  | cancel companyId runId actorId correlationId =>
      intro wait hwait hopened
      obtain ⟨w, hw, rfl⟩ := Table.mem_updateWhere.mp hwait
      by_cases hp : w.status = .opened
      · simp [hp, DurableWait.canceledWait] at hopened
      · simp [hp] at hopened
  | _ => exact h

/-! ## Steps -/

/-- The action answers a wait of the run and moves it from the snapshot `cs` to
`cs'`. -/
structure ProgramAction.Answers (act : ProgramAction) (r : RunRow)
    (cs cs' : ContextSnapshotRow) : Prop where
  act : ∃ input, act = .work (.answer input) rfl ∧ input.runId.value = r.id
  profile : cs'.companyProfileVersionId = cs.companyProfileVersionId
  goal : cs'.goalVersionId = cs.goalVersionId
  answers : ∃ answerVersionId, cs'.answerVersionIds = cs.answerVersionIds ++ [answerVersionId]

namespace Program

/-- The invariant of the program for the contexts of its runs. -/
structure ContextInv (p : Program) (s : Sys) : Prop where
  sys : s.Inv p.services.runtime
  tenant : Tenant.Inv s.world
  drawn : s.world.Drawn
  waits : s.Each Life.WaitsAtContext
  contexts : ∀ r ∈ s.world.db.runs, ∃ cs context, s.world.db.Resolves r cs context

variable {p : Program} {s : Sys} {act : ProgramAction}

/-- The run was there before the step and resolves to the same context, at its snapshot or at the
one that an answer has moved it to. -/
def Continues (p : Program) (s : Sys) (act : ProgramAction) (r' : RunRow) : Prop :=
  ∃ r ∈ s.world.db.runs, r.id = r'.id ∧ r.companyId = r'.companyId ∧
    ∃ cs cs' context, s.world.db.Resolves r cs context ∧
      (p.step s act).world.db.Resolves r' cs' context ∧ (cs' = cs ∨ act.Answers r cs cs')

theorem ContextInv.continues (h : p.ContextInv s) (hextends : s.world.Extends (p.step s act).world)
    {r r' : RunRow} (hr : r ∈ s.world.db.runs) (heq : r'.pointer = r.pointer) :
    p.Continues s act r' := by
  obtain ⟨cs, context, hcontext⟩ := h.contexts r hr
  exact ⟨r, hr, (congrArg Prod.fst heq).symm, (congrArg (fun v => v.2.1) heq).symm, cs, cs,
    context, hcontext, (hcontext.later h.drawn hextends).congr heq, .inl rfl⟩

theorem ContextInv.run_started (h : p.ContextInv s) {actor : RequestActor}
    {initiativeId : UuidText} {expectedVersion : ℕ} {idempotencyKey : Uuid}
    {correlationId : UuidText} {dto : CreateGoalDto} {companyId : Uuid}
    {qualification : GoalQualification} {rows : List IdempotencyRecordRow}
    {response : CommandResponse} {w₁ : World}
    (hact : act = .call (.createGoalAndRun actor initiativeId expectedVersion idempotencyKey
      correlationId dto))
    (hextends : s.world.Extends (p.step s act).world)
    (hstart : Initiatives.startRun p.services companyId actor initiativeId expectedVersion
      correlationId dto qualification (s.world.reserved rows) = (.ok response, w₁))
    (hcommit : (p.step s act).world = { w₁ with
      db := CommandExecutor.committed (Initiatives.goalCommand p.services companyId actor
        initiativeId expectedVersion idempotencyKey correlationId dto qualification) response
        w₁.db })
    {r' : RunRow} (hr' : r' ∈ (p.step s act).world.db.runs) :
    p.Continues s act r' ∨
      ∃ cs context, (p.step s act).world.db.Resolves r' cs context ∧ p.Starts s act r' context := by
  have hreserved : s.world.Extends (s.world.reserved rows) := .of_context_eq (Nat.le_succ _) rfl
  have hdrawn := h.drawn.later hreserved
  have htenant : Tenant.Inv (s.world.reserved rows) :=
    ⟨VersionedTables.Keyed.mono h.tenant.keyed (Nat.le_succ _), h.tenant.chains⟩
  obtain ⟨profileVersionId, sequence, sequence', hstartable, rfl⟩ :=
    Initiatives.startRun_eq_ok hstart
  subst hact
  have hmem : r' ∈ s.world.db.runs ++ [Initiatives.runRow p.services companyId
      initiativeId.value (Initiatives.runIds (decide (qualification.result =
        .needsClarification)) (s.world.nextId + 1))
      (decide (qualification.result = .needsClarification)) s.world.now] := by
    rw [hcommit] at hr'
    exact hr'
  rcases List.mem_append.mp hmem with hr | hr
  · exact .inl (h.continues hextends hr rfl)
  · obtain rfl := List.mem_singleton.mp hr
    obtain ⟨context, hresolves, ⟨c, hc, hcid, hfounder, hcurrent⟩, hprofile, hgoal, hnames⟩ :=
      Db.Resolves.started (p.step s (.call (.createGoalAndRun actor initiativeId
        expectedVersion idempotencyKey correlationId dto))).world hdrawn htenant
        (Initiatives.runIds (decide (qualification.result = .needsClarification))
          (s.world.nextId + 1)) ⟨rfl, rfl⟩ hstartable
        (by rw [hcommit]; rfl) (by rw [hcommit]; rfl) (by rw [hcommit]; rfl)
        (by rw [hcommit]; rfl) (by rw [hcommit]; rfl)
        (r := Initiatives.runRow p.services companyId initiativeId.value
          (Initiatives.runIds (decide (qualification.result = .needsClarification))
            (s.world.nextId + 1))
          (decide (qualification.result = .needsClarification)) s.world.now) ⟨rfl, rfl⟩
    refine .inr ⟨_, context, hresolves, .intro actor initiativeId expectedVersion
      idempotencyKey correlationId dto _ context c _ _ ⟨hc, hcid, hfounder⟩ hcurrent hprofile
      hgoal hnames (fun r hr => ?_) ⟨_, hr', rfl⟩⟩
    have hlt : r.id < s.world.nextId := h.sys.drawn.runs r.id (List.mem_map_of_mem hr)
    exact (hlt.trans_le (Nat.le_add_right _ 3)).ne

/-- The run that an answer names is the one it locks, and an open wait of it is at its snapshot. -/
theorem ContextInv.run_of_wait (h : p.ContextInv s) {input : AnswerWaitInput}
    {wait : HumanWaitRow} {run : RunRow}
    (hfindWait : s.world.db.humanWaits.find? (DurableWait.isWait input.companyId.value
      input.runId.value input.waitId.value) = some wait)
    (hfindRun : s.world.db.runs.find? (DurableWait.isRun input.companyId.value input.runId.value) =
      some run)
    (hopened : wait.status = .opened) {r : RunRow} (hr : r ∈ s.world.db.runs)
    (hnamed : DurableWait.isRun input.companyId.value input.runId.value r = true) :
    r = run ∧ wait.contextSnapshotId = r.contextSnapshotId := by
  obtain ⟨l, hl, hinv, hlrun, hcompany, hid⟩ := h.sys.named hfindRun
  obtain ⟨hwait, -⟩ := hl.shows.wait_of_find? hid hfindWait
  have hsame : r = run := by
    refine Table.eq_of_key_eq h.sys.unique.runs hr (List.mem_of_find?_eq_some hfindRun) ?_
    rw [(of_decide_eq_true hnamed).2, ← hid, hlrun]
  refine ⟨hsame, ?_⟩
  rw [h.waits l hl wait hwait hopened, hlrun, hsame]

theorem ContextInv.run_answered (h : p.ContextInv s) {input : AnswerWaitInput}
    {rows : List IdempotencyRecordRow} {response : CommandResponse} {w₁ : World}
    (hact : act = .work (.answer input) rfl)
    (hextends : s.world.Extends (p.step s act).world)
    (hresolve : DurableWait.resolveWait p.services.runtime input (s.world.reserved rows) =
      (.ok response, w₁))
    (hcommit : (p.step s act).world = { w₁ with
      db := CommandExecutor.committed (DurableWait.answerCommand p.services.runtime input)
        response w₁.db })
    {r' : RunRow} (hr' : r' ∈ (p.step s act).world.db.runs) : p.Continues s act r' := by
  obtain ⟨wait, run, task, source, sequence, hfindWait, hfindRun, -, hanswerable, hsource, -,
    w₂, rfl, rfl⟩ := DurableWait.resolveWait_eq_ok hresolve
  have hopened : wait.status = .opened := (DurableWait.answerable_iff.mp hanswerable).opened
  set snapshot := DurableWait.resumedSnapshotRow input source (s.world.nextId + 2)
    (s.world.nextId + 1) s.world.now with hsnapshot
  have hmem : r' ∈ Table.updateWhere
      (DurableWait.isRun input.companyId.value input.runId.value)
      (DurableWait.resumedRun wait snapshot s.world.now) s.world.db.runs := by
    rw [hcommit] at hr'
    exact hr'
  obtain ⟨r, hr, rfl⟩ := Table.mem_updateWhere.mp hmem
  by_cases hnamed : DurableWait.isRun input.companyId.value input.runId.value r = true
  · obtain ⟨hrcompany, hrid⟩ := of_decide_eq_true hnamed
    obtain ⟨rfl, hpointer⟩ := h.run_of_wait hfindWait hfindRun hopened hr hnamed
    obtain ⟨cs, context, hcontext⟩ := h.contexts r hr
    obtain rfl := hcontext.source_eq hsource hrcompany hpointer
    rw [if_pos hnamed]
    refine ⟨r, hr, rfl, rfl, source, snapshot, context, hcontext, ?_,
      .inr ⟨⟨input, hact, hrid.symm⟩, rfl, rfl, s.world.nextId + 1, rfl⟩⟩
    refine (hcontext.later h.drawn hextends).of_versions rfl ?_ rfl rfl
    rw [hcommit]
    refine Table.filter_append_singleton (fun cs hcs => ?_) ?_
    · have hlt := h.drawn.snapshots cs hcs
      have hne : cs.id ≠ s.world.nextId + 2 := (hlt.trans_le (Nat.le_add_right _ 2)).ne
      have hne' : cs.id ≠ (DurableWait.resumedRun wait snapshot s.world.now
        r).contextSnapshotId := hne
      simp [hne']
    · exact decide_eq_true ⟨rfl, hrcompany.symm⟩
  · exact h.continues hextends hr (by rw [if_neg hnamed])

/-- A run after a step was there before and resolves to the same context, or has been
started by the step. -/
theorem ContextInv.run_step (h : p.ContextInv s) {r' : RunRow}
    (hr' : r' ∈ (p.step s act).world.db.runs) : p.Continues s act r' ∨
      ∃ cs context, (p.step s act).world.db.Resolves r' cs context ∧ p.Starts s act r' context := by
  obtain ⟨hextends, hstep⟩ := p.contextStep s act
  cases hstep with
  | kept hpointers hanswers =>
      have hmem : r'.pointer ∈ (p.step s act).world.db.context.pointers :=
        List.mem_map_of_mem hr'
      rw [hpointers] at hmem
      obtain ⟨r, hr, heq⟩ := List.mem_map.mp hmem
      exact .inl (h.continues hextends hr heq.symm)
  | started actor initiativeId expectedVersion idempotencyKey correlationId dto companyId
      qualification rows response w₁ hact hstart hcommit =>
      exact h.run_started hact hextends hstart hcommit hr'
  | answered input rows response w₁ hact hresolve hcommit =>
      exact .inl (h.run_answered hact hextends hresolve hcommit hr')

theorem ContextInv.step (h : p.ContextInv s) (act : ProgramAction) :
    p.ContextInv (p.step s act) where
  sys := h.sys.step (h.sys.steps (p.toAction act))
  tenant := p.tenantInv_step s act h.tenant
  drawn := h.drawn.later (p.contextStep s act).1
  waits := h.sys.each_step (fun l hnew wait hwait => by simp [hnew.waits] at hwait)
    (fun _ _ _ hinv hwaits hstep => hwaits.step hinv hstep) h.waits
  contexts r' hr' := by
    rcases h.run_step hr' with ⟨r, hr, -, -, cs, cs', context, -, hresolves, -⟩ |
      ⟨cs, context, hresolves, -⟩
    · exact ⟨cs', context, hresolves⟩
    · exact ⟨cs, context, hresolves⟩

theorem contextInv_initial (p : Program) (init : InitialProgram) : p.ContextInv init.sys where
  sys := init.toInitialWorld.inv
  tenant := Tenant.inv_initial
    { world := init.world, companies := init.companies,
      companyProfileVersions := init.companyProfileVersions, initiatives := init.initiatives,
      goalVersions := init.goalVersions }
  drawn :=
    { profiles := by simp [InitialWorld.sys, init.companyProfileVersions]
      goals := by simp [InitialWorld.sys, init.goalVersions]
      snapshots := by simp [InitialWorld.sys, init.contextSnapshots]
      links := by simp [InitialWorld.sys, init.goalVersionAttachments]
      linked :=
        { objects := by simp [InitialWorld.sys, init.objectRecords]
          drawn := by simp [InitialWorld.sys, init.objectRecords]
          links := by simp [InitialWorld.sys, init.goalVersionAttachments] } }
  waits l hl := absurd ⟨init.toInitialWorld.ofRun _, fun _ => rfl, rfl⟩ hl.not_absent
  contexts := by simp [InitialWorld.sys, init.runs]

theorem contextInv_after (p : Program) (init : InitialProgram) (acts : List ProgramAction) :
    p.ContextInv (p.after init acts) :=
  Transition.run_invariant (P := p.ContextInv) (fun _ act h => h.step act)
    (p.contextInv_initial init) acts

theorem after_append_singleton (p : Program) (init : InitialProgram)
    (acts : List ProgramAction) (act : ProgramAction) :
    p.after init (acts ++ [act]) = p.step (p.after init acts) act := by
  rw [after, Transition.run_append]
  rfl

theorem Starts.congr {r r' : RunRow} {context : FrozenContext} (h : p.Starts s act r context)
    (hid : r.id = r'.id) (hcompany : r.companyId = r'.companyId) : p.Starts s act r' context := by
  cases h with
  | intro actor initiativeId expectedVersion idempotencyKey correlationId dto r context c ids
      version hc hcurrent hprofile hgoal hattachments hfresh hstarted =>
      rw [hcompany] at hc hprofile hgoal hattachments
      rw [hid] at hstarted
      exact .intro actor initiativeId expectedVersion idempotencyKey correlationId dto r' context c
        ids version hc hcurrent hprofile hgoal hattachments (hid ▸ hfresh) hstarted

theorem started_after (p : Program) (init : InitialProgram) (acts : List ProgramAction) :
    ∀ r ∈ (p.after init acts).world.db.runs, ∃ acts₁ act acts₂ cs context,
      acts = acts₁ ++ act :: acts₂ ∧ p.Starts (p.after init acts₁) act r context ∧
      (p.after init acts).world.db.Resolves r cs context := by
  induction acts using List.reverseRecOn with
  | nil =>
      intro r hr
      have hnone : (p.after init []).world.db.runs = [] := init.runs
      rw [hnone] at hr
      cases hr
  | append_singleton acts act ih =>
      intro r' hr'
      rw [after_append_singleton] at hr' ⊢
      rcases (p.contextInv_after init acts).run_step hr' with
        ⟨r, hr, hid, hcompany, cs, cs', context, hcontext, hresolves, -⟩ |
        ⟨cs, context, hresolves, hstarts⟩
      · obtain ⟨acts₁, act₁, acts₂, cs₁, context₁, rfl, hstarts, hcontext₁⟩ := ih r hr
        have hsnapshot : cs = cs₁ := by
          have heq := hcontext.snapshot.symm.trans hcontext₁.snapshot
          exact (List.cons.inj heq).1
        subst hsnapshot
        have hcontexts : context = context₁ := by
          obtain ⟨profile, goal, attachments⟩ := context
          obtain ⟨profile₁, goal₁, attachments₁⟩ := context₁
          obtain rfl : profile = profile₁ :=
            (List.cons.inj (hcontext.profile.symm.trans hcontext₁.profile)).1
          obtain rfl : goal = goal₁ :=
            (List.cons.inj (hcontext.goal.symm.trans hcontext₁.goal)).1
          obtain rfl : attachments = attachments₁ :=
            hcontext.attachments.symm.trans hcontext₁.attachments
          rfl
        subst hcontexts
        exact ⟨acts₁, act₁, acts₂ ++ [act], cs', context, by simp, hstarts.congr hid hcompany,
          hresolves⟩
      · exact ⟨acts, act, [], cs, context, rfl, hstarts, hresolves⟩

/-- Every run shows the profile, the goal and the attachments that were current when
it was started; an action leaves it at its snapshot, unless it answers a wait of the
run and moves it to a snapshot of the same versions with one more answer. -/
theorem frozenContext_after (p : Program) (init : InitialProgram) (acts : List ProgramAction) :
    (∀ r ∈ (p.after init acts).world.db.runs, ∃ acts₁ act acts₂ context,
      acts = acts₁ ++ act :: acts₂ ∧ p.Starts (p.after init acts₁) act r context ∧
      (p.after init acts).world.Shows r context) ∧
    ∀ act, ∀ r ∈ (p.after init acts).world.db.runs,
      ∃ r' ∈ (p.after init (acts ++ [act])).world.db.runs, r'.id = r.id ∧ ∃ cs cs',
        (p.after init acts).world.db.contextSnapshots.filter (fun cs =>
          cs.id = r.contextSnapshotId ∧ cs.companyId = r.companyId) = [cs] ∧
        (p.after init (acts ++ [act])).world.db.contextSnapshots.filter (fun cs =>
          cs.id = r'.contextSnapshotId ∧ cs.companyId = r'.companyId) = [cs'] ∧
        (cs' = cs ∨ act.Answers r cs cs') := by
  have hinv := p.contextInv_after init acts
  constructor
  · intro r hr
    obtain ⟨acts₁, act, acts₂, cs, context, hacts, hstarts, hresolves⟩ :=
      p.started_after init acts r hr
    refine ⟨acts₁, act, acts₂, context, hacts, hstarts, hresolves.shows ?_⟩
    refine Table.filter_eq_singleton hinv.sys.unique.runs hr fun r' hr' => ?_
    rw [Runs.isRun, decide_eq_true_eq]
    constructor
    · exact fun h => h.2
    · intro heq
      obtain rfl := Table.eq_of_key_eq hinv.sys.unique.runs hr' hr heq
      exact ⟨rfl, rfl⟩
  · intro act r hr
    obtain ⟨l, hl, rfl, hlinv⟩ := hinv.sys.life_of_run hr
    obtain ⟨l', hl', hlife⟩ := (hinv.sys.steps (p.toAction act)).run l hl hlinv
    have hr' : l'.run ∈ (p.step (p.after init acts) act).world.db.runs := hl'.shows.mem_runs
    refine ⟨l'.run, by rw [after_append_singleton]; exact hr', hlife.id_eq, ?_⟩
    rw [after_append_singleton]
    rcases hinv.run_step hr' with
      ⟨r, hr₁, hid, hcompany, cs, cs', context, hcontext, hresolves, hanswers⟩ |
      ⟨cs, context, hresolves, hstarts⟩
    · obtain rfl := Table.eq_of_key_eq hinv.sys.unique.runs hr₁ hr (hid.trans hlife.id_eq)
      exact ⟨cs, cs', hcontext.snapshot, hresolves.snapshot, hanswers⟩
    · cases hstarts with
      | intro actor initiativeId expectedVersion idempotencyKey correlationId dto r context c ids
          version hc hcurrent hprofile hgoal hattachments hfresh hstarted =>
          exact absurd hlife.id_eq.symm (hfresh l.run hr)

end Program

end Aico
