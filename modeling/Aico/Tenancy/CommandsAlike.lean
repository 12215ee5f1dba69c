import Aico.Companies.Companies
import Aico.Initiatives.InitiativesSteps
import Aico.Tenancy.Alike

/-!
# Commands of a founder

The commands answer alike in worlds that are alike, and leave them alike. A query without a
`company_id` is answered by the keys: the numbers of an initiative's goal versions by the
initiative, which is of the company, and the numbers of a run's events by the run, which the
command has just started.
-/

namespace Aico

namespace TenantScope

variable {t : TenantScope} {w₀ w₀' w w' : World}

/-! ## Events -/

theorem isCounterOf_own {options : AppendEventOptions} {runId : UuidText}
    (hcompany : options.companyId.value = t.companyId) (c : RunEventCounterRow)
    (hc : DomainEvent.isCounterOf options runId c = true) :
    t.own.has (.company c.companyId) = true := by
  rw [own_company, ← hcompany]
  exact (of_decide_eq_true hc).2

theorem sees_allocated {options : AppendEventOptions}
    (hcompany : options.companyId.value = t.companyId) :
    t.Sees fun db => DomainEvent.allocated options db.runEventCounters := by
  intro db
  unfold DomainEvent.allocated
  cases options.runId with
  | none => rfl
  | some runId =>
      have hfind : (db.portion t.own).runEventCounters.find?
            (DomainEvent.isCounterOf options runId) =
          db.runEventCounters.find? (DomainEvent.isCounterOf options runId) :=
        sees_find? OwnedTable.runEventCounters (isCounterOf_own hcompany) db
      simp only [hfind]

theorem within_bumpCounter {options : AppendEventOptions}
    (hcompany : options.companyId.value = t.companyId) :
    t.Within fun db =>
      { db with runEventCounters := DomainEvent.bumpCounter options db.runEventCounters } := by
  unfold DomainEvent.bumpCounter
  cases options.runId with
  | none => exact within_id
  | some runId =>
      exact within_update OwnedTable.runEventCounters (fun _ => rfl) (isCounterOf_own hcompany)

/-- Only events of the company are numbered under a run that is new. -/
theorem sequenceTaken_portion (h₀ : t.WellFormed w₀) (h : t.Beside w₀ w) {e : EventRow}
    (hrun : ∀ r, e.runId = some r → w₀.nextId ≤ r) :
    DomainEvent.sequenceTaken e (w.db.portion t.own).events =
      DomainEvent.sequenceTaken e w.db.events := by
  refine Table.any_filter_of_imp fun e' he' htaken => ?_
  obtain ⟨hsame, -, hsome⟩ := of_decide_eq_true htaken
  obtain ⟨r, hr⟩ := Option.isSome_iff_exists.mp hsome
  by_contra hother
  have hmem := h.mem OwnedTable.events he' (Bool.eq_false_of_not_eq_true hother)
  have hlt := h₀.events e' hmem (fun heq => hother (own_company t |>.mpr heq)) r (hsame.trans hr)
  exact absurd hlt (Nat.not_lt.mpr (hrun r hr))

theorem agrees_append (h₀ : t.WellFormed w₀) (h₀' : t.WellFormed w₀')
    (hn : w₀.nextId = w₀'.nextId) {options : AppendEventOptions}
    (hcompany : options.companyId.value = t.companyId)
    (hrun : ∀ r, options.runId = some r → w₀.nextId ≤ r.value) :
    Prog.Agrees (t.Alike w₀ w₀') (DomainEvent.append options) := by
  have hrow : ∀ eventId sequence now r,
      (DomainEvent.eventRow options eventId sequence now).runId = some r → w₀.nextId ≤ r := by
    intro eventId sequence now r hr
    obtain ⟨r', hr', rfl⟩ := Option.map_eq_some_iff.mp hr
    exact hrun r' hr'
  refine .bind agrees_newId fun eventId => .bind (agrees_sees (sees_allocated hcompany))
    fun sequence => ?_
  cases sequence with
  | error e => exact .throw e
  | ok sequence =>
      refine .bind (agrees_exec (within_bumpCounter hcompany) (fun _ => rfl) fun _ => rfl)
        fun _ => .bind agrees_now fun now => .bind (agrees_query fun v v' h => ?_) fun _ =>
        .bind (.ensure _ _) fun _ => .bind (agrees_exec (within_insert OwnedTable.events ?_)
          (fun _ => rfl) fun _ => rfl) fun _ => .bind agrees_newId fun messageId =>
        .bind (agrees_exec (within_insert OwnedTable.outboxMessages ?_) (fun _ => rfl)
          fun _ => rfl) fun _ => .pure _
      · rw [← sequenceTaken_portion h₀ h.left (hrow eventId sequence now),
          ← sequenceTaken_portion h₀' h.right (hn ▸ hrow eventId sequence now), h.db]
      · exact List.forall_mem_singleton.mpr ((own_company t).mpr hcompany)
      · exact List.forall_mem_singleton.mpr ((own_company t).mpr hcompany)

/-! ## Idempotency records -/

theorem isRecordOf_own {options : CommandOptions} (hactor : options.actorId = t.founderId)
    (r : IdempotencyRecordRow) (hr : CommandExecutor.isRecordOf options r = true) :
    t.own.has (.founder r.actorId) = true := by
  rw [own_founder, ← hactor]
  exact (of_decide_eq_true hr).1

theorem agrees_reserve {options : CommandOptions} (hactor : options.actorId = t.founderId)
    (digest : Digest) :
    Prog.Agrees (t.Alike w₀ w₀') (CommandExecutor.reserve options digest) := by
  refine .bind agrees_newId fun id => .bind (agrees_sees
    (sees_any OwnedTable.idempotencyRecords (isRecordOf_own hactor))) fun _ => .ite (.pure _) ?_
  refine .bind (agrees_sees (sees_any OwnedTable.founders fun f hf => ?_)) fun _ =>
    .bind (.ensure _ _) fun _ => agrees_exec (within_insert OwnedTable.idempotencyRecords ?_)
      (fun _ => rfl) fun _ => rfl
  · exact (own_founder t).mpr ((of_decide_eq_true hf).trans hactor)
  · exact List.forall_mem_singleton.mpr ((own_founder t).mpr hactor)

theorem agrees_run {rt : Runtime} {options : CommandOptions}
    (hactor : options.actorId = t.founderId)
    (hexecute : Prog.Agrees (t.Alike w₀ w₀') options.execute) :
    Prog.Agrees (t.Alike w₀ w₀') (CommandExecutor.run rt options) := by
  refine agrees_transaction (.bind (agrees_reserve hactor _) fun _ => .bind (agrees_sees
    (sees_filter OwnedTable.idempotencyRecords (isRecordOf_own hactor))) fun _ =>
    .bind (.require _ _) fun record => .bind (.ensure _ _) fun _ => ?_)
  cases CommandExecutor.replay record with
  | some result => exact .pure result
  | none =>
      exact .bind hexecute fun response => .bind (agrees_exec
        (within_update OwnedTable.idempotencyRecords (fun _ => rfl) (isRecordOf_own hactor))
        (fun _ => rfl) fun _ => rfl) fun _ => .pure _

/-! ## Companies -/

theorem companyQuery_portion {db : Db} {p : CompanyRow → Bool}
    (hcompany : ∀ c ∈ db.companies, c.founderId = t.founderId → c.id = t.companyId)
    (hp : ∀ c, p c = true → c.founderId = t.founderId) :
    Companies.companyQuery p (db.portion t.own) = Companies.companyQuery p db := by
  have hcompanies : (db.portion t.own).companies.filter p = db.companies.filter p :=
    sees_filter OwnedTable.companies (fun c hc => (own_founder t).mpr (hp c hc)) db
  unfold Companies.companyQuery
  rw [hcompanies]
  apply List.flatMap_congr
  intro c hc
  obtain ⟨hc, hpc⟩ := List.mem_filter.mp hc
  have hid := hcompany c hc (hp c hpc)
  apply congrArg (List.map _)
  apply sees_filter OwnedTable.companyProfileVersions
  intro v hv
  exact (own_company t).mpr ((of_decide_eq_true hv).1.trans hid)

theorem id_of_companyQuery {p : CompanyRow → Bool} (h : t.Beside w₀ w)
    (hp : ∀ c, p c = true → c.founderId = t.founderId) :
    ∀ row ∈ Companies.companyQuery p w.db, row.1.id = t.companyId := by
  intro row hrow
  obtain ⟨c, hc, hmem⟩ := List.mem_flatMap.mp hrow
  obtain ⟨v, -, rfl⟩ := List.mem_map.mp hmem
  obtain ⟨hc, hpc⟩ := List.mem_filter.mp hc
  exact h.company c hc (hp c hpc)

theorem agrees_companyQuery {p : CompanyRow → Bool}
    (hp : ∀ c, p c = true → c.founderId = t.founderId) :
    Prog.Agrees (t.Alike w₀ w₀') (Op.query (Companies.companyQuery p)) :=
  agrees_query fun w w' h => by
    rw [← companyQuery_portion h.left.company hp, ← companyQuery_portion h.right.company hp, h.db]

variable {actor : RequestActor}

theorem isCompanyOf_founder (hactor : actor.id = t.founderId) (c : CompanyRow)
    (hc : Companies.isCompanyOf actor.id c = true) : c.founderId = t.founderId :=
  (of_decide_eq_true hc).1.trans hactor

theorem agrees_insertProfile {row : CompanyProfileVersionRow}
    (hrow : row.companyId = t.companyId) :
    Prog.Agrees (t.Alike w₀ w₀') (Companies.insertProfile row) := by
  refine .bind (.ensure _ _) fun _ => .bind (.ensure _ _) fun _ => .bind (agrees_sees
    (sees_any OwnedTable.companyProfileVersions fun v hv => ?_)) fun _ =>
    .bind (.ensure _ _) fun _ => agrees_exec (within_insert OwnedTable.companyProfileVersions ?_)
      (fun _ => rfl) fun _ => rfl
  · exact (own_company t).mpr ((of_decide_eq_true hv).1.trans hrow)
  · exact List.forall_mem_singleton.mpr ((own_company t).mpr hrow)

theorem agrees_setCurrentProfile (hactor : actor.id = t.founderId) (companyId profileId : Uuid)
    (bump : ℕ) (now : Timestamp) :
    Prog.Agrees (t.Alike w₀ w₀')
      (Companies.setCurrentProfile companyId actor.id profileId bump now) := by
  refine agrees_exec_of (within_update OwnedTable.companies (fun _ => rfl) fun c hc => ?_)
    (fun db h => ?_) fun db i hi => .inl ⟨i, hi, rfl, rfl⟩
  · exact (own_founder t).mpr ((of_decide_eq_true hc).2.trans hactor)
  · refine Table.forall_mem_updateWhere.mpr fun c hc => ?_
    split
    · exact h c hc
    · exact h c hc

theorem agrees_getByIdWithRunner (hactor : actor.id = t.founderId) (companyId : Uuid) :
    Prog.Agrees (t.Alike w₀ w₀') (Companies.getByIdWithRunner companyId actor.id) :=
  .bind (agrees_companyQuery fun c hc => isCompanyOf_founder hactor c (of_decide_eq_true hc).2)
    fun _ => .require _ _

theorem agrees_replaceProfile (h₀ : t.WellFormed w₀) (h₀' : t.WellFormed w₀')
    (hn : w₀.nextId = w₀'.nextId) (hactor : actor.id = t.founderId) (expectedVersion : ℕ)
    (correlationId : UuidText) (dto : CompanyProfileDto) :
    Prog.Agrees (t.Alike w₀ w₀')
      (Companies.replaceProfile actor expectedVersion correlationId dto) := by
  have hp := isCompanyOf_founder hactor
  refine .bind_of (Q := fun rows => ∀ row ∈ rows, row.1.id = t.companyId)
    (agrees_companyQuery hp) (fun w w' rows v h hrun => ?_) fun rows hrows => ?_
  · obtain rfl := Except.ok.inj (congrArg Prod.fst hrun)
    exact id_of_companyQuery h.left hp
  refine .bind_of (Q := fun row => row.1.id = t.companyId) (.require _ _)
    (fun w w' row v h hrun => ?_) fun current hid => ?_
  · exact hrows row (List.mem_of_head? (Prog.require_eq_ok.mp hrun).1)
  refine .bind (.ensure _ _) fun _ => .bind agrees_newId fun profileId =>
    .bind agrees_now fun now => .bind (agrees_insertProfile hid) fun _ =>
    .bind (agrees_setCurrentProfile hactor _ _ _ _) fun _ =>
    .bind (agrees_append h₀ h₀' hn hid nofun) fun _ =>
    .bind (agrees_getByIdWithRunner hactor _) fun _ => .pure _

theorem agrees_assertProfile (profile : CompanyProfileDto) :
    Prog.Agrees (t.Alike w₀ w₀') (CompanyProfilePolicy.assertProfile profile) :=
  .bind (.ensure _ _) fun _ => .ensure _ _

theorem agrees_updateProfile (h₀ : t.WellFormed w₀) (h₀' : t.WellFormed w₀')
    (hn : w₀.nextId = w₀'.nextId) (hactor : actor.id = t.founderId) (rt : Runtime)
    (idempotencyKey : Uuid) (expectedVersion : ℕ) (correlationId : UuidText)
    (dto : CompanyProfileDto) :
    Prog.Agrees (t.Alike w₀ w₀')
      (Companies.updateProfile rt actor idempotencyKey expectedVersion correlationId dto) :=
  .bind (agrees_assertProfile dto) fun _ => agrees_run hactor
    (agrees_replaceProfile h₀ h₀' hn hactor expectedVersion correlationId dto)

/-! ## Initiatives -/

/-- What others refer to is not `initiativeId`. -/
def Apart (t : TenantScope) (w₀ w₀' : World) (initiativeId : Uuid) : Prop :=
  ∀ g ∈ w₀.db.goalVersions ++ w₀'.db.goalVersions, g.companyId ≠ t.companyId →
    g.initiativeId ≠ initiativeId

theorem apart_of_le (h₀ : t.WellFormed w₀) (h₀' : t.WellFormed w₀')
    (hn : w₀.nextId = w₀'.nextId) {id : Uuid} (hid : w₀.nextId ≤ id) : t.Apart w₀ w₀' id := by
  intro g hg hother heq
  rcases List.mem_append.mp hg with hg | hg
  · exact absurd (h₀.goals g hg hother) (Nat.not_lt.mpr (heq ▸ hid))
  · exact absurd (h₀'.goals g hg hother) (Nat.not_lt.mpr (heq ▸ hn ▸ hid))

theorem Alike.apart (h : t.Alike w₀ w₀' w w') {i : InitiativeRow} (hi : i ∈ w.db.initiatives)
    (hown : i.companyId = t.companyId) : t.Apart w₀ w₀' i.id := by
  have hmem : i ∈ w.db.initiatives.filter fun i => t.own.has (.company i.companyId) :=
    List.mem_filter.mpr ⟨hi, (own_company t).mpr hown⟩
  have hrows := h.rows OwnedTable.initiatives
  have hi' : i ∈ w'.db.initiatives := List.mem_of_mem_filter (hrows ▸ hmem)
  intro g hg hother
  rcases List.mem_append.mp hg with hg | hg
  · exact h.left.initiatives g hg hother i hi hown
  · exact h.right.initiatives g hg hother i hi' hown

theorem isActivePrototype_own (i : InitiativeRow)
    (hi : Initiatives.isActivePrototype t.companyId i = true) :
    t.own.has (.company i.companyId) = true :=
  (own_company t).mpr (of_decide_eq_true hi).1

theorem agrees_openInitiative (h₀ : t.WellFormed w₀) (h₀' : t.WellFormed w₀')
    (hn : w₀.nextId = w₀'.nextId) (actor : RequestActor) (correlationId : UuidText)
    (dto : CreateInitiativeDto) :
    Prog.Agrees (t.Alike w₀ w₀')
      (Initiatives.openInitiative t.companyId actor correlationId dto) := by
  refine .bind (agrees_sees (sees_filter OwnedTable.initiatives isActivePrototype_own))
    fun _ => .bind (.ensure _ _) fun _ =>
    .bind_of agrees_newId (fun w w' id v h hrun => le_of_newId h hrun) fun initiativeId hid =>
    .bind agrees_now fun now => .bind (.ensure _ _) fun _ => .bind ?_ fun _ =>
    .bind (agrees_append h₀ h₀' hn rfl nofun) fun _ => .pure _
  refine agrees_exec_of (within_insert OwnedTable.initiatives ?_) (fun _ h => h)
    fun db i hi => ?_
  · exact List.forall_mem_singleton.mpr ((own_company t).mpr rfl)
  · rcases List.mem_append.mp hi with hi | hi
    · exact .inl ⟨i, hi, rfl, rfl⟩
    · rw [List.mem_singleton.mp hi]
      exact .inr (apart_of_le h₀ h₀' hn hid)

theorem agrees_createInitiative (h₀ : t.WellFormed w₀) (h₀' : t.WellFormed w₀')
    (hn : w₀.nextId = w₀'.nextId) (hactor : actor.id = t.founderId)
    (hcompany : actor.companyId = some t.companyId) (rt : Runtime) (idempotencyKey : Uuid)
    (correlationId : UuidText) (dto : CreateInitiativeDto) :
    Prog.Agrees (t.Alike w₀ w₀')
      (Initiatives.create rt actor idempotencyKey correlationId dto) :=
  .require_bind hcompany (.catchError
    (agrees_run hactor (agrees_openInitiative h₀ h₀' hn actor correlationId dto))
    fun _ => .throw _)

/-! ## Attachments of a goal version -/

theorem agrees_linkAll (goalVersionId : Uuid) (rows : List ObjectRecordRow)
    (attachmentIds : List UuidText) (ordinal aggregate : ℕ) :
    Prog.Agrees (t.Alike w₀ w₀')
      (Attachments.linkAll t.companyId goalVersionId rows ordinal aggregate attachmentIds) := by
  induction attachmentIds generalizing ordinal aggregate with
  | nil => exact .pure _
  | cons attachmentId rest ih =>
      refine .bind (.require _ _) fun row => .bind agrees_now fun _ => .bind (.ensure _ _)
        fun _ => .bind (.ensure _ _) fun _ => .bind (agrees_exec
        (within_insert OwnedTable.goalVersionAttachments ?_) (fun _ => rfl) fun _ => rfl)
        fun _ => ih _ _
      exact List.forall_mem_singleton.mpr ((own_company t).mpr rfl)

theorem agrees_bindToGoalVersion (goalVersionId : Uuid) (attachmentIds : List UuidText) :
    Prog.Agrees (t.Alike w₀ w₀')
      (Attachments.bindToGoalVersion t.companyId goalVersionId attachmentIds) := by
  refine .ite (.pure _) (.bind (.ensure _ _) fun _ => .bind (.ensure _ _) fun _ =>
    .bind (agrees_sees (sees_filter OwnedTable.objectRecords fun o ho => ?_)) fun _ =>
    .bind (.ensure _ _) fun _ => agrees_linkAll _ _ _ _ _)
  exact (own_company t).mpr (of_decide_eq_true ho).1

/-! ## Starting a run -/

theorem agrees_drawRunIds (needsClarification : Bool) :
    Prog.Agrees (t.Alike w₀ w₀') (Initiatives.drawRunIds needsClarification) :=
  .bind agrees_newId fun _ => .bind agrees_newId fun _ => .bind agrees_newId fun _ =>
    .ite (.bind agrees_newId fun _ => .pure _)
      (.bind agrees_newId fun _ => .bind agrees_newId fun _ => .pure _)

theorem le_runId_of_drawRunIds {needsClarification : Bool} {ids : Initiatives.RunIds} {v : World}
    (h : t.Alike w₀ w₀' w w')
    (hrun : Initiatives.drawRunIds needsClarification w = (.ok ids, v)) :
    w₀.nextId ≤ ids.runId := by
  rw [Initiatives.drawRunIds_run] at hrun
  obtain rfl := Except.ok.inj (congrArg Prod.fst hrun)
  exact Nat.le_add_right_of_le h.left.nextId

theorem versionTaken_portion (h : t.Beside w₀ w) {initiativeId : Uuid} (version : ℕ)
    (hapart : ∀ g ∈ w₀.db.goalVersions, g.companyId ≠ t.companyId →
      g.initiativeId ≠ initiativeId) :
    ((w.db.portion t.own).goalVersions.any fun g =>
        g.initiativeId = initiativeId ∧ g.version = version) =
      w.db.goalVersions.any fun g => g.initiativeId = initiativeId ∧ g.version = version := by
  refine Table.any_filter_of_imp fun g hg htaken => ?_
  by_contra hother
  have hmem := h.mem OwnedTable.goalVersions hg (Bool.eq_false_of_not_eq_true hother)
  exact hapart g hmem (fun heq => hother ((own_company t).mpr heq)) (of_decide_eq_true htaken).1

theorem sees_nextGoalVersion (initiativeId : Uuid) :
    t.Sees fun db =>
      Initiatives.nextGoalVersion t.companyId initiativeId db.goalVersions := by
  intro db
  have hrows := sees_filter OwnedTable.goalVersions (t := t)
    (q := fun g => g.companyId = t.companyId ∧ g.initiativeId = initiativeId)
    (fun g hg => (own_company t).mpr (of_decide_eq_true hg).1) db
  exact congrArg (fun rows => (rows.map GoalVersionRow.version).foldl max 0 + 1) hrows

theorem agrees_insertRun (services : Services) (initiativeId : Uuid) (ids : Initiatives.RunIds)
    (profileVersionId : Uuid) (qualification : GoalQualification) (needsClarification : Bool)
    (now : Timestamp) :
    Prog.Agrees (t.Alike w₀ w₀') (Initiatives.insertRun services t.companyId initiativeId ids
      profileVersionId qualification needsClarification now) := by
  have hown : t.own.has (.company t.companyId) = true := (own_company t).mpr rfl
  refine .bind (agrees_exec (within_insert OwnedTable.contextSnapshots ?_) (fun _ => rfl)
    fun _ => rfl) fun _ => .bind (agrees_exec (within_insert OwnedTable.runs ?_) (fun _ => rfl)
    fun _ => rfl) fun _ => .bind (agrees_exec (within_insert OwnedTable.runEventCounters ?_)
    (fun _ => rfl) fun _ => rfl) fun _ => .bind (agrees_exec (within_insert OwnedTable.tasks ?_)
    (fun _ => rfl) fun _ => rfl) fun _ => .bind (.ensure _ _) fun _ => .bind (agrees_exec
    (within_insert OwnedTable.goalQualifications ?_) (fun _ => rfl) fun _ => rfl) fun _ =>
    agrees_exec (within_insert OwnedTable.budgetLedgers ?_) (fun _ => rfl) fun _ => rfl
  · exact List.forall_mem_singleton.mpr hown
  · exact List.forall_mem_singleton.mpr hown
  · exact List.forall_mem_singleton.mpr hown
  · exact List.forall_mem_map.mpr fun _ _ => hown
  · exact List.forall_mem_singleton.mpr hown
  · exact List.forall_mem_cons.mpr ⟨hown, List.forall_mem_singleton.mpr hown⟩

theorem agrees_startRun (h₀ : t.WellFormed w₀) (h₀' : t.WellFormed w₀')
    (hn : w₀.nextId = w₀'.nextId) (hactor : actor.id = t.founderId) (services : Services)
    (initiativeId : UuidText) (expectedVersion : ℕ) (correlationId : UuidText)
    (dto : CreateGoalDto) (qualification : GoalQualification) :
    Prog.Agrees (t.Alike w₀ w₀') (Initiatives.startRun services t.companyId actor initiativeId
      expectedVersion correlationId dto qualification) := by
  -- the initiative is the company's once its row is found
  refine .bind_of (Q := fun rows => rows ≠ [] → t.Apart w₀ w₀' initiativeId.value)
    (agrees_sees (sees_filter OwnedTable.initiatives fun i hi => ?_))
    (fun w w' rows v h hrun hne => ?_) fun rows hrows => ?_
  · exact (own_company t).mpr (of_decide_eq_true hi).1
  · obtain rfl := Except.ok.inj (congrArg Prod.fst hrun)
    obtain ⟨i, hi⟩ := List.exists_mem_of_ne_nil _ hne
    obtain ⟨hi, hfound⟩ := List.mem_filter.mp hi
    obtain ⟨hcompany, hid, -⟩ := of_decide_eq_true hfound
    exact hid ▸ h.apart hi hcompany
  refine .bind_of (Q := fun _ => t.Apart w₀ w₀' initiativeId.value) (.require _ _)
    (fun w w' i v h hrun => ?_) fun initiative hapart => ?_
  · exact hrows (List.ne_nil_of_mem (List.mem_of_head? (Prog.require_eq_ok.mp hrun).1))
  refine .bind (.ensure _ _) fun _ => .bind (agrees_sees (Sees.map (sees_filter
    OwnedTable.companies fun c hc => ?_) _)) fun profileRows => .bind (agrees_sees
    (sees_nextGoalVersion _)) fun version => .bind_of (agrees_drawRunIds _)
    (fun w w' ids v h hrun => le_runId_of_drawRunIds h hrun) fun ids hids => ?_
  · exact (own_founder t).mpr ((of_decide_eq_true hc).2.trans hactor)
  have hrun : ∀ r, some (UuidText.ofUuid ids.runId) = some r → w₀.nextId ≤ r.value := by
    rintro _ ⟨⟩
    exact hids
  refine .bind agrees_now fun now => .bind (agrees_query fun w w' h => ?_) fun _ =>
    .bind (.ensure _ _) fun _ => .bind (agrees_exec (within_insert OwnedTable.goalVersions ?_)
      (fun _ => rfl) fun _ => rfl) fun _ => .bind (agrees_bindToGoalVersion _ _) fun _ =>
    .bind ?_ fun _ => .bind (.require _ _) fun _ => .bind (.require _ _) fun _ =>
    .bind (agrees_insertRun _ _ _ _ _ _ _) fun _ =>
    .bind (agrees_append h₀ h₀' hn rfl ?_) fun _ =>
    .bind (agrees_append h₀ h₀' hn rfl ?_) fun _ => .pure _
  · rw [← versionTaken_portion h.left version fun g hg => hapart g (List.mem_append_left _ hg),
      ← versionTaken_portion h.right version fun g hg => hapart g (List.mem_append_right _ hg),
      h.db]
  · exact List.forall_mem_singleton.mpr ((own_company t).mpr rfl)
  · refine agrees_exec_of (within_update OwnedTable.initiatives (fun i => ?_) fun i hi => ?_)
      (fun _ h => h) fun db i hi => ?_
    · rfl
    · exact (own_company t).mpr (of_decide_eq_true hi).1
    · obtain ⟨i₀, hi₀, rfl⟩ := Table.mem_updateWhere.mp hi
      refine .inl ⟨i₀, hi₀, ?_⟩
      split
      · exact ⟨rfl, rfl⟩
      · exact ⟨rfl, rfl⟩
  · exact hrun
  · exact hrun

theorem agrees_createGoalAndRun (h₀ : t.WellFormed w₀) (h₀' : t.WellFormed w₀')
    (hn : w₀.nextId = w₀'.nextId) (hactor : actor.id = t.founderId)
    (hcompany : actor.companyId = some t.companyId) (services : Services)
    (initiativeId : UuidText) (expectedVersion : ℕ) (idempotencyKey : Uuid)
    (correlationId : UuidText) (dto : CreateGoalDto) :
    Prog.Agrees (t.Alike w₀ w₀') (Initiatives.createGoalAndRun services actor initiativeId
      expectedVersion idempotencyKey correlationId dto) :=
  .require_bind hcompany (.bind (.bind (.ensure _ _) fun _ => .pure _) fun _ =>
    .bind (.ensure _ _) fun _ => agrees_run hactor
      (agrees_startRun h₀ h₀' hn hactor services initiativeId expectedVersion correlationId dto _))

/-! ## Attachments -/

/-- An object of the company is put among those of the company. -/
theorem storePut_portion {key : JsString} (hkey : t.own.hasKey key = true) (body : Bytes)
    (w : World) : (Attachments.storePut key body w).2.portion t.own =
      (Attachments.storePut key body (w.portion t.own)).2 := by
  have hobjects :
      ((key, body) :: w.objects.filter fun o => o.1 ≠ key).filter (fun o => t.own.hasKey o.1) =
        (key, body) :: (w.objects.filter fun o => t.own.hasKey o.1).filter fun o => o.1 ≠ key := by
    rw [List.filter_cons_of_pos (by exact hkey), List.filter_filter, List.filter_filter]
    simp only [Bool.and_comm]
  exact congrArg (fun objects => { w.portion t.own with objects := objects }) hobjects

theorem beside_storePut {key : JsString} (hkey : t.own.hasKey key = true) (body : Bytes)
    (h : t.Beside w₀ w) : t.Beside w₀ (Attachments.storePut key body w).2 := by
  have hobjects :
      ((key, body) :: w.objects.filter fun o => o.1 ≠ key).filter (fun o => !t.own.hasKey o.1) =
        w.objects.filter fun o => !t.own.hasKey o.1 := by
    rw [List.filter_cons_of_neg (by simp [hkey])]
    apply Table.filter_filter_of_imp
    intro o ho
    simp only [decide_eq_true_eq]
    rintro rfl
    rw [hkey] at ho
    cases ho
  exact { h with objects := hobjects.trans h.objects }

theorem agrees_storePut {key : JsString} (hkey : t.own.hasKey key = true) (body : Bytes) :
    Prog.Agrees (t.Alike w₀ w₀') (Attachments.storePut key body) := by
  intro w w' h
  refine ⟨rfl, ⟨?_, beside_storePut hkey body h.left, beside_storePut hkey body h.right⟩⟩
  rw [storePut_portion hkey, storePut_portion hkey, h.same]

theorem hasKey_buildObjectKey (objectId : Uuid) (version : ℕ) :
    t.own.hasKey (buildObjectKey t.companyId .attachment objectId version) = true := by
  simp only [own, List.isPrefixOf_iff_prefix]
  exact objectKeyScope_isPrefix t.companyId .attachment objectId version

theorem agrees_storeAttachment (h₀ : t.WellFormed w₀) (h₀' : t.WellFormed w₀')
    (hn : w₀.nextId = w₀'.nextId) (correlationId : UuidText) (body : Bytes)
    (validated : AttachmentValidationSuccess) :
    Prog.Agrees (t.Alike w₀ w₀')
      (Attachments.storeAttachment t.companyId actor correlationId body validated) := by
  refine .bind agrees_newId fun objectId => .bind (agrees_exec
    (within_insert OwnedTable.objectRecords ?_) (fun _ => rfl) fun _ => rfl) fun _ =>
    .bind (agrees_storePut (hasKey_buildObjectKey objectId 1) body) fun _ =>
    .bind (agrees_append h₀ h₀' hn rfl nofun) fun _ => .pure _
  exact List.forall_mem_singleton.mpr ((own_company t).mpr rfl)

theorem agrees_ingest (h₀ : t.WellFormed w₀) (h₀' : t.WellFormed w₀')
    (hn : w₀.nextId = w₀'.nextId) (hactor : actor.id = t.founderId)
    (hcompany : actor.companyId = some t.companyId) (rt : Runtime) (checks : AttachmentChecks)
    (idempotencyKey : Uuid) (correlationId : UuidText) (dto : CreateAttachmentDto) :
    Prog.Agrees (t.Alike w₀ w₀')
      (Attachments.ingest rt checks actor idempotencyKey correlationId dto) := by
  have hrejected : ∀ error sizeBytes, Prog.Agrees (t.Alike w₀ w₀')
      (Attachments.auditRejection t.companyId actor correlationId error dto sizeBytes) :=
    fun _ _ => agrees_transaction (.bind (agrees_append h₀ h₀' hn rfl nofun) fun _ => .pure _)
  have hstored : ∀ body validated, Prog.Agrees (t.Alike w₀ w₀')
      (Attachments.storeAttachment t.companyId actor correlationId body validated) :=
    fun body validated => agrees_storeAttachment h₀ h₀' hn correlationId body validated
  refine .require_bind hcompany ?_
  rcases checks.decodeBody dto.contentBase64 with e | body
  · exact .throw _
  · rcases hvalid : checks.validateAttachmentIngest dto body with e | validated
    · simp only [hvalid]
      exact .ite (.bind (hrejected e body.length) fun _ => .throw _) (.throw _)
    · simp only [hvalid]
      exact agrees_run hactor (hstored body validated)

end TenantScope

end Aico
