import Aico.Companies.CompaniesSteps
import Aico.Foundation.Transition
import Aico.Foundation.Version
import Aico.Initiatives.InitiativesSteps

/-!
# Commands on versioned resources

A company counts the versions of its profile and an initiative those of its goal.
Four commands write them; two of them carry the version the client has seen. A call
commits, replays an earlier answer or fails, and only a call that commits changes
the database (`VersionedCall.outcome`); what it changes in the four tables of
companies and initiatives is one of the steps of `VersionedStep`.
-/

namespace Aico

inductive VersionedCall where
  | createCompany (actor : RequestActor) (idempotencyKey : Uuid) (correlationId : UuidText)
      (dto : CreateCompanyDto)
  | updateProfile (actor : RequestActor) (idempotencyKey : Uuid) (expectedVersion : ℕ)
      (correlationId : UuidText) (dto : CompanyProfileDto)
  | createInitiative (actor : RequestActor) (idempotencyKey : Uuid) (correlationId : UuidText)
      (dto : CreateInitiativeDto)
  | createGoalAndRun (actor : RequestActor) (initiativeId : UuidText) (expectedVersion : ℕ)
      (idempotencyKey : Uuid) (correlationId : UuidText) (dto : CreateGoalDto)

namespace VersionedCall

def run (services : Services) : VersionedCall → Op CommandResult
  | createCompany actor idempotencyKey correlationId dto =>
      Companies.create services.runtime actor idempotencyKey correlationId dto
  | updateProfile actor idempotencyKey expectedVersion correlationId dto =>
      Companies.updateProfile services.runtime actor idempotencyKey expectedVersion
        correlationId dto
  | createInitiative actor idempotencyKey correlationId dto =>
      Initiatives.create services.runtime actor idempotencyKey correlationId dto
  | createGoalAndRun actor initiativeId expectedVersion idempotencyKey correlationId dto =>
      Initiatives.createGoalAndRun services actor initiativeId expectedVersion idempotencyKey
        correlationId dto

def operation : VersionedCall → String
  | createCompany .. => "companies.create"
  | updateProfile .. => "companies.profile.replace"
  | createInitiative .. => "initiatives.create"
  | createGoalAndRun .. => "initiatives.goals.create_and_start"

def actor : VersionedCall → RequestActor
  | createCompany actor .. | updateProfile actor .. | createInitiative actor ..
  | createGoalAndRun actor .. => actor

def idempotencyKey : VersionedCall → Uuid
  | createCompany _ key .. | updateProfile _ key .. | createInitiative _ key ..
  | createGoalAndRun _ _ _ key .. => key

def IsOwnRecord (call : VersionedCall) (r : IdempotencyRecordRow) : Prop :=
  r.actorId = call.actor.id ∧ r.operation = call.operation ∧
    r.idempotencyKey = call.idempotencyKey

end VersionedCall

/-- A resource that counts its versions: the company of a founder, or an
initiative. -/
inductive Resource where
  | company (founderId : Uuid)
  | initiative (initiativeId : Uuid)

def VersionedCall.expects : VersionedCall → Option (Resource × ℕ)
  | createCompany .. | createInitiative .. => none
  | updateProfile actor _ expectedVersion _ _ => some (.company actor.id, expectedVersion)
  | createGoalAndRun _ initiativeId expectedVersion _ _ _ =>
      some (.initiative initiativeId.value, expectedVersion)

@[ext] structure VersionedTables where
  companies : List CompanyRow
  companyProfileVersions : List CompanyProfileVersionRow
  initiatives : List InitiativeRow
  goalVersions : List GoalVersionRow

def Db.versioned (db : Db) : VersionedTables where
  companies := db.companies
  companyProfileVersions := db.companyProfileVersions
  initiatives := db.initiatives
  goalVersions := db.goalVersions

def VersionedTables.profileAdded (companyId founderId : Uuid) (row : CompanyProfileVersionRow)
    (bump : ℕ) (now : Timestamp) (t : VersionedTables) : VersionedTables :=
  { t with
    companies := Table.updateWhere (fun c => c.id = companyId ∧ c.founderId = founderId)
      (Companies.withProfile row.id bump now) t.companies
    companyProfileVersions := t.companyProfileVersions ++ [row] }

def Initiatives.withGoal (goalVersionId : Uuid) (now : Timestamp) (i : InitiativeRow) :
    InitiativeRow :=
  { i with
    currentGoalVersionId := some goalVersionId
    status := .active
    rowVersion := i.rowVersion + 1
    updatedAt := now }

/-- What a call that commits does to the tables, with the identifiers drawn so
far. -/
inductive VersionedStep : VersionedCall → ℕ → VersionedTables → ℕ → VersionedTables → Prop
  | provision (actor : RequestActor) (idempotencyKey : Uuid) (correlationId : UuidText)
      (dto : CreateCompanyDto) (n m n' : ℕ) (now : Timestamp) (t : VersionedTables)
      (hfounder : ∀ c ∈ t.companies, c.founderId ≠ actor.id) (hm : n ≤ m) (hn : m + 2 ≤ n') :
      VersionedStep (.createCompany actor idempotencyKey correlationId dto) n t n'
        (VersionedTables.profileAdded m actor.id
          (Companies.profileRow m (m + 1) 1 actor dto.profile now) 0 now
          { t with companies := t.companies ++ [Companies.companyRow m actor dto.name now] })
  | replaceProfile (actor : RequestActor) (idempotencyKey : Uuid) (expectedVersion : ℕ)
      (correlationId : UuidText) (dto : CompanyProfileDto) (n m n' : ℕ) (now : Timestamp)
      (t : VersionedTables) (c : CompanyRow) (v : CompanyProfileVersionRow)
      (hc : c ∈ t.companies) (hv : v ∈ t.companyProfileVersions)
      (hfounder : c.founderId = actor.id) (hcompany : v.companyId = c.id)
      (hcurrent : c.currentProfileVersionId = some v.id) (hversion : v.version = expectedVersion)
      (hm : n ≤ m) (hn : m + 1 ≤ n') :
      VersionedStep (.updateProfile actor idempotencyKey expectedVersion correlationId dto) n t n'
        (t.profileAdded c.id actor.id
          (Companies.profileRow c.id m (v.version + 1) actor dto now) 1 now)
  | openInitiative (actor : RequestActor) (idempotencyKey : Uuid) (correlationId : UuidText)
      (dto : CreateInitiativeDto) (companyId n m n' : ℕ) (now : Timestamp) (t : VersionedTables)
      (hnone : ∀ i ∈ t.initiatives, Initiatives.isActivePrototype companyId i = false)
      (hm : n ≤ m) (hn : m + 1 ≤ n') :
      VersionedStep (.createInitiative actor idempotencyKey correlationId dto) n t n'
        { t with
          initiatives := t.initiatives ++
            [Initiatives.initiativeRow companyId m dto.title.trim now] }
  | addGoal (actor : RequestActor) (initiativeId : UuidText) (expectedVersion : ℕ)
      (idempotencyKey : Uuid) (correlationId : UuidText) (dto : CreateGoalDto)
      (companyId n m n' : ℕ) (ids : Initiatives.RunIds) (now : Timestamp) (t : VersionedTables)
      (i : InitiativeRow) (hi : i ∈ t.initiatives) (hcompany : i.companyId = companyId)
      (hid : i.id = initiativeId.value) (hopen : i.status.isOpen = true)
      (hversion : i.rowVersion = expectedVersion) (hids : ids.goalVersionId = m)
      (hm : n ≤ m) (hn : m + 1 ≤ n') :
      VersionedStep (.createGoalAndRun actor initiativeId expectedVersion idempotencyKey
          correlationId dto) n t n'
        { t with
          goalVersions := t.goalVersions ++
            [Initiatives.goalVersionRow companyId initiativeId.value actor ids
              (Initiatives.nextGoalVersion companyId initiativeId.value t.goalVersions) dto now]
          initiatives := Table.updateWhere
            (fun i => i.companyId = companyId ∧ i.id = initiativeId.value)
            (Initiatives.withGoal ids.goalVersionId now) t.initiatives }

namespace VersionedCall

variable {services : Services} {call : VersionedCall} {w w' : World}

/-! ## Outcomes -/

/-- The call runs and its changes are committed. -/
def Commits (services : Services) (call : VersionedCall) (w : World) : Prop :=
  ∃ result w', call.run services w = (.ok result, w') ∧ result.replayed = false

/-- The call returns the answer recorded under its own key. -/
def Replays (services : Services) (call : VersionedCall) (w : World) : Prop :=
  (∃ result w', call.run services w = (.ok result, w') ∧ result.replayed = true) ∧
    ∃ r ∈ w.db.idempotencyRecords, call.IsOwnRecord r

/-- The call throws. -/
def Fails (services : Services) (call : VersionedCall) (w : World) : Prop :=
  ∃ failure w', call.run services w = (.error failure, w')

/-- What the commands below a call leave behind. -/
structure Settles (call : VersionedCall) (w : World) (outcome : Except Failure CommandResult × World) :
    Prop where
  failed : ∀ failure w', outcome = (.error failure, w') → w'.db = w.db
  returned : ∀ result w', outcome = (.ok result, w') →
    (result.replayed = true ∧ (∃ r ∈ w.db.idempotencyRecords, call.IsOwnRecord r) ∧
      w'.db = w.db) ∨
    (result.replayed = false ∧
      VersionedStep call w.nextId w.db.versioned w'.nextId w'.db.versioned)
  grows : w.nextId ≤ outcome.2.nextId

theorem settles_run {options : CommandOptions}
    (hoptions : ∀ r, CommandExecutor.isRecordOf options r = true → call.IsOwnRecord r)
    (hgrows : Prog.Respects World.Grows options.execute)
    (hexecute : ∀ rows response w₁,
      options.execute
        { w with
          nextId := w.nextId + 1
          db := { w.db with idempotencyRecords := rows } } = (.ok response, w₁) →
      VersionedStep call w.nextId w.db.versioned w₁.nextId w₁.db.versioned) :
    call.Settles w (CommandExecutor.run services.runtime options w) where
  failed failure w' h := CommandExecutor.run_error_db h
  returned result w' h := by
    rcases CommandExecutor.run_ok_cases h with
      ⟨hreplayed, hrecord, rfl⟩ | ⟨hnew, rows, response, w₁, hexec, rfl⟩
    · obtain ⟨record, hfind⟩ := Option.isSome_iff_exists.mp hrecord
      exact .inl ⟨hreplayed, ⟨record, List.mem_of_find?_eq_some hfind,
        hoptions record (List.find?_some hfind)⟩, rfl⟩
    · exact .inr ⟨hnew, hexecute rows response w₁ hexec⟩
  grows := CommandExecutor.run_dbFree hgrows w

/-- Checks before the command. -/
theorem settles_bind {α : Type} {p : Op α} {k : α → Op CommandResult}
    (hp : Prog.Respects (· = ·) p) (hk : ∀ a, call.Settles w (k a w)) :
    call.Settles w ((p >>= k) w) := by
  have hreads := hp w
  rw [Prog.bind_apply]
  rcases hrun : p w with ⟨failure | a, w₁⟩
  · rw [hrun] at hreads
    obtain rfl := hreads
    refine ⟨fun failure' w' h => ?_, fun result w' h => ?_, Nat.le_refl _⟩
    · obtain ⟨-, rfl⟩ := Prod.mk.inj h
      rfl
    · cases (Prod.mk.inj h).1
  · rw [hrun] at hreads
    obtain rfl := hreads
    exact hk a

/-- A handler that throws on. -/
theorem settles_throw {p : Op CommandResult} {f : Failure → Failure}
    (hp : call.Settles w (p w)) :
    call.Settles w (Prog.catchError p (fun failure => Prog.throw (f failure)) w) where
  failed failure w' h := by
    obtain ⟨failure', hrun⟩ := Prog.catchError_throw_eq_error h
    exact hp.failed failure' w' hrun
  returned result w' h := hp.returned result w' (Prog.catchError_throw_eq_ok.mp h)
  grows := by
    have hgrows := hp.grows
    rw [Prog.catchError_apply]
    rcases hrun : p w with ⟨_ | _, w₁⟩ <;> rw [hrun] at hgrows <;> exact hgrows

theorem isOwnRecord_of_isRecordOf {options : CommandOptions} {r : IdempotencyRecordRow}
    (hactor : options.actorId = call.actor.id) (hoperation : options.operation = call.operation)
    (hkey : options.idempotencyKey = call.idempotencyKey)
    (h : CommandExecutor.isRecordOf options r = true) : call.IsOwnRecord r := by
  simp only [CommandExecutor.isRecordOf, decide_eq_true_eq] at h
  exact ⟨h.1.trans hactor, h.2.1.trans hoperation, h.2.2.trans hkey⟩

/-- A call fails and changes nothing, replays and changes nothing, or takes a step
of the tables. -/
theorem settles (services : Services) (call : VersionedCall) (w : World) :
    call.Settles w (call.run services w) := by
  cases call with
  | createCompany actor idempotencyKey correlationId dto =>
      rw [run, Companies.create_eq]
      refine settles_bind (.bind (.ensure _ _) fun _ => .bind (.ensure _ _) fun _ => .ensure _ _)
        fun _ => settles_run (fun r => isOwnRecord_of_isRecordOf rfl rfl rfl)
          (Companies.provision_keepsWorkflow dto) fun rows response w₁ hexec => ?_
      obtain ⟨hfounder, rfl⟩ := Companies.provision_eq_ok hexec
      refine .provision actor idempotencyKey correlationId dto w.nextId (w.nextId + 1) _ w.now
        w.db.versioned hfounder (Nat.le_succ _) ?_
      exact Nat.le_add_right _ 2
  | updateProfile actor idempotencyKey expectedVersion correlationId dto =>
      rw [run, Companies.updateProfile_eq]
      refine settles_bind (.bind (.ensure _ _) fun _ => .ensure _ _)
        fun _ => settles_run (fun r => isOwnRecord_of_isRecordOf rfl rfl rfl)
          (Companies.replaceProfile_keepsWorkflow expectedVersion dto) fun rows response w₁ hexec => ?_
      obtain ⟨c, v, ⟨hc, hv, hfounder, hcompany, hcurrent⟩, hversion, rfl⟩ :=
        Companies.replaceProfile_eq_ok hexec
      refine .replaceProfile actor idempotencyKey expectedVersion correlationId dto w.nextId
        (w.nextId + 1) _ w.now w.db.versioned c v hc hv hfounder hcompany hcurrent hversion
        (Nat.le_succ _) ?_
      exact Nat.le_add_right _ 2
  | createInitiative actor idempotencyKey correlationId dto =>
      refine settles_bind (.require _ _) fun companyId => settles_throw <|
        settles_run (fun r => isOwnRecord_of_isRecordOf rfl rfl rfl)
          Initiatives.openInitiative_keepsWorkflow fun rows response w₁ hexec => ?_
      obtain ⟨hnone, rfl⟩ := Initiatives.openInitiative_eq_ok hexec
      refine .openInitiative actor idempotencyKey correlationId dto companyId w.nextId
        (w.nextId + 1) _ w.now w.db.versioned hnone (Nat.le_succ _) ?_
      exact Nat.le_add_right _ 2
  | createGoalAndRun actor initiativeId expectedVersion idempotencyKey correlationId dto =>
      refine settles_bind (.require _ _) fun companyId =>
        settles_bind (Initiatives.evaluate_reads _ _) fun qualification =>
        settles_bind (.ensure _ _) fun _ =>
        settles_run (fun r => isOwnRecord_of_isRecordOf rfl rfl rfl)
          Initiatives.startRun_dbFree fun rows response w₁ hexec => ?_
      obtain ⟨profileVersionId, sequence, sequence', hstartable, rfl⟩ :=
        Initiatives.startRun_eq_ok hexec
      obtain ⟨i, hi, hcompany, hid, hopen, hversion⟩ := hstartable.initiative
      refine .addGoal actor initiativeId expectedVersion idempotencyKey correlationId dto
        companyId w.nextId (w.nextId + 1) _ _ w.now w.db.versioned i hi hcompany hid hopen
        hversion rfl (Nat.le_succ _) ?_
      have hcount := Initiatives.four_le_idCount
        (decide (qualification.result = .needsClarification))
      change w.nextId + 1 + 1 ≤ w.nextId + 1 + Initiatives.idCount _ + 2 + 2
      omega

end VersionedCall

end Aico
