import Aico.Companies.Companies

/-!
# What the commands on a company commit

`create` that returns has replayed an earlier answer or has inserted a company with
the first version of its profile; `updateProfile` has inserted the next version of
the profile and counted the company's row version up.
-/

namespace Aico.Companies

variable {rt : Runtime} {actor : RequestActor} {correlationId : UuidText} {w w' : World}
  {u : PUnit} {R : World → World → Prop} [ViewOrder Db.workflow R]

theorem insertProfile_eq_ok {row : CompanyProfileVersionRow}
    (h : insertProfile row w = (.ok u, w')) :
    w' = { w with
      db := { w.db with companyProfileVersions := w.db.companyProfileVersions ++ [row] } } := by
  obtain ⟨_, w₁, hpurpose, h₁⟩ := Prog.bind_eq_ok.mp h
  obtain ⟨-, rfl⟩ := Prog.ensure_eq_ok.mp hpurpose
  obtain ⟨_, w₂, hcustomer, h₂⟩ := Prog.bind_eq_ok.mp h₁
  obtain ⟨-, rfl⟩ := Prog.ensure_eq_ok.mp hcustomer
  rw [Op.query_bind] at h₂
  obtain ⟨_, w₃, htaken, h₃⟩ := Prog.bind_eq_ok.mp h₂
  obtain ⟨-, rfl⟩ := Prog.ensure_eq_ok.mp htaken
  exact Prog.modify_eq_ok.mp h₃

theorem insertProfile_keepsWorkflow (row : CompanyProfileVersionRow) :
    Prog.Respects R (insertProfile row) :=
  .bind (.ensure _ _) fun _ => .bind (.ensure _ _) fun _ => .bind (.query _) fun _ =>
    .bind (.ensure _ _) fun _ => .keepsWorkflow fun _ => rfl

theorem getByIdWithRunner_reads (companyId founderId : Uuid) :
    Prog.Respects (· = ·) (getByIdWithRunner companyId founderId) :=
  .bind (.query _) fun _ => .require _ _

theorem getByIdWithRunner_eq_ok {companyId founderId : Uuid}
    {row : CompanyRow × CompanyProfileVersionRow}
    (h : getByIdWithRunner companyId founderId w = (.ok row, w')) : w' = w := by
  have hreads := getByIdWithRunner_reads companyId founderId w
  rw [h] at hreads
  exact hreads.symm

def withProfile (profileId : Uuid) (bump : ℕ) (now : Timestamp) (c : CompanyRow) : CompanyRow :=
  { c with
    currentProfileVersionId := some profileId
    rowVersion := c.rowVersion + bump
    updatedAt := now }

def profileAdded (companyId founderId : Uuid) (row : CompanyProfileVersionRow) (bump : ℕ)
    (now : Timestamp) (db : Db) : Db :=
  { db with
    companies := Table.updateWhere (fun c => c.id = companyId ∧ c.founderId = founderId)
      (withProfile row.id bump now) db.companies
    companyProfileVersions := db.companyProfileVersions ++ [row] }

/-! ## Provisioning -/

def provisioned (actor : RequestActor) (dto : CreateCompanyDto) (n : ℕ) (now : Timestamp)
    (db : Db) : Db :=
  profileAdded n actor.id (profileRow n (n + 1) 1 actor dto.profile now) 0 now
    { db with companies := db.companies ++ [companyRow n actor dto.name now] }

theorem provision_eq_ok {dto : CreateCompanyDto} {response : CommandResponse}
    (h : provision actor correlationId dto w = (.ok response, w')) :
    (∀ c ∈ w.db.companies, c.founderId ≠ actor.id) ∧
      w' = DomainEvent.appended
        (companyCreatedEvent w.nextId (w.nextId + 1) actor correlationId) none
        { w with
          nextId := w.nextId + 2
          db := provisioned actor dto w.nextId w.now w.db } := by
  rw [provision, Op.query_bind] at h
  obtain ⟨_, w₁, hexisting, h₁⟩ := Prog.bind_eq_ok.mp h
  obtain ⟨hnone, rfl⟩ := Prog.ensure_eq_ok.mp hexisting
  rw [Op.newId_bind, Op.newId_bind, Op.now_bind] at h₁
  obtain ⟨_, w₂, hname, h₂⟩ := Prog.bind_eq_ok.mp h₁
  obtain ⟨-, rfl⟩ := Prog.ensure_eq_ok.mp hname
  rw [Op.exec_bind] at h₂
  obtain ⟨_, w₃, hinsert, h₃⟩ := Prog.bind_eq_ok.mp h₂
  obtain rfl := insertProfile_eq_ok hinsert
  rw [setCurrentProfile, Op.exec_bind] at h₃
  obtain ⟨_, w₄, happend, h₄⟩ := Prog.bind_eq_ok.mp h₃
  obtain ⟨sequence, hsequence, -, -, rfl⟩ := DomainEvent.append_eq_ok.mp happend
  obtain rfl : none = sequence := Except.ok.inj hsequence
  obtain ⟨company, w₅, hcompany, hpure⟩ := Prog.bind_eq_ok.mp h₄
  obtain rfl := getByIdWithRunner_eq_ok hcompany
  obtain ⟨-, rfl⟩ := Prog.pure_eq_ok.mp hpure
  refine ⟨fun c hc heq => ?_, rfl⟩
  simpa [heq] using List.filter_eq_nil_iff.mp hnone c hc

theorem provision_keepsWorkflow (dto : CreateCompanyDto) :
    Prog.Respects R (provision actor correlationId dto) :=
  .bind (.query _) fun _ => .bind (.ensure _ _) fun _ => .bind .newId fun _ =>
    .bind .newId fun _ => .bind .now fun _ => .bind (.ensure _ _) fun _ =>
    .bind (.keepsWorkflow fun _ => rfl) fun _ => .bind (insertProfile_keepsWorkflow _) fun _ =>
    .bind (.keepsWorkflow fun _ => rfl) fun _ =>
    .bind (DomainEvent.append_keepsWorkflow rfl) fun _ =>
    .bind (.of_reads (getByIdWithRunner_reads _ _)) fun _ => .pure _

def createCommand (actor : RequestActor) (idempotencyKey : Uuid) (correlationId : UuidText)
    (dto : CreateCompanyDto) : CommandOptions where
  actorId := actor.id
  operation := "companies.create"
  idempotencyKey := idempotencyKey
  request := dto.toJson
  execute := provision actor correlationId dto

theorem create_eq (idempotencyKey : Uuid) (dto : CreateCompanyDto) :
    create rt actor idempotencyKey correlationId dto = (do
      CompanyProfilePolicy.assertCreate dto.name dto.profile
      CommandExecutor.run rt (createCommand actor idempotencyKey correlationId dto)) := rfl

/-! ## Replacing the profile -/

def IsCurrent (db : Db) (founderId : Uuid) (c : CompanyRow) (v : CompanyProfileVersionRow) :
    Prop :=
  c ∈ db.companies ∧ v ∈ db.companyProfileVersions ∧ c.founderId = founderId ∧
    v.companyId = c.id ∧ c.currentProfileVersionId = some v.id

theorem isCurrent_of_mem_companyQuery {db : Db} {founderId : Uuid}
    {row : CompanyRow × CompanyProfileVersionRow}
    (h : row ∈ companyQuery (isCompanyOf founderId) db) : IsCurrent db founderId row.1 row.2 := by
  obtain ⟨c, hc, hrow⟩ := List.mem_flatMap.mp h
  obtain ⟨hc, hown⟩ := List.mem_filter.mp hc
  obtain ⟨v, hv, rfl⟩ := List.mem_map.mp hrow
  obtain ⟨hv, hcurrent⟩ := List.mem_filter.mp hv
  simp only [isCompanyOf, decide_eq_true_eq] at hown hcurrent
  exact ⟨hc, hv, hown.1, hcurrent.1, hcurrent.2.symm⟩

theorem replaceProfile_eq_ok {expectedVersion : ℕ} {dto : CompanyProfileDto}
    {response : CommandResponse}
    (h : replaceProfile actor expectedVersion correlationId dto w = (.ok response, w')) :
    ∃ c v, IsCurrent w.db actor.id c v ∧ v.version = expectedVersion ∧
      w' = DomainEvent.appended
        (profileVersionCreatedEvent c.id w.nextId (v.version + 1) actor correlationId) none
        { w with
          nextId := w.nextId + 1
          db := profileAdded c.id actor.id
            (profileRow c.id w.nextId (v.version + 1) actor dto w.now) 1 w.now w.db } := by
  rw [replaceProfile, Op.query_bind] at h
  obtain ⟨⟨c, v⟩, w₁, hcurrent, h₁⟩ := Prog.bind_eq_ok.mp h
  obtain ⟨hhead, rfl⟩ := Prog.require_eq_ok.mp hcurrent
  obtain ⟨_, w₂, hensure, h₂⟩ := Prog.bind_eq_ok.mp h₁
  obtain ⟨hversion, rfl⟩ := Prog.ensure_eq_ok.mp hensure
  rw [Op.newId_bind, Op.now_bind] at h₂
  obtain ⟨_, w₃, hinsert, h₃⟩ := Prog.bind_eq_ok.mp h₂
  obtain rfl := insertProfile_eq_ok hinsert
  rw [setCurrentProfile, Op.exec_bind] at h₃
  obtain ⟨_, w₄, happend, h₄⟩ := Prog.bind_eq_ok.mp h₃
  obtain ⟨sequence, hsequence, -, -, rfl⟩ := DomainEvent.append_eq_ok.mp happend
  obtain rfl : none = sequence := Except.ok.inj hsequence
  obtain ⟨company, w₅, hcompany, hpure⟩ := Prog.bind_eq_ok.mp h₄
  obtain rfl := getByIdWithRunner_eq_ok hcompany
  obtain ⟨-, rfl⟩ := Prog.pure_eq_ok.mp hpure
  exact ⟨c, v, isCurrent_of_mem_companyQuery (List.mem_of_mem_head? hhead), hversion, rfl⟩

theorem replaceProfile_keepsWorkflow (expectedVersion : ℕ) (dto : CompanyProfileDto) :
    Prog.Respects R (replaceProfile actor expectedVersion correlationId dto) :=
  .bind (.query _) fun _ => .bind (.require _ _) fun _ => .bind (.ensure _ _) fun _ =>
    .bind .newId fun _ => .bind .now fun _ => .bind (insertProfile_keepsWorkflow _) fun _ =>
    .bind (.keepsWorkflow fun _ => rfl) fun _ =>
    .bind (DomainEvent.append_keepsWorkflow rfl) fun _ =>
    .bind (.of_reads (getByIdWithRunner_reads _ _)) fun _ => .pure _

def updateCommand (actor : RequestActor) (idempotencyKey : Uuid) (expectedVersion : ℕ)
    (correlationId : UuidText) (dto : CompanyProfileDto) : CommandOptions where
  actorId := actor.id
  operation := "companies.profile.replace"
  idempotencyKey := idempotencyKey
  request := .object [("expectedVersion", .nat expectedVersion), ("dto", dto.toJson)]
  execute := replaceProfile actor expectedVersion correlationId dto

theorem updateProfile_eq (idempotencyKey : Uuid) (expectedVersion : ℕ)
    (dto : CompanyProfileDto) :
    updateProfile rt actor idempotencyKey expectedVersion correlationId dto = (do
      CompanyProfilePolicy.assertProfile dto
      CommandExecutor.run rt
        (updateCommand actor idempotencyKey expectedVersion correlationId dto)) := rfl

end Aico.Companies
