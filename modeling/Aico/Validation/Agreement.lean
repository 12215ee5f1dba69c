import Mathlib.Data.List.DropRight
import Mathlib.Data.List.TakeWhile
import Aico.Foundation.Triple
import Aico.Validation.CheckConstraints
import Aico.Validation.RequestBodies

/-!
# Validation agrees with storage

The four operations that write companies, initiatives and goals keep the CHECK
constraints of their tables, and a body that was accepted ends in none of their
errors, but for one: the title of an initiative is checked as it was sent and stored
trimmed. The texts of a profile are trimmed before they are checked.
-/

namespace JsString

/-! ## The length of a trimmed text -/

theorem charLength_append_le (s t : JsString) : charLength s ≤ charLength (s ++ t) := by
  fun_induction charLength s with
  | case1 => exact Nat.zero_le _
  | case2 u =>
      cases t with
      | nil => exact Nat.le_refl _
      | cons v t =>
          rw [List.singleton_append, charLength]
          split <;> omega
  | case3 u v rest hpair ih =>
      rw [List.cons_append, List.cons_append, charLength, if_pos hpair]
      omega
  | case4 u v rest hpair ih =>
      rw [List.cons_append, List.cons_append, charLength, if_neg hpair]
      exact Nat.succ_le_succ ih

/-- A code unit in front adds a character at most and takes none away. -/
theorem charLength_cons (u : UInt16) (s : JsString) :
    charLength s ≤ charLength (u :: s) ∧ charLength (u :: s) ≤ charLength s + 1 := by
  induction s generalizing u with
  | nil => exact ⟨Nat.zero_le _, Nat.le_refl _⟩
  | cons v rest ih =>
      have hrest := ih v
      rw [charLength]
      split <;> omega

theorem charLength_dropWhile_le (p : UInt16 → Bool) (s : JsString) :
    charLength (s.dropWhile p) ≤ charLength s := by
  induction s with
  | nil => exact Nat.le_refl _
  | cons u s ih =>
      rw [List.dropWhile_cons]
      split
      · exact ih.trans (charLength_cons u s).1
      · exact Nat.le_refl _

theorem charLength_trim_le (s : JsString) : charLength (trim s) ≤ charLength s := by
  obtain ⟨rest, hrest⟩ := List.rdropWhile_prefix isWhitespace (s.dropWhile isWhitespace)
  calc charLength (trim s) ≤ charLength (trim s ++ rest) := charLength_append_le _ _
    _ = charLength (s.dropWhile isWhitespace) := by rw [trim_eq, hrest]
    _ ≤ charLength s := charLength_dropWhile_le _ _

end JsString

namespace Json

theorem isArray_jsonb (elements : List Json) : (jsonb (.arr elements)).isArray = true := by
  rw [jsonb, reorder_arr]
  rfl

theorem arrayLength_jsonb (elements : List Json) :
    (jsonb (.arr elements)).arrayLength = elements.length := by
  rw [jsonb, reorder_arr]
  exact List.length_map _

end Json

namespace Aico

instance : DecidablePred Failure.IsCheckViolation
  | .constraint _ => inferInstanceAs (Decidable (_ ∈ _))
  | .domain _ | .error _ | .typeError => .isFalse id

/-- `p` keeps the constraints and ends in none of their errors. -/
abbrev KeepsChecks {α : Type} (p : Op α) : Prop :=
  Prog.Maintains (fun w => w.db.ChecksHold) Failure.IsCheckViolation (fun _ => True) p

end Aico

namespace Prog.Maintains

open Aico

/-! ## Statements that keep what holds of the database -/

variable {I : Db → Prop} {bad : Failure → Prop} {α : Type} {Q : α → Prop}

theorem newId : Maintains (fun w : World => I w.db) bad (fun _ => True) Op.newId where
  store _ hw := hw
  value _ _ _ _ := trivial
  error _ _ _ heq := by cases heq

theorem now : Maintains (fun w : World => I w.db) bad (fun _ => True) Op.now :=
  .gets fun _ _ => trivial

theorem query (f : Db → α) : Maintains (fun w : World => I w.db) bad (fun _ => True) (Op.query f) :=
  .gets fun _ _ => trivial

theorem exec {f : Db → Db} (hf : ∀ db, I db → I (f db)) :
    Maintains (fun w : World => I w.db) bad (fun _ => True) (Op.exec f) :=
  .modify trivial fun w hw => hf w.db hw

theorem transact {p : Op α} (hp : Maintains (fun w : World => I w.db) bad Q p) :
    Maintains (fun w : World => I w.db) bad Q (Op.transaction p) :=
  .transaction hp fun _ _ hw _ => hw

end Prog.Maintains

namespace Aico

/-- The tables the constraints are about. -/
def Db.checked (db : Db) : List CompanyRow × List CompanyProfileVersionRow ×
    List InitiativeRow × List GoalVersionRow × List GoalQualificationRow :=
  (db.companies, db.companyProfileVersions, db.initiatives, db.goalVersions,
    db.goalQualifications)

theorem Db.ChecksHold.of_checked {db db' : Db} (h : db.ChecksHold)
    (heq : db'.checked = db.checked) : db'.ChecksHold := by
  simp only [Db.checked, Prod.mk.injEq] at heq
  obtain ⟨hcompanies, hprofiles, hinitiatives, hgoals, hqualifications⟩ := heq
  constructor
  · exact hcompanies ▸ h.companies
  · exact hprofiles ▸ h.companyProfileVersions
  · exact hinitiatives ▸ h.initiatives
  · exact hgoals ▸ h.goalVersions
  · exact hqualifications ▸ h.goalQualifications

/-- A statement on other tables. -/
theorem KeepsChecks.other {f : Db → Db} (hf : ∀ db, (f db).checked = db.checked) :
    KeepsChecks (Op.exec f) :=
  .exec fun db h => h.of_checked (hf db)

theorem DomainEvent.append_keepsChecks (options : AppendEventOptions) :
    KeepsChecks (append options) := by
  refine .seq .newId fun eventId => .bind (Q := fun sequence => ∀ e, sequence = .error e →
    ¬ e.IsCheckViolation) (.gets fun w _ e he => ?_) fun sequence hsequence => ?_
  · dsimp only at he
    unfold allocated at he
    split at he
    · cases he
    · split at he
      · obtain rfl := Except.error.inj he
        decide
      · cases he
  · cases sequence with
    | error e => exact .throw (hsequence e rfl)
    | ok sequence =>
        refine .seq (KeepsChecks.other fun _ => rfl) fun _ => .seq .now fun now =>
          .seq (.query _) fun _ => .seq (.check (by decide)) fun _ =>
          .seq (KeepsChecks.other fun _ => rfl) fun _ => .seq .newId fun _ =>
          .seq (KeepsChecks.other fun _ => rfl) fun _ => .pure trivial

namespace CommandExecutor

theorem execute_keepsChecks {options : CommandOptions} (h : KeepsChecks options.execute) :
    KeepsChecks (execute options) :=
  .seq h fun _ => .seq (KeepsChecks.other fun _ => rfl) fun _ => .pure trivial

theorem reserve_keepsChecks (options : CommandOptions) (digest : Digest) :
    KeepsChecks (reserve options digest) :=
  .seq .newId fun _ => .seq (.query _) fun _ => .ite (fun _ => .pure trivial)
    fun _ => .seq (.query _) fun _ => .seq (.check (by decide)) fun _ =>
    KeepsChecks.other fun _ => rfl

/-- A command keeps the constraints when its callback does. -/
theorem run_keepsChecks (rt : Runtime) {options : CommandOptions}
    (h : KeepsChecks options.execute) : KeepsChecks (run rt options) := by
  refine .transact (.seq (reserve_keepsChecks _ _) fun _ => .seq (.query _) fun _ =>
    .seq (.requireSome (by decide)) fun record => .seq (.check id) fun _ => ?_)
  split
  · exact .pure trivial
  · exact execute_keepsChecks h

end CommandExecutor

/-! ## The rows of the operations -/

theorem CompanyProfileDto.check_profileRow {dto : CompanyProfileDto} (h : dto.isValid = true)
    (htrim : dto.transform = dto) (companyId profileId : Uuid) {version : ℕ}
    (hversion : 0 < version) (actor : RequestActor) (now : Timestamp) :
    (Companies.profileRow companyId profileId version actor dto now).check = true := by
  have hpurpose : dto.purpose.trim = dto.purpose := congrArg CompanyProfileDto.purpose htrim
  have htarget : dto.targetCustomer.trim = dto.targetCustomer :=
    congrArg CompanyProfileDto.targetCustomer htrim
  simp only [isValid, Bool.and_eq_true] at h
  obtain ⟨⟨⟨⟨hp, ht⟩, -⟩, -⟩, -⟩ := h
  simp only [CompanyProfileVersionRow.check, Companies.profileRow, hpurpose, htarget,
    Json.isArray_jsonb, NormalizedLimitsDto.toJson, Json.isObject_jsonb, Bool.and_true,
    Bool.and_eq_true, decide_eq_true_eq]
  exact ⟨⟨hversion, hp⟩, ht⟩

theorem CompanyProfileDto.transform_transform (dto : CompanyProfileDto) :
    dto.transform.transform = dto.transform := by
  simp only [transform, JsString.trim_trim]

theorem CreateCompanyDto.check_companyRow {dto : CreateCompanyDto} (h : dto.isValid = true)
    (htrim : dto.transform = dto) (companyId : Uuid) (actor : RequestActor) (now : Timestamp) :
    (Companies.companyRow companyId actor dto.name now).check = true := by
  have hname : dto.name.trim = dto.name := congrArg CreateCompanyDto.name htrim
  simp only [isValid, Bool.and_eq_true] at h
  simp only [CompanyRow.check, Companies.companyRow, hname, decide_true,
    Bool.and_true, zero_lt_one]
  exact h.1

theorem Initiatives.check_initiativeRow {title : JsString}
    (h : 3 ≤ title.charLength ∧ title.charLength ≤ 160) (companyId initiativeId : Uuid)
    (now : Timestamp) : (initiativeRow companyId initiativeId title now).check = true := by
  simp [InitiativeRow.check, initiativeRow, charLengthBetween, h]

theorem Initiatives.check_goalVersionRow {dto : CreateGoalDto} (h : dto.isValid = true)
    (companyId initiativeId : Uuid) (actor : RequestActor) (ids : RunIds) {version : ℕ}
    (hversion : 0 < version) (now : Timestamp) :
    (goalVersionRow companyId initiativeId actor ids version dto now).check = true := by
  have hschema : dto.schemaVersion = 1 := by
    simp only [CreateGoalDto.isValid, Bool.and_eq_true, decide_eq_true_eq] at h
    exact h.1.1.1
  simp [GoalVersionRow.check, goalVersionRow, hversion, hschema, canonicalStructuredGoal,
    Json.isObject_jsonb, Json.isArray]

theorem Initiatives.check_qualificationRow {qualification : GoalQualification}
    (h : qualificationCheck qualification = true) (companyId initiativeId : Uuid)
    (ids : RunIds) :
    (qualificationRow companyId initiativeId ids qualification).check = true := by
  rcases qualification with ⟨result, _, _, _, _, _, _, _⟩
  cases result <;>
    simpa [GoalQualificationRow.check, qualificationRow, qualificationCheck,
      QualificationResult.text, Json.isArray_jsonb, Json.arrayLength_jsonb] using h

theorem GoalQualification.proposalFor_ne_empty (codes : List String)
    (findings : List QualificationFinding) : proposalFor codes findings ≠ "" := by
  unfold proposalFor
  dsimp only
  rw [ne_eq, String.append_eq_empty_iff, String.append_eq_empty_iff, String.append_eq_empty_iff]
  rintro ⟨⟨⟨h, -⟩, -⟩, -⟩
  exact absurd h (by decide)

/-- A qualification has a proposal when it is out of scope and questions when it asks
for clarification, as its table demands. -/
theorem GoalQualification.qualificationCheck_evaluate (engine : RegExpEngine)
    (goal : StructuredGoalDto) :
    Initiatives.qualificationCheck (evaluateGoalQualification engine goal) = true := by
  have hlength : ((numbered (openQuestions engine goal)).take
      QualificationPolicy.maxClarificationQuestions).length ≤ 5 := List.length_take_le _ _
  unfold evaluateGoalQualification
  dsimp only
  generalize (numbered (openQuestions engine goal)).take
    QualificationPolicy.maxClarificationQuestions = questions at hlength ⊢
  generalize boundaryFindings engine goal ++ capabilityFindings engine (requestedText goal) =
    findings
  by_cases hcodes : uniqueReasonCodes findings = []
  · rw [if_neg (not_not.mpr hcodes)]
    cases questions with
    | nil => simp [Initiatives.qualificationCheck]
    | cons question rest => simpa [Initiatives.qualificationCheck] using hlength
  · rw [if_pos hcodes]
    simp only [Initiatives.qualificationCheck, if_true, reduceCtorEq, if_false, List.length_nil,
      decide_true, Bool.and_true, Option.any_some, decide_eq_true_eq]
    exact proposalFor_ne_empty _ _

/-! ## The operations -/

namespace CompanyProfilePolicy

theorem assertProfile_keepsChecks (profile : CompanyProfileDto) :
    KeepsChecks (assertProfile profile) :=
  .seq (.check id) fun _ => .check id

theorem assertCreate_keepsChecks (name : JsString) (profile : CompanyProfileDto) :
    KeepsChecks (assertCreate name profile) :=
  .seq (.check id) fun _ => assertProfile_keepsChecks profile

end CompanyProfilePolicy

namespace Companies

/-- The constraints of a profile are those its statement checks. -/
theorem insertProfile_keepsChecks {row : CompanyProfileVersionRow} (h : row.check = true) :
    KeepsChecks (insertProfile row) := by
  have hrow := h
  simp only [CompanyProfileVersionRow.check, Bool.and_eq_true] at h
  obtain ⟨⟨⟨⟨-, hpurpose⟩, htarget⟩, -⟩, -⟩ := h
  refine .seq (.ensure_of hpurpose) fun _ => .seq (.ensure_of htarget) fun _ =>
    .seq (.query _) fun _ => .seq (.check (by decide)) fun _ => .exec fun db hdb =>
    { hdb with companyProfileVersions := ?_ }
  intro row' hmem
  rcases List.mem_append.mp hmem with hmem | hmem
  · exact hdb.companyProfileVersions row' hmem
  · obtain rfl := List.mem_singleton.mp hmem
    exact hrow

theorem setCurrentProfile_keepsChecks (companyId founderId profileId : Uuid) (bump : ℕ)
    (now : Timestamp) : KeepsChecks (setCurrentProfile companyId founderId profileId bump now) := by
  refine .exec fun db hdb =>
    { hdb with companies := Table.forall_mem_updateWhere.mpr fun row hrow => ?_ }
  have hcheck := hdb.companies row hrow
  split
  · simp only [CompanyRow.check, Bool.and_eq_true, decide_eq_true_eq] at hcheck ⊢
    exact ⟨hcheck.1, Nat.add_pos_left hcheck.2 _⟩
  · exact hcheck

theorem provision_keepsChecks {dto : CreateCompanyDto} (h : dto.isValid = true)
    (htrim : dto.transform = dto) (actor : RequestActor) (correlationId : UuidText) :
    KeepsChecks (provision actor correlationId dto) := by
  have hprofile : dto.profile.isValid = true := (Bool.and_eq_true_iff.mp h).2
  have hprofileTrim : dto.profile.transform = dto.profile :=
    congrArg CreateCompanyDto.profile htrim
  have hrow (companyId : Uuid) (now : Timestamp) := dto.check_companyRow h htrim companyId actor now
  refine .seq (.query _) fun _ => .seq (.check id) fun _ => .seq .newId fun companyId =>
    .seq .newId fun profileId => .seq .now fun now => .seq (.ensure_of ?name) fun _ =>
    .seq (.exec fun db hdb => { hdb with companies := ?companies }) fun _ =>
    .seq (insertProfile_keepsChecks
      (dto.profile.check_profileRow hprofile hprofileTrim _ _ Nat.one_pos _ _)) fun _ =>
    .seq (setCurrentProfile_keepsChecks _ _ _ _ _) fun _ =>
    .seq (DomainEvent.append_keepsChecks _) fun _ =>
    .seq (.seq (.query _) fun _ => .requireSome id) fun _ => .pure trivial
  case name => exact (Bool.and_eq_true_iff.mp (hrow 0 0)).1
  case companies =>
    intro row hmem
    rcases List.mem_append.mp hmem with hmem | hmem
    · exact hdb.companies row hmem
    · obtain rfl := List.mem_singleton.mp hmem
      exact hrow companyId now

theorem create_keepsChecks {dto : CreateCompanyDto} (h : dto.isValid = true)
    (htrim : dto.transform = dto) (rt : Runtime) (actor : RequestActor) (idempotencyKey : Uuid)
    (correlationId : UuidText) :
    KeepsChecks (create rt actor idempotencyKey correlationId dto) :=
  .seq (CompanyProfilePolicy.assertCreate_keepsChecks _ _) fun _ =>
    CommandExecutor.run_keepsChecks rt (provision_keepsChecks h htrim actor correlationId)

theorem updateProfile_keepsChecks {dto : CompanyProfileDto} (h : dto.isValid = true)
    (htrim : dto.transform = dto) (rt : Runtime) (actor : RequestActor) (idempotencyKey : Uuid)
    (expectedVersion : ℕ) (correlationId : UuidText) :
    KeepsChecks (updateProfile rt actor idempotencyKey expectedVersion correlationId dto) := by
  refine .seq (CompanyProfilePolicy.assertProfile_keepsChecks _) fun _ =>
    CommandExecutor.run_keepsChecks rt ?_
  exact .seq (.query _) fun _ => .seq (.requireSome id) fun current => .seq (.check id) fun _ =>
    .seq .newId fun _ => .seq .now fun _ =>
    .seq (insertProfile_keepsChecks (dto.check_profileRow h htrim _ _ (Nat.succ_pos _) _ _))
      fun _ => .seq (setCurrentProfile_keepsChecks _ _ _ _ _) fun _ =>
    .seq (DomainEvent.append_keepsChecks _) fun _ =>
    .seq (.seq (.query _) fun _ => .requireSome id) fun _ => .pure trivial

end Companies

namespace Attachments

theorem linkAll_keepsChecks (companyId goalVersionId : Uuid) (rows : List ObjectRecordRow)
    (attachmentIds : List UuidText) (ordinal aggregate : ℕ) :
    KeepsChecks (linkAll companyId goalVersionId rows ordinal aggregate attachmentIds) := by
  induction attachmentIds generalizing ordinal aggregate with
  | nil => exact .pure trivial
  | cons attachmentId rest ih =>
      exact .seq (.requireSome id) fun row => .seq .now fun _ => .seq (.check id) fun _ =>
        .seq (.check id) fun _ => .seq (KeepsChecks.other fun _ => rfl) fun _ => ih _ _

theorem bindToGoalVersion_keepsChecks (companyId goalVersionId : Uuid)
    (attachmentIds : List UuidText) :
    KeepsChecks (bindToGoalVersion companyId goalVersionId attachmentIds) :=
  .ite (fun _ => .pure trivial) fun _ => .seq (.check id) fun _ => .seq (.check id) fun _ =>
    .seq (.query _) fun _ => .seq (.check id) fun _ => linkAll_keepsChecks _ _ _ _ _ _

end Attachments

namespace Initiatives

theorem openInitiative_keepsChecks {dto : CreateInitiativeDto}
    (h : 3 ≤ dto.title.trim.charLength ∧ dto.title.trim.charLength ≤ 160) (companyId : Uuid)
    (actor : RequestActor) (correlationId : UuidText) :
    KeepsChecks (openInitiative companyId actor correlationId dto) := by
  refine .seq (.query _) fun _ => .seq (.check id) fun _ => .seq .newId fun initiativeId =>
    .seq .now fun now => .seq (.ensure_of h) fun _ =>
    .seq (.exec fun db hdb => { hdb with initiatives := fun row hmem => ?_ }) fun _ =>
    .seq (DomainEvent.append_keepsChecks _) fun _ => .pure trivial
  rcases List.mem_append.mp hmem with hmem | hmem
  · exact hdb.initiatives row hmem
  · obtain rfl := List.mem_singleton.mp hmem
    exact check_initiativeRow h companyId initiativeId now

theorem mapUniqueViolation_not_checkViolation {failure : Failure}
    (h : ¬ failure.IsCheckViolation) : ¬ (mapUniqueViolation failure).IsCheckViolation := by
  unfold mapUniqueViolation
  split
  · exact id
  · exact h

theorem create_keepsChecks {dto : CreateInitiativeDto}
    (h : 3 ≤ dto.title.trim.charLength ∧ dto.title.trim.charLength ≤ 160) (rt : Runtime)
    (actor : RequestActor) (idempotencyKey : Uuid) (correlationId : UuidText) :
    KeepsChecks (create rt actor idempotencyKey correlationId dto) :=
  .seq (.requireSome id) fun _ => .mapError
    (CommandExecutor.run_keepsChecks rt (openInitiative_keepsChecks h _ actor correlationId))
    fun _ => mapUniqueViolation_not_checkViolation

theorem drawRunIds_keepsChecks (needsClarification : Bool) :
    KeepsChecks (drawRunIds needsClarification) :=
  .seq .newId fun _ => .seq .newId fun _ => .seq .newId fun _ => .ite
    (fun _ => .seq .newId fun _ => .pure trivial)
    fun _ => .seq .newId fun _ => .seq .newId fun _ => .pure trivial

theorem insertRun_keepsChecks {qualification : GoalQualification}
    (h : qualificationCheck qualification = true) (services : Services)
    (companyId initiativeId : Uuid) (ids : RunIds) (profileVersionId : Uuid)
    (needsClarification : Bool) (now : Timestamp) :
    KeepsChecks (insertRun services companyId initiativeId ids profileVersionId qualification
      needsClarification now) := by
  refine .seq (KeepsChecks.other fun _ => rfl) fun _ => .seq (KeepsChecks.other fun _ => rfl)
    fun _ => .seq (KeepsChecks.other fun _ => rfl) fun _ =>
    .seq (KeepsChecks.other fun _ => rfl) fun _ => .seq (.ensure_of h) fun _ =>
    .seq (.exec fun db hdb => { hdb with goalQualifications := fun row hmem => ?_ }) fun _ =>
    KeepsChecks.other fun _ => rfl
  rcases List.mem_append.mp hmem with hmem | hmem
  · exact hdb.goalQualifications row hmem
  · obtain rfl := List.mem_singleton.mp hmem
    exact check_qualificationRow h companyId initiativeId ids

theorem startRun_keepsChecks {dto : CreateGoalDto} {qualification : GoalQualification}
    (h : dto.isValid = true) (hcheck : qualificationCheck qualification = true)
    (services : Services) (companyId : Uuid) (actor : RequestActor) (initiativeId : UuidText)
    (expectedVersion : ℕ) (correlationId : UuidText) :
    KeepsChecks (startRun services companyId actor initiativeId expectedVersion correlationId dto
      qualification) := by
  refine .seq (.query _) fun _ => .seq (.requireSome id) fun initiative =>
    .seq (.check id) fun _ => .seq (.query _) fun profileRows =>
    .bind (Q := fun version => 0 < version) (.gets fun _ _ => Nat.succ_pos _)
      fun version hversion =>
    .seq (drawRunIds_keepsChecks _) fun ids => .seq .now fun now => .seq (.query _) fun _ =>
    .seq (.check (by decide)) fun _ =>
    .seq (.exec fun db hdb => { hdb with goalVersions := fun row hmem => ?goal }) fun _ =>
    .seq (Attachments.bindToGoalVersion_keepsChecks _ _ _) fun _ =>
    .seq (.exec fun db hdb =>
      { hdb with initiatives := Table.forall_mem_updateWhere.mpr fun row hrow => ?initiative })
      fun _ =>
    .seq (.requireSome id) fun _ => .seq (.requireSome (by decide)) fun _ =>
    .seq (insertRun_keepsChecks hcheck _ _ _ _ _ _ _) fun _ =>
    .seq (DomainEvent.append_keepsChecks _) fun _ =>
    .seq (DomainEvent.append_keepsChecks _) fun _ => .pure trivial
  case goal =>
    rcases List.mem_append.mp hmem with hmem | hmem
    · exact hdb.goalVersions row hmem
    · obtain rfl := List.mem_singleton.mp hmem
      exact check_goalVersionRow h companyId initiativeId.value actor ids hversion now
  case initiative =>
    have hcheck := hdb.initiatives row hrow
    split
    · simp only [InitiativeRow.check, Bool.and_eq_true, decide_eq_true_eq] at hcheck ⊢
      exact ⟨hcheck.1, Nat.succ_pos _⟩
    · exact hcheck

theorem createGoalAndRun_keepsChecks {dto : CreateGoalDto} (h : dto.isValid = true)
    (rt : Runtime) (workflowVersion : String) (engine : RegExpEngine) (actor : RequestActor)
    (initiativeId : UuidText) (expectedVersion : ℕ) (idempotencyKey : Uuid)
    (correlationId : UuidText) :
    KeepsChecks (createGoalAndRun
      ⟨rt, workflowVersion, GoalQualification.evaluateGoalQualification engine⟩ actor initiativeId
      expectedVersion idempotencyKey correlationId dto) := by
  refine .seq (.requireSome id) fun _ =>
    .bind (Q := fun qualification => qualificationCheck qualification = true)
      (.seq (.check id) fun _ => .pure (GoalQualification.qualificationCheck_evaluate _ _))
      fun qualification hcheck => .seq (.check id) fun _ =>
    CommandExecutor.run_keepsChecks _ (startRun_keepsChecks h hcheck _ _ actor initiativeId
      expectedVersion correlationId)

end Initiatives

/-! ## Accepted requests -/

namespace RequestBody

/-- The title of an initiative that trimming leaves too short. -/
def TrimsShort : RequestBody → Prop
  | createInitiative dto => dto.title.trim.charLength < 3
  | _ => False

/-- An accepted body whose title trimming leaves long enough. -/
theorem perform_keepsChecks {body : RequestBody} (h : body.isAccepted = true)
    (hlong : ¬ body.TrimsShort) (rt : Runtime) (workflowVersion : String)
    (engine : RegExpEngine) (call : RequestCall) :
    KeepsChecks (body.handle rt workflowVersion engine call) := by
  cases body with
  | createCompany dto =>
      have htrim : dto.transform.transform = dto.transform := by
        simp only [CreateCompanyDto.transform, JsString.trim_trim,
          CompanyProfileDto.transform_transform]
      exact Companies.create_keepsChecks h htrim _ _ _ _
  | replaceProfile dto =>
      exact Companies.updateProfile_keepsChecks h dto.transform_transform _ _ _ _ _
  | createInitiative dto =>
      have hvalid : 3 ≤ dto.title.charLength ∧ dto.title.charLength ≤ 160 :=
        of_decide_eq_true (Bool.and_eq_true_iff.mp h).2
      exact Initiatives.create_keepsChecks
        ⟨not_lt.mp hlong, (JsString.charLength_trim_le _).trans hvalid.2⟩ _ _ _ _
  | createGoalAndRun dto => exact Initiatives.createGoalAndRun_keepsChecks h _ _ _ _ _ _ _ _

def founderWorld : World where
  db := { Db.empty with
    founders := [⟨0⟩]
    companies := [{ Companies.companyRow 1 ⟨0, none⟩ (js "Aico") 0 with
      currentProfileVersionId := some 2 }]
    companyProfileVersions := [Companies.profileRow 1 2 1 ⟨0, none⟩
      ⟨js "Prototypes", js "Founders", [js "Web"], ⟨5, 1, js "mock_or_local"⟩, true⟩ 0] }
  objects := []
  nextId := 3
  now := 0

def founderCall : RequestCall where
  actor := ⟨0, some 1⟩
  idempotencyKey := 0
  correlationId := .ofUuid 0
  expectedVersion := 1
  initiativeId := .ofUuid 0

/-- A platform that hashes nothing and finds no pattern. -/
def plainRuntime : Runtime := .sample id

def plainEngine : RegExpEngine where
  test _ _ := false
  screenNumbers _ := []

theorem founderWorld_checksHold : founderWorld.db.ChecksHold where
  companies := by decide
  companyProfileVersions := by decide
  initiatives := List.forall_mem_nil _
  goalVersions := List.forall_mem_nil _
  goalQualifications := List.forall_mem_nil _

/-- A title that trimming leaves too short is refused by its table. -/
theorem create_of_trimsShort (dto : CreateInitiativeDto) (h : dto.title.trim.charLength < 3)
    (rt : Runtime) (workflowVersion : String) (engine : RegExpEngine) :
    ((createInitiative dto).handle rt workflowVersion engine founderCall founderWorld).1 =
      .error (.constraint "initiatives_title_check") := by
  have hshort : ¬ (3 ≤ dto.title.trim.charLength ∧ dto.title.trim.charLength ≤ 160) :=
    fun hlong => absurd hlong.1 (not_le.mpr h)
  have hopen (w : World) (hw : w.db.initiatives = []) :
      Initiatives.openInitiative 1 founderCall.actor founderCall.correlationId dto w =
        (.error (.constraint "initiatives_title_check"),
          { w with nextId := w.nextId + 1 }) := by
    have hnone : w.db.initiatives.filter (Initiatives.isActivePrototype 1) = [] := by
      rw [hw]
      rfl
    rw [Initiatives.openInitiative, Op.query_bind, Op.ensure_of w hnone, Op.newId_bind]
    simp only [Op.now_bind]
    rw [Op.ensure_of_not _ hshort]
  let options : CommandOptions :=
    { actorId := 0
      operation := "initiatives.create"
      idempotencyKey := 0
      request := .object [("type", .text dto.type), ("title", .str dto.title)]
      execute := Initiatives.openInitiative 1 founderCall.actor founderCall.correlationId dto }
  have hrefuses := hopen (CommandExecutor.reserved rt options founderWorld) rfl
  have hrun : CommandExecutor.run rt options founderWorld = _ :=
    CommandExecutor.run_of_new_error rfl rfl hrefuses
  calc ((createInitiative dto).handle rt workflowVersion engine founderCall founderWorld).1
      = (Prog.catchError (CommandExecutor.run rt options)
          (fun failure => Prog.throw (Initiatives.mapUniqueViolation failure)) founderWorld).1 := rfl
    _ = .error (.constraint "initiatives_title_check") := by
        rw [Prog.catchError_apply, hrun]
        rfl

/-- An accepted body keeps the constraints, and is refused by none of them, just when
it is not the title of an initiative that trimming leaves too short. -/
theorem accepted_agrees_iff {body : RequestBody} (h : body.isAccepted = true) :
    (∀ rt workflowVersion engine call (w : World), w.db.ChecksHold →
      (body.handle rt workflowVersion engine call w).2.db.ChecksHold ∧
        ∀ e, (body.handle rt workflowVersion engine call w).1 = .error e →
          ¬ e.IsCheckViolation) ↔ ¬ body.TrimsShort := by
  constructor
  · intro hagrees hshort
    cases body with
    | createInitiative dto =>
        have hrefused := create_of_trimsShort dto hshort plainRuntime "" plainEngine
        exact (hagrees _ _ _ _ _ founderWorld_checksHold).2 _ hrefused (by decide)
    | _ => exact hshort
  · intro hlong rt workflowVersion engine call w hw
    have hkeeps := perform_keepsChecks h hlong rt workflowVersion engine call
    exact ⟨hkeeps.store w hw, fun e he => hkeeps.error w e hw he⟩

theorem accepted_agrees_iff_demo :
    (∀ rt workflowVersion engine call (w : World), w.db.ChecksHold →
      ((createInitiative ⟨"PROTOTYPE", js "Shop"⟩).handle rt workflowVersion engine call
          w).2.db.ChecksHold ∧
        ∀ e, ((createInitiative ⟨"PROTOTYPE", js "Shop"⟩).handle rt workflowVersion engine call
          w).1 = .error e → ¬ e.IsCheckViolation) ↔
      ¬ (createInitiative ⟨"PROTOTYPE", js "Shop"⟩).TrimsShort :=
  accepted_agrees_iff (by decide)

/-- The title of two spaces and a letter has three characters. -/
theorem accepted_agrees_fails :
    ¬ ∀ body : RequestBody, body.isAccepted = true →
      ∀ rt workflowVersion engine call (w : World), w.db.ChecksHold →
        (body.handle rt workflowVersion engine call w).2.db.ChecksHold ∧
          ∀ e, (body.handle rt workflowVersion engine call w).1 = .error e →
            ¬ e.IsCheckViolation := by
  intro hagrees
  have hrefused := create_of_trimsShort ⟨"PROTOTYPE", js "  a"⟩ (by decide) plainRuntime ""
    plainEngine
  exact (hagrees (createInitiative ⟨"PROTOTYPE", js "  a"⟩) (by decide) _ _ _ _ _
    founderWorld_checksHold).2 _ hrefused (by decide)

end RequestBody

end Aico
