import Aico.Runs.FrozenContext
import Aico.Tenancy.CommandsAlike
import Aico.Tenancy.ReadsAlike

/-!
# Sessions of a founder

A founder makes one call after another, each at its time. In two databases that are alike to
him the answers are the same and his rows end up the same, and all other rows stay as they
are. So in whatever state the program has reached he is answered as if his company were alone
in the database: a row of another company gives the answer that no row gives.
-/

namespace Aico

/-- A call of a founder. -/
inductive FounderCall where
  | getCompany
  | replaceProfile (idempotencyKey : Uuid) (expectedVersion : ℕ) (correlationId : UuidText)
      (dto : CompanyProfileDto)
  | getInitiative
  | createInitiative (idempotencyKey : Uuid) (correlationId : UuidText)
      (dto : CreateInitiativeDto)
  | createGoalAndRun (initiativeId : UuidText) (expectedVersion : ℕ) (idempotencyKey : Uuid)
      (correlationId : UuidText) (dto : CreateGoalDto)
  | ingest (idempotencyKey : Uuid) (correlationId : UuidText) (dto : CreateAttachmentDto)
  | getMetadata (attachmentId : UuidText)
  | retrieveForRun (runId attachmentId : UuidText)
  | getRun (runId : UuidText)
  | tasks (runId : UuidText) (query : TaskQueryDto)
  | events (runId : UuidText) (query : EventQueryDto)
  | deleteRun (runId : UuidText)

inductive FounderAnswer where
  | resource (body : Json)
  | command (result : CommandResult)
  | attachment (attachment : RetrievedAttachment)
  | page (page : EventsPage)
  | deleted

def FounderCall.run (p : Program) (actor : RequestActor) : FounderCall → Op FounderAnswer
  | getCompany => do return .resource (← Companies.getCurrent actor)
  | replaceProfile idempotencyKey expectedVersion correlationId dto => do
      return .command (← Companies.updateProfile p.services.runtime actor idempotencyKey
        expectedVersion correlationId dto)
  | getInitiative => do return .resource (← Initiatives.getCurrent actor)
  | createInitiative idempotencyKey correlationId dto => do
      return .command (← Initiatives.create p.services.runtime actor idempotencyKey correlationId
        dto)
  | createGoalAndRun initiativeId expectedVersion idempotencyKey correlationId dto => do
      return .command (← Initiatives.createGoalAndRun p.services actor initiativeId
        expectedVersion idempotencyKey correlationId dto)
  | ingest idempotencyKey correlationId dto => do
      return .command (← Attachments.ingest p.services.runtime p.checks actor idempotencyKey
        correlationId dto)
  | getMetadata attachmentId => do
      return .resource (← Attachments.getMetadata actor attachmentId)
  | retrieveForRun runId attachmentId => do
      return .attachment (← AttachmentRetrieval.retrieveForRun actor runId attachmentId)
  | getRun runId => do return .resource (← Runs.get actor runId)
  | tasks runId query => do return .resource (← Runs.tasks actor runId query)
  | events runId query => do return .page (← Runs.events actor runId query)
  | deleteRun runId => do
      Runs.denyDelete actor runId
      return .deleted

structure FounderSession where
  world : World
  answers : List (Except Failure FounderAnswer)

namespace FounderSession

def step (p : Program) (actor : RequestActor) (s : FounderSession)
    (call : Timestamp × FounderCall) : FounderSession :=
  let answer := call.2.run p actor { s.world with now := call.1 }
  { world := answer.2, answers := s.answers ++ [answer.1] }

def after (p : Program) (actor : RequestActor) (w : World)
    (calls : List (Timestamp × FounderCall)) : FounderSession :=
  Transition.run (step p actor) { world := w, answers := [] } calls

end FounderSession

namespace TenantScope

variable {t : TenantScope} {w₀ w₀' w w' : World} {actor : RequestActor}

theorem agrees_getCompany (hactor : actor.id = t.founderId) :
    Prog.Agrees (t.Alike w₀ w₀') (Companies.getCurrent actor) :=
  .bind (agrees_companyQuery (isCompanyOf_founder hactor)) fun _ => .bind (.require _ _)
    fun _ => .pure _

theorem agrees_call (h₀ : t.WellFormed w₀) (h₀' : t.WellFormed w₀') (hn : w₀.nextId = w₀'.nextId)
    (hactor : actor.id = t.founderId) (hcompany : actor.companyId = some t.companyId)
    (p : Program) (call : FounderCall) :
    Prog.Agrees (t.Alike w₀ w₀') (call.run p actor) := by
  cases call with
  | getCompany => exact .bind (agrees_getCompany hactor) fun _ => .pure _
  | replaceProfile =>
      exact .bind (agrees_updateProfile h₀ h₀' hn hactor _ _ _ _ _) fun _ => .pure _
  | getInitiative => exact .bind (agrees_getInitiative hcompany) fun _ => .pure _
  | createInitiative =>
      exact .bind (agrees_createInitiative h₀ h₀' hn hactor hcompany _ _ _ _) fun _ => .pure _
  | createGoalAndRun =>
      exact .bind (agrees_createGoalAndRun h₀ h₀' hn hactor hcompany _ _ _ _ _ _)
        fun _ => .pure _
  | ingest =>
      exact .bind (agrees_ingest h₀ h₀' hn hactor hcompany _ _ _ _ _) fun _ => .pure _
  | getMetadata => exact .bind (agrees_getMetadata hcompany _) fun _ => .pure _
  | retrieveForRun => exact .bind (agrees_retrieveForRun hcompany _ _) fun _ => .pure _
  | getRun => exact .bind (agrees_getRun hcompany _) fun _ => .pure _
  | tasks => exact .bind (agrees_tasks hcompany _ _) fun _ => .pure _
  | events => exact .bind (agrees_events hcompany _ _) fun _ => .pure _
  | deleteRun => exact .bind (agrees_denyDelete hcompany _) fun _ => .pure _

theorem Alike.at_time (h : t.Alike w₀ w₀' w w') (now : Timestamp) :
    t.Alike w₀ w₀' { w with now := now } { w' with now := now } where
  same := congrArg (fun w : World => { w with now := now }) h.same
  left := { h.left with }
  right := { h.right with }

def SessionsAlike (t : TenantScope) (w₀ w₀' : World) (s s' : FounderSession) : Prop :=
  t.Alike w₀ w₀' s.world s'.world ∧ s.answers = s'.answers

theorem sessionsAlike_after (h : t.WellFormed w) (h' : t.WellFormed w')
    (hsame : w.portion t.own = w'.portion t.own) (hactor : actor.id = t.founderId)
    (hcompany : actor.companyId = some t.companyId) (p : Program)
    (calls : List (Timestamp × FounderCall)) :
    t.SessionsAlike w w' (FounderSession.after p actor w calls)
      (FounderSession.after p actor w' calls) := by
  have halike := h.alike h' hsame
  refine Transition.run_agrees (C := fun _ => True) (fun s s' call _ hs => ?_) ⟨halike, rfl⟩
    fun _ _ => trivial
  obtain ⟨hanswer, hworlds⟩ := agrees_call h h' halike.nextId hactor hcompany p call.2 _ _
    (hs.1.at_time call.1)
  refine ⟨hworlds, ?_⟩
  show s.answers ++ [_] = s'.answers ++ [_]
  rw [hs.2, hanswer]

end TenantScope

/-- The two have the same rows and objects in the portion. -/
structure World.SameIn (p : Portion) (w w' : World) : Prop where
  db : w.db.portion p = w'.db.portion p
  objects : (w.objects.filter fun o => p.hasKey o.1) = w'.objects.filter fun o => p.hasKey o.1

theorem TenantScope.Beside.sameIn {t : TenantScope} {w₀ w : World} (h : t.Beside w₀ w) :
    w.SameIn t.own.compl w₀ where
  db := h.others
  objects := h.objects

namespace FounderSession

/-- A session is answered alike in databases that are alike to the founder, changes his rows
alike and changes no other row. -/
theorem answers_alike (p : Program) {t : TenantScope} {actor : RequestActor} {w w' : World}
    (hactor : actor.id = t.founderId) (hcompany : actor.companyId = some t.companyId)
    (h : t.WellFormed w) (h' : t.WellFormed w') (hsame : w.portion t.own = w'.portion t.own)
    (calls : List (Timestamp × FounderCall)) :
    (after p actor w calls).answers = (after p actor w' calls).answers ∧
      (after p actor w calls).world.portion t.own =
        (after p actor w' calls).world.portion t.own ∧
      (after p actor w calls).world.SameIn t.own.compl w ∧
      (after p actor w' calls).world.SameIn t.own.compl w' := by
  obtain ⟨halike, hanswers⟩ := t.sessionsAlike_after h h' hsame hactor hcompany p calls
  exact ⟨hanswers, halike.same, halike.left.sameIn, halike.right.sameIn⟩

def neighbourIds : Initiatives.RunIds := ⟨7, 8, 9, none, 10⟩

/-- Company `1` of founder `0` beside company `3` of founder `5`, which has the name and run `9` on
a goal of initiative `6`. -/
def neighbours (name : JsString) : World where
  db :=
    { Db.empty with
      founders := [{ id := 0 }, { id := 5 }]
      companies :=
        [{ Companies.companyRow 1 { id := 0, companyId := none } (js "Ours") 0 with
            currentProfileVersionId := some 2 },
          { Companies.companyRow 3 { id := 5, companyId := none } name 0 with
            currentProfileVersionId := some 4 }]
      companyProfileVersions :=
        [Companies.profileRow 1 2 1 { id := 0, companyId := none } Program.demoCompanyProfile 0,
          Companies.profileRow 3 4 1 { id := 5, companyId := none }
            { Program.demoCompanyProfile with purpose := name } 0]
      initiatives := [Initiatives.initiativeRow 3 6 name 0]
      goalVersions :=
        [Initiatives.goalVersionRow 3 6 { id := 5, companyId := some 3 } neighbourIds 1 demoGoal 0]
      contextSnapshots := [Initiatives.contextSnapshotRow 3 neighbourIds 4 0]
      runs := [Initiatives.runRow demoServices 3 6 neighbourIds false 0]
      runEventCounters := [{ companyId := 3, runId := 9, nextSequence := 1 }] }
  objects := []
  nextId := 11
  now := 0

def ourFounder : RequestActor := { id := 0, companyId := some 1 }

def demoCalls : List (Timestamp × FounderCall) :=
  [(1, .getCompany), (2, .getRun (.ofUuid 9)),
    (3, .createInitiative 1 (.ofUuid 0) { type := "PROTOTYPE", title := js "Demo" })]

/-- The run of the neighbour is not found, whatever his name is. -/
theorem answers_alike_demo :
    let own := TenantScope.own ⟨1, 0⟩
    let s := after Program.demo ourFounder (neighbours (js "Alpha")) demoCalls
    let s' := after Program.demo ourFounder (neighbours (js "Beta")) demoCalls
    s.answers.map Except.toBool = [true, false, true] ∧ s.answers = s'.answers ∧
      s.world.portion own = s'.world.portion own ∧
      s.world.SameIn own.compl (neighbours (js "Alpha")) ∧
      s'.world.SameIn own.compl (neighbours (js "Beta")) := by
  intro own s s'
  have hwell : ∀ name, TenantScope.WellFormed ⟨1, 0⟩ (neighbours name) := by
    intro name
    refine ⟨?_, ?_, ?_, nofun⟩
    · simp [neighbours, Companies.companyRow]
    · simp [neighbours, Initiatives.initiativeRow]
    · simp [neighbours, Initiatives.goalVersionRow]
  have hactor : ourFounder.id = (⟨1, 0⟩ : TenantScope).founderId := rfl
  refine ⟨by decide +kernel, ?_⟩
  exact answers_alike Program.demo hactor rfl (hwell (js "Alpha")) (hwell (js "Beta")) rfl demoCalls

end FounderSession

/-! ## Reached states -/

theorem Db.portion_portion (p : Portion) (db : Db) : (db.portion p).portion p = db.portion p := by
  simp [Db.portion, List.filter_filter]

theorem World.portion_portion (p : Portion) (w : World) :
    (w.portion p).portion p = w.portion p := by
  simp [World.portion, Db.portion_portion, List.filter_filter]

/-- With the portion of the founder alone nothing refers to another company. -/
theorem TenantScope.WellFormed.portion {t : TenantScope} {w : World} (h : t.WellFormed w) :
    t.WellFormed (w.portion t.own) where
  company c hc := h.company c (List.mem_of_mem_filter hc)
  initiatives _ hg hother := absurd (t.own_company.mp (List.mem_filter.mp hg).2) hother
  goals _ hg hother := absurd (t.own_company.mp (List.mem_filter.mp hg).2) hother
  events _ he hother := absurd (t.own_company.mp (List.mem_filter.mp he).2) hother

namespace Program

theorem runId_lt_of_event {rt : Runtime} {s : Sys} (h : s.Inv rt) {e : EventRow}
    (he : e ∈ s.world.db.events) {r : Uuid} (hr : e.runId = some r) : r < s.world.nextId := by
  rcases h.runs r with habsent | ⟨l, hl, rfl, -⟩
  · have hmem : e ∈ (s.world.db.ofRun r).events := List.mem_filter.mpr ⟨he, decide_eq_true hr⟩
    rw [habsent.rows] at hmem
    cases hmem
  · exact h.drawn.runs _ (List.mem_map_of_mem hl.shows.mem_runs)

theorem wellFormed_after (p : Program) (init : InitialProgram) (acts : List ProgramAction)
    {c : CompanyRow} (hc : c ∈ (p.after init acts).world.db.companies) :
    TenantScope.WellFormed ⟨c.id, c.founderId⟩ (p.after init acts).world := by
  have hinv := p.contextInv_after init acts
  have hkeyed := hinv.tenant.keyed
  refine ⟨fun c' hc' hfounder => ?_, fun g hg hother i hi hown hid => ?_,
    fun g hg _ => (hkeyed.goals g hg).1, fun e he _ r hr => runId_lt_of_event hinv.sys he hr⟩
  · rw [Table.eq_of_key_eq hkeyed.founders hc' hc hfounder]
  · exact hother (((hkeyed.goals g hg).2 i hi hid.symm).symm.trans hown)

/-- In every reached state the founder of a company is answered as if there were only his
rows, and changes no other row. -/
theorem confined_after (p : Program) (init : InitialProgram) (acts : List ProgramAction)
    {c : CompanyRow} (hc : c ∈ (p.after init acts).world.db.companies) {actor : RequestActor}
    (hactor : actor.id = c.founderId) (hcompany : actor.companyId = some c.id)
    (calls : List (Timestamp × FounderCall)) :
    let own := TenantScope.own ⟨c.id, c.founderId⟩
    let w := (p.after init acts).world
    (FounderSession.after p actor w calls).answers =
        (FounderSession.after p actor (w.portion own) calls).answers ∧
      (FounderSession.after p actor w calls).world.SameIn own.compl w := by
  intro own w
  have h := p.wellFormed_after init acts hc
  obtain ⟨halike, hanswers⟩ := TenantScope.sessionsAlike_after h h.portion
    (World.portion_portion own w).symm hactor hcompany p calls
  exact ⟨hanswers, halike.left.sameIn⟩

def demoNeighbours : InitialProgram :=
  { demoFounding with
    world :=
      { demoFounding.world with
        db := { Db.empty with founders := [{ id := 0 }, { id := 1 }] } }
    runEvents := nofun }

/-- The second founder opens company `21` beside company `2`, which has run `13`. -/
def demoVisit : List ProgramAction :=
  demoOpening ++ [.call (.createCompany { id := 1, companyId := none } 1 (.ofUuid 0)
      { name := js "Next door", profile := demoCompanyProfile })]

def demoProbing : List (Timestamp × FounderCall) :=
  [(1, .getRun (.ofUuid 13)), (2, .events (.ofUuid 13) {})]

theorem confined_after_demo :
    let w := (demo.after demoNeighbours demoVisit).world
    ∃ c ∈ w.db.companies, c.id = 21 ∧ c.founderId = 1 ∧
      let actor : RequestActor := { id := 1, companyId := some c.id }
      let own := TenantScope.own ⟨c.id, c.founderId⟩
      (FounderSession.after demo actor w demoProbing).answers =
          (FounderSession.after demo actor (w.portion own) demoProbing).answers ∧
        (FounderSession.after demo actor w demoProbing).world.SameIn own.compl w := by
  have hany : ((demo.after demoNeighbours demoVisit).world.db.companies.any fun c =>
      c.id = 21 ∧ c.founderId = 1) = true := by
    decide +kernel
  obtain ⟨c, hc, hfound⟩ := List.any_eq_true.mp hany
  obtain ⟨hid, hfounder⟩ := of_decide_eq_true hfound
  exact ⟨c, hc, hid, hfounder,
    demo.confined_after demoNeighbours demoVisit hc hfounder.symm rfl demoProbing⟩

end Program

end Aico
