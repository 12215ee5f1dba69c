import Aico.GateSpike.Gate01History

/-!
# Safety of the gate

Whatever the policy port answers, a founder decides a gate once, by a command that has found the
gate and its run as it expects them, and with everything that belongs to the decision.
-/

namespace Aico

namespace GateProof

section

variable {r : Gate01CommandRequest} {state : Gate01StateRow}

/-! ## Rows that match a command -/

theorem eq_awaitingBriefApproval {state : RunState}
    (h : js state.text = js "AWAITING_BRIEF_APPROVAL") : state = .awaitingBriefApproval := by
  have htext := js_injective h
  cases state <;> first | rfl | exact absurd htext (by decide)

theorem eq_product {stage : RunStage} (h : js stage.text = js "PRODUCT") : stage = .product := by
  have htext := js_injective h
  cases stage <;> first | rfl | exact absurd htext (by decide)

/-- A gate and a run that match a command wait for a decision. -/
theorem awaiting_of_matches (h : matchesExactGate01 r state = true) :
    state.gate.status = .pending ∧ state.run.state = .awaitingBriefApproval ∧
      state.run.stage = .product := by
  simp only [matchesExactGate01, decide_eq_true_eq] at h
  obtain ⟨-, hstate, hstage, -, hrunState, hrunStage, -, -, hpending, -⟩ := h
  exact ⟨hpending, eq_awaitingBriefApproval (hrunState.trans hstate),
    eq_product (hrunStage.trans hstage)⟩

end

/-! ## How a decision is made -/

/-- The command finds its gate as it expects it, moves the gate and its run, which were pending, and
stores the decision. -/
structure Decides (d : FounderGateDecisionRow) (r : Gate01CommandRequest) (state : Gate01StateRow)
    (db db' : ProofDb) : Prop where
  locked : gate01State db d.companyId d.runId d.gateInstanceId = some state
  expected : matchesExactGate01 r state = true
  artifactId : d.artifactId = state.gate.artifactId
  artifactVersionId : d.artifactVersionId = state.gate.artifactVersionId
  decision : d.decision = r.command.decision.type
  gate : state.gate ∈ db.gateInstances ∧ state.gate.status = .pending
  run : state.run ∈ db.runs ∧ state.run.state = .awaitingBriefApproval ∧ state.run.stage = .product
  gates : db'.gateInstances = Table.updateWhere
    (fun g => isGate d.companyId d.runId d.gateInstanceId g && g.status = .pending &&
      g.rowVersion = state.gate.rowVersion)
    (decidedGate (resultingGateStatus d.decision) d.decidedAt) db.gateInstances
  runs : db'.runs = Table.updateWhere
    (fun run => run.companyId = d.companyId && run.id = d.runId &&
      run.state = .awaitingBriefApproval && run.stage = .product &&
      run.rowVersion = state.run.rowVersion && run.cancellationRequestedAt.isNone)
    (decidedRun d.decision d.decidedAt) db.runs
  before : d ∉ db.founderGateDecisions
  after : d ∈ db'.founderGateDecisions

/-- The step is a command that makes the decision. -/
def GateState.DecidesBy (platform : GatePlatform) (d : FounderGateDecisionRow) (s : GateState)
    (a : GateAction) : Prop :=
  ∃ r env state, a = .execute r env ∧ Decides d r state s.db (s.step platform a).db

section

variable {platform : GatePlatform}

theorem Entry.CommitsTo.decides {entry : Entry} {w w' : GateWorld} {o : Outcome}
    {r : Gate01CommandRequest} (hcommits : entry.CommitsTo w w') (ho : entry.outcome = some o)
    (hlocked : entry.toWork.DecidesLocked r w.db w'.db.gateInstances w'.db.runs)
    (hold : ∀ d ∈ w.db.founderGateDecisions, d.id < w.nextId) :
    ∃ state, Decides o.decision r state w.db w'.db := by
  obtain ⟨context, state, runId, gateInstanceId, hstate, hmoves⟩ := hlocked
  rw [Work.Moves, ho] at hmoves
  obtain ⟨hexact, hdecides, hgates, hruns⟩ := hmoves
  obtain ⟨hrun, hrunCompany, hgate, hmemRun, hmemGate⟩ := gate01State_eq_some hstate
  obtain ⟨hpending, hawaiting, hproduct⟩ := awaiting_of_matches hexact
  have hgateId : state.gate.id = gateInstanceId := by
    simp only [isGate, Bool.and_eq_true, decide_eq_true_eq] at hgate
    exact hgate.2
  subst hrun hgateId
  have hdecisions : w'.db.founderGateDecisions = w.db.founderGateDecisions ++ [o.decision] := by
    rw [hcommits.founderGateDecisions, ho]
    rfl
  exact ⟨state,
    { locked := by rw [hdecides.companyId, hdecides.runId, hdecides.gateInstanceId]; exact hstate
      expected := hexact
      artifactId := hdecides.artifactId
      artifactVersionId := hdecides.artifactVersionId
      decision := hdecides.decision
      gate := ⟨hmemGate, hpending⟩
      run := ⟨hmemRun, hawaiting, hproduct⟩
      gates := by
        rw [hgates, hdecides.companyId, hdecides.runId, hdecides.gateInstanceId, hdecides.decision]
        rfl
      runs := by
        rw [hruns, hdecides.companyId, hdecides.runId, hdecides.decision]
        rfl
      before := fun hmem =>
        absurd (hcommits.drawn.within _ (Entry.mem_ids ho)).1 (hold o.decision hmem).not_ge
      after := by
        rw [hdecisions]
        exact List.mem_append_right _ List.mem_cons_self }⟩

theorem GateState.ledger_after (hreads : platform.ReadsUuids) {s : GateState}
    {entries : List Entry} (h : Accounted entries s) (acts : List GateAction) :
    (∃ new, Accounted (entries ++ new) (Transition.run (step platform) s acts)) ∧
      ∀ d ∈ (Transition.run (step platform) s acts).db.founderGateDecisions,
        d ∈ s.db.founderGateDecisions ∨
          Transition.SomeStep (step platform) (DecidesBy platform d) s acts := by
  refine Transition.run_history
    (P := fun acts s' => (∃ new, Accounted (entries ++ new) s') ∧
      ∀ d ∈ s'.db.founderGateDecisions, d ∈ s.db.founderGateDecisions ∨
        Transition.SomeStep (step platform) (DecidesBy platform d) s acts)
    ⟨⟨[], by rwa [List.append_nil]⟩, fun d hd => .inl hd⟩ ?_ acts
  rintro acts a ⟨⟨new, hnew⟩, hdecisions⟩
  have hold : ∀ d ∈ (Transition.run (step platform) s acts).db.founderGateDecisions,
      d ∈ s.db.founderGateDecisions ∨
        Transition.SomeStep (step platform) (DecidesBy platform d) s (acts ++ [a]) :=
    fun d hd => (hdecisions d hd).imp_right fun hsome => hsome.append [a]
  rcases step_cases hreads (Transition.run (step platform) s acts) a with
    ⟨change, drawn, hstep⟩ | ⟨entry, w, w', hw, hw', hcommits, hkind⟩
  · rw [hstep]
    exact ⟨⟨new, hnew.changedBy change drawn⟩, hold⟩
  · have hdb : (Transition.run (step platform) s acts).db = w.db := congrArg GateState.db hw
    have hdb' : (step platform (Transition.run (step platform) s acts) a).db = w'.db :=
      congrArg GateState.db hw'
    rw [hw] at hnew
    constructor
    · rw [hw']
      exact ⟨new ++ [entry], by rw [← List.append_assoc]; exact hnew.commit hcommits⟩
    · intro d hd
      rw [hdb', hcommits.founderGateDecisions] at hd
      rcases List.mem_append.mp hd with hd | hd
      · rw [← hdb] at hd
        exact hold d hd
      · obtain ⟨o, ho, rfl⟩ := Option.mem_map.mp (Option.mem_toList.mp hd)
        rcases hkind with hnone | ⟨r, env, rfl, hlocked⟩
        · rw [hnone] at ho
          cases ho
        · obtain ⟨state, hdecides⟩ := hcommits.decides ho hlocked fun _ => hnew.lt_nextId
          rw [← hdb, ← hdb'] at hdecides
          exact .inr (Transition.SomeStep.last ⟨r, env, state, rfl, hdecides⟩)

end

/-! ## An approved brief -/

namespace GateDemo

def hexValue (c : UInt16) : ℕ := if c.toNat < 0x3A then c.toNat - 0x30 else c.toNat - 0x57

def isHexText (s : JsString) : Bool :=
  s.all fun c => c = Uuid.hyphen || c = JsString.hexUnit (hexValue c)

def readUuid (s : JsString) : Option Uuid :=
  if isHexText s then
    some (Nat.ofDigits 16 ((s.reverse.filter (· ≠ Uuid.hyphen)).map hexValue))
  else none

theorem hexValue_hexUnit {d : ℕ} (h : d < 16) : hexValue (JsString.hexUnit d) = d := by
  interval_cases d <;> decide

theorem readUuid_text (u : Uuid) : readUuid (Uuid.text u) = some u := by
  have hhex : isHexText (Uuid.text u) = true := by
    refine List.all_eq_true.mpr fun c hc => ?_
    rcases Uuid.mem_text hc with ⟨d, hd, rfl⟩ | rfl
    · simp [hexValue_hexUnit hd]
    · simp
  have hunits : ∀ c ∈ (Uuid.digits u).map JsString.hexUnit, c ≠ Uuid.hyphen := by
    intro c hc
    obtain ⟨d, hd, rfl⟩ := List.mem_map.mp hc
    exact Uuid.hexUnit_ne_hyphen (Uuid.digits_lt hd)
  have hdigits : ((Uuid.digits u).map JsString.hexUnit).map hexValue = Uuid.digits u := by
    rw [List.map_map]
    exact (List.map_congr_left fun d hd => hexValue_hexUnit (Uuid.digits_lt hd)).trans
      (List.map_id _)
  rw [readUuid, if_pos hhex, Uuid.text, List.reverse_reverse, Uuid.filter_grouped hunits, hdigits,
    Uuid.ofDigits_digits]

def instant (s : JsString) : Option ℤ := (JsDate.parse s).map Int.ofNat

def platform : GatePlatform where
  rt := .sample Runtime.foldDigest
  isUuid := Uuid.isVersioned
  readUuid := readUuid
  readTimestamp := instant
  dateParse := instant
  isoText := some

theorem platform_reads : platform.ReadsUuids := readUuid_text

/-- An identifier whose text is that of a UUID of version 7. -/
def uuid (n : ℕ) : Uuid := 0x0190A6C27B3E7C1A9F52000000000000 + n

def checksum : Digest := Runtime.foldDigest (js "brief")

def run : RunRow where
  id := uuid 4
  companyId := uuid 3
  state := .awaitingBriefApproval
  stage := .product
  rowVersion := 7
  workflowVersion := "w1"
  targetingVersionId := uuid 5
  employeeDefinitionVersion := "e1"
  environmentDigest := Runtime.foldDigest (js "environment")
  budgetDigest := Runtime.foldDigest (js "budget")
  operatorKillVersion := 1
  cancellationRequestedAt := none
  updatedAt := js "2025-12-31T00:00:00.000Z"

def otherRun : RunRow := { run with id := uuid 14 }

def gate : GateInstanceRow where
  id := uuid 6
  companyId := uuid 3
  runId := uuid 4
  artifactId := uuid 8
  artifactVersionId := uuid 9
  artifactVersion := 2
  artifactChecksum := checksum
  status := .pending
  rowVersion := 1
  decidedAt := none

def otherGate : GateInstanceRow := { gate with id := uuid 16, runId := uuid 14 }

/-- A company with two runs that wait for the approval of their briefs. -/
def tables : ProofDb :=
  { ProofDb.empty with
    founders := [⟨uuid 2, "founder", .active, 1⟩]
    founderSessions := [⟨uuid 1, uuid 2, "founder", .active, 1000, 1⟩]
    companies := [⟨uuid 3, uuid 2, uuid 2, .active, 1⟩]
    policyTargetingVersions := [⟨uuid 5, uuid 3, uuid 10, "p1", Runtime.foldDigest (js "policy"), "w1", "e1",
      Runtime.foldDigest (js "environment"), Runtime.foldDigest (js "budget"), .active⟩]
    runs := [run, otherRun]
    artifactVersions := [⟨uuid 9, uuid 3, uuid 4, uuid 8, Runtime.foldDigest (js "content")⟩]
    gateInstances := [gate, otherGate] }

def start : GateState := ⟨ProofDb.empty.changedBy fun _ => tables, uuid 100⟩

def request : Gate01CommandRequest where
  authority := ⟨Uuid.text (uuid 1), js "founder", Uuid.text (uuid 3),
    some (js "2026-01-01T00:00:00.000Z")⟩
  idempotencyKey := Uuid.text (uuid 20)
  correlationId := Uuid.text (uuid 21)
  ifMatch := 7
  command :=
    { commandSchema := js "founder-decision-command/v1"
      commandId := Uuid.text (uuid 22)
      runId := Uuid.text (uuid 4)
      expected :=
        { runRowVersion := .ofNat 7
          runState := js "AWAITING_BRIEF_APPROVAL"
          runStage := js "PRODUCT"
          gate := js "GATE-01"
          gateInstanceId := Uuid.text (uuid 6)
          gateInstanceRowVersion := .ofNat 1
          artifactId := Uuid.text (uuid 8)
          artifactVersionId := Uuid.text (uuid 9)
          artifactVersion := .ofNat 2
          artifactChecksum := checksum }
      decision := .approve (js "founder-decision/v1") none }

def allow (reading : JsString) (input : Json) : Except EvaluationError PolicyDecisionV1 :=
  .ok (.allow
    { metadata := ⟨Uuid.text (uuid 30), .null, .null, reading⟩
      policyDecisionId := Uuid.text (uuid 30)
      policyRequestId := .null
      policyInputDigest := contractDigest platform.rt input
      policyVersionId := (input.member "policy" "version_id").getD .null
      policyVersion := (input.member "policy" "semantic_version").getD .null
      policyDigest := (input.member "policy" "digest").getD .null
      policyTargetingVersionId := (input.member "policy" "targeting_version_id").getD .null
      reasonCode := js "ACTION_ALLOWED"
      binding := expectedBinding platform.rt input
        (decisionBusinessDigest platform.rt request.command request.ifMatch)
      issuedAt := reading
      expiresAt := js "2026-01-01T00:05:00.000Z" })

def environment : CallEnvironment where
  policyDecision := allow
  clock := fun _ => js "2026-01-01T00:00:00.000Z"
  databaseNow := 0
  fails := fun _ => false

def actions : List GateAction := [.execute request environment, .elsewhere id 1]

theorem start_accounted : Accounted [] start :=
  (Accounted.empty (uuid 100)).changedBy (fun _ => tables) 0

def authorityKey (x : Except CommandError LockedFounderAuthority) : Option (Uuid × Uuid) :=
  match x with
  | .ok authority => some (authority.companyId, authority.founderId)
  | .error _ => none

theorem eq_ok_of_authorityKey {x : Except CommandError LockedFounderAuthority}
    {companyId founderId : Uuid} (h : authorityKey x = some (companyId, founderId)) :
    ∃ authority, x = .ok authority ∧ authority.companyId = companyId ∧
      authority.founderId = founderId := by
  cases x with
  | error e => cases h
  | ok authority =>
      obtain ⟨hcompany, hfounder⟩ := Prod.mk.inj (Option.some.inj h)
      exact ⟨authority, rfl, hcompany, hfounder⟩

/-- What the calls have stored, and for whom. -/
def summary (s : GateState) : ℕ × List (Uuid × Uuid × Uuid) × Option (Uuid × Uuid) :=
  (s.db.founderGateDecisions.length, s.db.commandReceipts.map CommandReceiptRow.key,
    authorityKey (lockCurrentAuthority platform request.authority (s.world environment)).1)

theorem actions_run : summary (Transition.run (GateState.step platform) start actions) =
    (1, [(uuid 3, uuid 2, uuid 20)], some (uuid 3, uuid 2)) := by
  decide +kernel

theorem request_key : platform.readUuid request.idempotencyKey = some (uuid 20) :=
  readUuid_text (uuid 20)

end GateDemo

/-! ## Histories -/

section

variable {platform : GatePlatform}

/-- **All or nothing.** Every history appends coherent entries to the tables, and every call appends
one or none. No two entries decide the same gate, answer the same key or share an identifier. -/
theorem GateState.accounted_after (hreads : platform.ReadsUuids) {s : GateState}
    {entries : List Entry} (h : Accounted entries s) (acts : List GateAction) :
    ∃ new, Accounted (entries ++ new) (Transition.run (step platform) s acts) :=
  (ledger_after hreads h acts).1

theorem GateState.accounted_after_demo : ∃ new, Accounted ([] ++ new)
    (Transition.run (step GateDemo.platform) GateDemo.start GateDemo.actions) :=
  accounted_after GateDemo.platform_reads GateDemo.start_accounted GateDemo.actions

/-- **Justified decisions.** Whatever the policy ports answer, each new decision of a founder was
made by a command of the history that found its gate and run as it expects them. -/
theorem GateState.decided_after (hreads : platform.ReadsUuids) {s : GateState}
    {entries : List Entry} (h : Accounted entries s) (acts : List GateAction)
    {d : FounderGateDecisionRow}
    (hd : d ∈ (Transition.run (step platform) s acts).db.founderGateDecisions)
    (hnew : d ∉ s.db.founderGateDecisions) :
    Transition.SomeStep (step platform) (DecidesBy platform d) s acts :=
  ((ledger_after hreads h acts).2 d hd).resolve_left hnew

theorem GateState.decided_after_demo : ∃ d, Transition.SomeStep (step GateDemo.platform)
    (DecidesBy GateDemo.platform d) GateDemo.start GateDemo.actions := by
  obtain ⟨d, hd⟩ := List.length_eq_one_iff.mp (Prod.mk.inj GateDemo.actions_run).1
  refine ⟨d, decided_after GateDemo.platform_reads GateDemo.start_accounted GateDemo.actions ?_ ?_⟩
  · rw [hd]
    exact List.mem_cons_self
  · intro hmem
    cases hmem

/-! ## One answer under a key -/

/-- The founder asks for what is answered under the key. -/
def GateState.Asks (platform : GatePlatform) (s : GateState) (r : Gate01CommandRequest)
    (env : CallEnvironment) (key : Uuid × Uuid × Uuid) : Prop :=
  ∃ authority k, (lockCurrentAuthority platform r.authority (s.world env)).1 = .ok authority ∧
    platform.readUuid r.idempotencyKey = some k ∧ key = (authority.companyId, authority.founderId, k)

theorem lockReceipt_of_mem {receipts : List CommandReceiptRow} {receipt : CommandReceiptRow}
    {found : Option CommandReceiptRow} {scope : ReceiptScope} (hnodup : (receipts.map (·.key)).Nodup)
    (hmem : receipt ∈ receipts)
    (hkey : receipt.key = (scope.companyId, scope.founderId, scope.idempotencyKey))
    (h : lockReceipt receipts scope = .ok found) :
    found = some receipt ∧ receipt.requestDigest = scope.requestDigest := by
  have hmatch : ∀ r : CommandReceiptRow, r.companyId = scope.companyId ∧
      r.founderId = scope.founderId ∧ r.idempotencyKey = scope.idempotencyKey ↔
        r.key = receipt.key := by
    intro r
    rw [hkey, CommandReceiptRow.key, Prod.mk.injEq, Prod.mk.injEq]
  have hfind : receipts.find? (fun r => r.companyId = scope.companyId ∧
      r.founderId = scope.founderId ∧ r.idempotencyKey = scope.idempotencyKey) = some receipt := by
    refine Table.find?_eq_some hmem (decide_eq_true ((hmatch receipt).mpr rfl)) fun r hr hp => ?_
    exact Table.eq_of_key_eq hnodup hr hmem ((hmatch r).mp (of_decide_eq_true hp))
  rw [lockReceipt, hfind] at h
  by_cases hdigest : receipt.requestDigest = scope.requestDigest
  · simp only [hdigest, ne_eq, not_true_eq_false, if_false] at h
    exact ⟨(Except.ok.inj h).symm, hdigest⟩
  · simp only [ne_eq, hdigest, not_false_eq_true, if_true] at h
    cases h

theorem answerOnce_of_receipt {input : FounderAuthorityInput}
    {idempotencyKey correlationId : JsString} {requestDigest : Digest}
    {work : DecisionWorkContext → GateOp (ℕ × Json)} {w w' : GateWorld} {answer : Json × Bool}
    {authority : LockedFounderAuthority} {k : Uuid} {receipt : CommandReceiptRow}
    (hlock : (lockCurrentAuthority platform input w).1 = .ok authority)
    (hk : platform.readUuid idempotencyKey = some k)
    (hnodup : (w.db.commandReceipts.map (·.key)).Nodup) (hmem : receipt ∈ w.db.commandReceipts)
    (hkey : receipt.key = (authority.companyId, authority.founderId, k))
    (h : answerOnce platform input idempotencyKey correlationId requestDigest work w =
      (.ok answer, w')) :
    w' = w ∧ receipt.requestDigest = requestDigest ∧
      answer = (receipt.responseBody.put "replayed" (.bool true), true) := by
  obtain ⟨authority', w₁, hlocked, h₁⟩ := Prog.bind_eq_ok.mp h
  have hw : Prog.Respects (· = ·) (lockCurrentAuthority platform input) :=
    lockCurrentAuthority_reads
  have hw₁ := hw w
  rw [hlocked] at hw₁ hlock
  obtain rfl : w = w₁ := hw₁
  obtain rfl : authority' = authority := Except.ok.inj hlock
  obtain ⟨k', hk', h₂⟩ := GateOp.uuid_bind_eq_ok.mp (GateOp.failpoint_bind_eq_ok h₁)
  obtain rfl : k = k' := Option.some.inj (hk.symm.trans hk')
  rw [GateOp.query_bind] at h₂
  obtain ⟨replay, hreplay, h₃⟩ := Prog.lift_bind_eq_ok.mp h₂
  obtain ⟨rfl, hdigest⟩ :=
    lockReceipt_of_mem hnodup hmem hkey (Except.mapError_eq_ok hreplay)
  have h₄ := GateOp.failpoint_bind_eq_ok h₃
  obtain ⟨-, h₅⟩ := Prog.ensure_bind_eq_ok.mp h₄
  obtain ⟨rfl, rfl⟩ := Prog.pure_eq_ok.mp h₅
  exact ⟨rfl, hdigest, rfl⟩

theorem unitOfWork_of_receipt {input : FounderAuthorityInput}
    {idempotencyKey correlationId : JsString} {requestDigest : Digest}
    {work : DecisionWorkContext → GateOp (ℕ × Json)} {w w' : GateWorld}
    {x : Except CommandError (Json × Bool)} {authority : LockedFounderAuthority} {k : Uuid}
    {receipt : CommandReceiptRow}
    (hlock : (lockCurrentAuthority platform input w).1 = .ok authority)
    (hk : platform.readUuid idempotencyKey = some k)
    (hnodup : (w.db.commandReceipts.map (·.key)).Nodup) (hmem : receipt ∈ w.db.commandReceipts)
    (hkey : receipt.key = (authority.companyId, authority.founderId, k))
    (h : unitOfWork platform input idempotencyKey correlationId requestDigest work w = (x, w')) :
    w'.db = w.db ∧ ∀ answer, x = .ok answer → receipt.requestDigest = requestDigest ∧
      answer = (receipt.responseBody.put "replayed" (.bool true), true) := by
  rcases hrun : answerOnce platform input idempotencyKey correlationId requestDigest work w with
    ⟨y, w₁⟩
  cases y with
  | error e =>
      have hrollback := h.symm.trans (Prog.bind_of_error (Prog.transaction_of_error hrun))
      obtain ⟨rfl, rfl⟩ := Prod.mk.inj hrollback
      exact ⟨rfl, fun _ hx => by cases hx⟩
  | ok answer =>
      obtain ⟨rfl, hdigest, rfl⟩ := answerOnce_of_receipt hlock hk hnodup hmem hkey hrun
      have hcommit := h.symm.trans (Prog.bind_of_ok (Prog.transaction_of_ok hrun))
      rcases GateOp.failpoint_cases .afterCommitBeforeReturn w₁ with hpass | hfail
      · obtain ⟨rfl, rfl⟩ := Prod.mk.inj (hcommit.trans (Prog.bind_of_ok hpass))
        exact ⟨rfl, fun _ hx => ⟨hdigest, (Except.ok.inj hx).symm⟩⟩
      · obtain ⟨rfl, rfl⟩ := Prod.mk.inj (hcommit.trans (Prog.bind_of_error hfail))
        exact ⟨rfl, fun _ hx => by cases hx⟩

def CommandReceiptRow.replayed (receipt : CommandReceiptRow) : Json :=
  (((receipt.responseBody.put "replayed" (.bool true)).field "receipt").getD (.obj [])).put
    "replayed" (.bool true)

theorem execute_of_receipt {svc : Gate01CommandService} {r : Gate01CommandRequest}
    {w : GateWorld} {authority : LockedFounderAuthority} {k : Uuid} {receipt : CommandReceiptRow}
    (hlock : (lockCurrentAuthority svc.platform r.authority w).1 = .ok authority)
    (hk : svc.platform.readUuid r.idempotencyKey = some k)
    (hnodup : (w.db.commandReceipts.map (·.key)).Nodup) (hmem : receipt ∈ w.db.commandReceipts)
    (hkey : receipt.key = (authority.companyId, authority.founderId, k)) :
    (svc.execute r w).2.db = w.db ∧ ∀ j, (svc.execute r w).1 = .ok j →
      receipt.requestDigest = decisionBusinessDigest svc.platform.rt r.command r.ifMatch ∧
        j = receipt.replayed := by
  rcases hexecute : svc.execute r w with ⟨result, w'⟩
  rcases check_cases (lift_reads _) hexecute with ⟨rfl, e, rfl⟩ | ⟨_, h₁⟩
  · exact ⟨rfl, fun _ hx => by cases hx⟩
  rcases check_cases (.ensure _ _) h₁ with ⟨rfl, e, rfl⟩ | ⟨_, h₂⟩
  · exact ⟨rfl, fun _ hx => by cases hx⟩
  rcases hunit : unitOfWork svc.platform r.authority r.idempotencyKey r.correlationId
    (decisionBusinessDigest svc.platform.rt r.command r.ifMatch) (svc.decide r) w with ⟨x, w₁⟩
  obtain ⟨hdb, hanswer⟩ := unitOfWork_of_receipt hlock hk hnodup hmem hkey hunit
  cases x with
  | error e =>
      obtain ⟨rfl, rfl⟩ := Prod.mk.inj (h₂.symm.trans (Prog.bind_of_error hunit))
      exact ⟨hdb, fun _ hx => by cases hx⟩
  | ok answer =>
      obtain ⟨hdigest, rfl⟩ := hanswer answer rfl
      have h₃ := (Prog.bind_of_ok hunit).symm.trans h₂
      rcases check_cases (.ensure _ _) h₃ with ⟨rfl, e, rfl⟩ | ⟨_, h₄⟩
      · exact ⟨hdb, fun _ hx => by cases hx⟩
      · obtain ⟨rfl, rfl⟩ := Prod.mk.inj h₄
        exact ⟨hdb, fun _ hx => ⟨hdigest, (Except.ok.inj hx).symm⟩⟩

/-- **One answer under a key.** What was once stored under a key stays stored, and a call of the same
founder under the key does nothing and is given back what is stored, if it says the same. -/
theorem GateState.answered_once (hreads : platform.ReadsUuids) {s : GateState}
    {entries : List Entry} (h : Accounted entries s) {receipt : CommandReceiptRow}
    (hmem : receipt ∈ s.db.commandReceipts) (acts : List GateAction) {r : Gate01CommandRequest}
    {env : CallEnvironment}
    (hasks : Asks platform (Transition.run (step platform) s acts) r env receipt.key) :
    let s' := Transition.run (step platform) s acts
    let call := Gate01CommandService.execute ⟨platform, env.policyDecision⟩ r (s'.world env)
    receipt ∈ s'.db.commandReceipts ∧ call.2.db = s'.db ∧ ∀ j, call.1 = .ok j →
      receipt.requestDigest = decisionBusinessDigest platform.rt r.command r.ifMatch ∧
        j = receipt.replayed := by
  obtain ⟨⟨new, hnew⟩, -⟩ := ledger_after hreads h acts
  have hkept : receipt ∈ (Transition.run (step platform) s acts).db.commandReceipts := by
    rw [hnew.records.commandReceipts, List.map_append, ← h.records.commandReceipts]
    exact List.mem_append_left _ hmem
  obtain ⟨authority, k, hlock, hk, hkey⟩ := hasks
  exact ⟨hkept, execute_of_receipt hlock hk hnew.keyed.commandReceipts hkept hkey⟩

theorem GateState.answered_once_demo : ∃ s receipt,
    s = Transition.run (step GateDemo.platform) GateDemo.start GateDemo.actions ∧
      receipt ∈ s.db.commandReceipts ∧ (Gate01CommandService.execute
        ⟨GateDemo.platform, GateDemo.environment.policyDecision⟩ GateDemo.request
          (s.world GateDemo.environment)).2.db = s.db := by
  obtain ⟨⟨new, hnew⟩, -⟩ :=
    ledger_after GateDemo.platform_reads GateDemo.start_accounted GateDemo.actions
  have hrun := GateDemo.actions_run
  generalize hs : Transition.run (step GateDemo.platform) GateDemo.start GateDemo.actions = s
    at hnew hrun
  obtain ⟨-, hrest⟩ := Prod.mk.inj hrun
  obtain ⟨hreceipts, hauthority⟩ := Prod.mk.inj hrest
  obtain ⟨receipt, hreceipt, hkey⟩ := List.map_eq_singleton_iff.mp hreceipts
  have hmem : receipt ∈ s.db.commandReceipts := by
    rw [hreceipt]
    exact List.mem_cons_self
  have hasks : Asks GateDemo.platform s GateDemo.request GateDemo.environment receipt.key := by
    obtain ⟨authority, hlock, hcompany, hfounder⟩ := GateDemo.eq_ok_of_authorityKey hauthority
    exact ⟨authority, GateDemo.uuid 20, hlock, GateDemo.request_key, by
      rw [hkey, hcompany, hfounder]⟩
  obtain ⟨hkept, hdb, -⟩ := answered_once GateDemo.platform_reads hnew hmem [] hasks
  exact ⟨s, receipt, rfl, hkept, hdb⟩

end

end GateProof

end Aico
