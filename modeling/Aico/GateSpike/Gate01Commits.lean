import Aico.GateSpike.Gate01Work

/-!
# What a call commits

A call of the service leaves the tables as they are, or it adds one coherent `Entry` to them under a
key that had no receipt (`Commits`). It commits only where it ends in a receipt or in the denial that
it has stored, or where it fails after the commit.
-/

theorem Except.mapError_eq_ok {ε ε' α : Type} {f : ε → ε'} {x : Except ε α} {a : α}
    (h : x.mapError f = .ok a) : x = .ok a := by
  cases x with
  | error e => cases h
  | ok b => exact congrArg Except.ok (Except.ok.inj h)

namespace Aico

namespace GateProof

/-- The tables with the rows of the entry. -/
def Entry.Stores (entry : Entry) (db db' : ProofDb) : Prop :=
  ∃ db₁, entry.toWork.Stores db db₁ ∧
    db' = { db₁ with commandReceipts := db₁.commandReceipts ++ [entry.receipt] }

def CommandReceiptRow.key (receipt : CommandReceiptRow) : Uuid × Uuid × Uuid :=
  (receipt.companyId, receipt.founderId, receipt.idempotencyKey)

/-- The entry is added to the tables, where its keys are free. -/
structure Entry.CommitsTo (entry : Entry) (w w' : GateWorld) : Prop where
  coherent : entry.Coherent
  stores : entry.Stores w.db w'.db
  drawn : Supply.Drawn w.nextId w'.nextId entry.ids
  policyFree : policyDecisionFree w.db entry.policy = true
  decisionFree : ∀ o ∈ entry.outcome, founderDecisionFree w.db o.decision = true
  keyFree : ∀ receipt ∈ w.db.commandReceipts, receipt.key ≠ entry.receipt.key

section

variable {platform : GatePlatform} {input : FounderAuthorityInput}
  {idempotencyKey correlationId : JsString} {requestDigest : Digest}
  {work : DecisionWorkContext → GateOp (ℕ × Json)} {w w' : GateWorld}

theorem lockCurrentAuthority_reads :
    Prog.Respects (· = ·) (lockCurrentAuthority platform input) :=
  .bind (GateOp.uuid_reads _) fun _ => .bind (.gets _) fun _ => .bind (.require _ _) fun _ =>
    .bind (.gets _) fun _ => .bind (.ensure _ _) fun _ => .bind (.gets _) fun _ =>
    .bind (.require _ _) fun _ => .bind (.ensure _ _) fun _ => .bind (GateOp.uuid_reads _) fun _ =>
    .bind (.gets _) fun _ => .bind (.require _ _) fun _ => .bind (.ensure _ _) fun _ => .pure _

theorem lockReceipt_eq_none {receipts : List CommandReceiptRow} {scope : ReceiptScope}
    (h : lockReceipt receipts scope = .ok none) : ∀ receipt ∈ receipts,
      receipt.key ≠ (scope.companyId, scope.founderId, scope.idempotencyKey) := by
  unfold lockReceipt at h
  split at h
  · next hfind =>
      intro receipt hmem hkey
      have hnot := List.find?_eq_none.mp hfind receipt hmem
      obtain ⟨hcompany, hfounder, hkey⟩ := by simpa [CommandReceiptRow.key] using hkey
      exact hnot (by simp [hcompany, hfounder, hkey])
  · split at h
    · cases h
    · cases h

/-- A request that is answered by work done for it. -/
structure Answering where
  context : DecisionWorkContext
  reached : GateWorld
  answer : ℕ × Json
  id : Uuid
  key : Uuid
  correlationId : Uuid

def Answering.receipt (a : Answering) : CommandReceiptRow :=
  receiptRow a.context a.id a.key a.correlationId a.answer.1 a.answer.2

/-- The work was done and its answer stored under a free key. -/
structure Answering.Completes (a : Answering) (platform : GatePlatform) (correlationId : JsString)
    (work : DecisionWorkContext → GateOp (ℕ × Json)) (w w' : GateWorld) : Prop where
  context : a.context.correlationId = correlationId
  correlationId : platform.readUuid correlationId = some a.correlationId
  keyFree : ∀ receipt ∈ w.db.commandReceipts, receipt.key ≠ a.receipt.key
  work : work a.context w = (.ok a.answer, a.reached)
  drawn : Supply.Drawn a.reached.nextId w'.nextId [a.id]
  db : w'.db =
    { a.reached.db with commandReceipts := a.reached.db.commandReceipts ++ [a.receipt] }

theorem answerOnce_eq_ok {result : Json × Bool}
    (h : answerOnce platform input idempotencyKey correlationId requestDigest work w =
      (.ok result, w')) :
    w' = w ∨ ∃ a : Answering, a.Completes platform correlationId work w w' ∧
      result = (a.answer.2, false) := by
  obtain ⟨authority, w₁, hlock, h₁⟩ := Prog.bind_eq_ok.mp h
  have hlocked : Prog.Respects (· = ·) (lockCurrentAuthority platform input) :=
    lockCurrentAuthority_reads
  have hw := hlocked w
  rw [hlock] at hw
  obtain rfl : w = w₁ := hw
  have h₂ := GateOp.failpoint_bind_eq_ok h₁
  obtain ⟨key, hkey, h₃⟩ := GateOp.uuid_bind_eq_ok.mp h₂
  rw [GateOp.query_bind] at h₃
  obtain ⟨replay, hreplay, h₄⟩ := Prog.lift_bind_eq_ok.mp h₃
  have h₅ := GateOp.failpoint_bind_eq_ok h₄
  cases replay with
  | some receipt =>
      obtain ⟨-, h₆⟩ := Prog.ensure_bind_eq_ok.mp h₅
      exact .inl (Prog.pure_eq_ok.mp h₆).2
  | none =>
      obtain ⟨answer, w₂, hwork, h₆⟩ := Prog.bind_eq_ok.mp h₅
      have h₇ := GateOp.failpoint_bind_eq_ok h₆
      rw [GateOp.newId_bind] at h₇
      obtain ⟨correlation, hcorrelation, h₈⟩ := GateOp.uuid_bind_eq_ok.mp h₇
      rw [GateOp.exec_bind] at h₈
      have h₉ := GateOp.failpoint_bind_eq_ok h₈
      obtain ⟨rfl, rfl⟩ := Prog.pure_eq_ok.mp h₉
      refine .inr ⟨⟨⟨authority, correlationId, requestDigest⟩, w₂, answer, w₂.nextId, key,
        correlation⟩, ?_, rfl⟩
      exact ⟨rfl, hcorrelation, lockReceipt_eq_none (Except.mapError_eq_ok hreplay), hwork,
        .one _, rfl⟩

/-- A failpoint is passed, or its error is thrown, and nothing is done. -/
theorem GateOp.failpoint_cases (stage : Gate01Failpoint) (w : GateWorld) :
    GateOp.failpoint stage w = (.ok ⟨⟩, w) ∨
      GateOp.failpoint stage w = (.error (.fault (.injected stage)), w) := by
  by_cases hfails : w.fails stage = false
  · left
    change Prog.ensure (w.fails stage = false) _ w = _
    rw [Prog.ensure, if_pos hfails]
    rfl
  · right
    change Prog.ensure (w.fails stage = false) _ w = _
    rw [Prog.ensure, if_neg hfails]
    rfl

/-- An error of the work rolls it back, and an error after the commit does not. -/
theorem unitOfWork_cases {result : Except CommandError (Json × Bool)}
    (h : unitOfWork platform input idempotencyKey correlationId requestDigest work w =
      (result, w')) :
    w'.db = w.db ∨ ∃ a : Answering, a.Completes platform correlationId work w w' ∧
      (result = .ok (a.answer.2, false) ∨
        result = .error (.fault (.injected .afterCommitBeforeReturn))) := by
  rcases hrun : answerOnce platform input idempotencyKey correlationId requestDigest work w with
    ⟨x, w₁⟩
  cases x with
  | error e =>
      have hrollback := h.symm.trans (Prog.bind_of_error (Prog.transaction_of_error hrun))
      obtain ⟨-, rfl⟩ := Prod.mk.inj hrollback
      exact .inl rfl
  | ok answer =>
      have hcommit := h.symm.trans (Prog.bind_of_ok (Prog.transaction_of_ok hrun))
      have hcases : w' = w₁ ∧ (result = .ok answer ∨
          result = .error (.fault (.injected .afterCommitBeforeReturn))) := by
        rcases GateOp.failpoint_cases .afterCommitBeforeReturn w₁ with hpass | hfail
        · obtain ⟨rfl, rfl⟩ := Prod.mk.inj (hcommit.trans (Prog.bind_of_ok hpass))
          exact ⟨rfl, .inl rfl⟩
        · obtain ⟨rfl, rfl⟩ := Prod.mk.inj (hcommit.trans (Prog.bind_of_error hfail))
          exact ⟨rfl, .inr rfl⟩
      obtain ⟨rfl, hresult⟩ := hcases
      rcases answerOnce_eq_ok hrun with rfl | ⟨a, ha, rfl⟩
      · exact .inl rfl
      · exact .inr ⟨a, ha, hresult⟩

theorem Work.DoneBy.commits {done : Work} {a : Answering}
    (hdone : done.DoneBy platform a.context a.answer w a.reached)
    (ha : a.Completes platform correlationId work w w') :
    Entry.CommitsTo ⟨done, a.receipt⟩ w w' := by
  have hcorrelation : done.policy.correlationId = a.correlationId := by
    have h := hdone.correlationId
    rw [ha.context, ha.correlationId] at h
    exact (Option.some.inj h).symm
  exact
    { coherent :=
        { work := hdone.coherent
          companyId := hdone.companyId.symm
          founderId := hdone.founderId.symm
          sessionId := hdone.sessionId.symm
          correlationId := hcorrelation.symm
          tells := hdone.tells }
      stores := ⟨_, hdone.stores, ha.db⟩
      drawn := hdone.drawn.append ha.drawn
      policyFree := hdone.policyFree
      decisionFree := hdone.decisionFree
      keyFree := ha.keyFree }

end

/-! ## Calls -/

section

variable {platform : GatePlatform} {svc : Gate01CommandService} {r : Gate01CommandRequest}
  {w w' : GateWorld}

/-- A call that has committed ends in a receipt where the command is allowed, and else in the denial
that is stored, if it does not fail after the commit. -/
def Ends {α : Type} (entry : Entry) (result : Except CommandError α) : Prop :=
  (entry.outcome.isSome ∧ ∃ receipt, result = .ok receipt) ∨
    (entry.outcome = none ∧ ∃ denied, result = .error (.denied denied)) ∨
    result = .error (.fault (.injected .afterCommitBeforeReturn))

/-- The gate that is decided is the one that was locked, and the tables of gates and runs are left as
its decision moves them. -/
def Work.DecidesLocked (work : Work) (r : Gate01CommandRequest) (db : ProofDb)
    (gates : List GateInstanceRow) (runs : List RunRow) : Prop :=
  ∃ context state runId gateInstanceId,
    gate01State db context.authority.companyId runId gateInstanceId = some state ∧
      work.Moves context r state db gates runs

/-- Work that is done in a transaction makes an entry of it. `P` is what is known of the work and of
the tables of gates and runs that it leaves. -/
theorem unitOfWork_entry {input : FounderAuthorityInput} {idempotencyKey correlationId : JsString}
    {requestDigest : Digest} {work : DecisionWorkContext → GateOp (ℕ × Json)}
    {P : Work → List GateInstanceRow → List RunRow → Prop} {x : Except CommandError (Json × Bool)}
    (hwork : ∀ context answer w₁, work context w = (.ok answer, w₁) → ∃ done : Work,
      done.DoneBy platform context answer w w₁ ∧ P done w₁.db.gateInstances w₁.db.runs)
    (h : unitOfWork platform input idempotencyKey correlationId requestDigest work w = (x, w')) :
    w'.db = w.db ∨ ∃ entry : Entry, entry.CommitsTo w w' ∧
      P entry.toWork w'.db.gateInstances w'.db.runs ∧
      ((∃ answer, x = .ok answer ∧
          Json.isText (answer.1.field "outcome") "DENY" = entry.outcome.isNone) ∨
        x = .error (.fault (.injected .afterCommitBeforeReturn))) := by
  rcases unitOfWork_cases h with hdb | ⟨a, ha, hx⟩
  · exact .inl hdb
  · obtain ⟨done, hdone, hP⟩ := hwork a.context a.answer a.reached ha.work
    refine .inr ⟨⟨done, a.receipt⟩, hdone.commits ha, ?_, ?_⟩
    · rw [ha.db]
      exact hP
    · rcases hx with rfl | rfl
      · exact .inl ⟨_, rfl, hdone.denies⟩
      · exact .inr rfl

/-- A check before anything is done. -/
theorem check_cases {α β : Type} {p : GateOp α} {k : α → GateOp β}
    (hp : Prog.Respects (· = ·) p) {result : Except CommandError β}
    (h : (p >>= k) w = (result, w')) :
    (w' = w ∧ ∃ e, result = .error e) ∨ ∃ a, k a w = (result, w') := by
  have hw := hp w
  rcases hrun : p w with ⟨x, w₁⟩
  rw [hrun] at hw
  obtain rfl : w = w₁ := hw
  cases x with
  | error e =>
      obtain ⟨rfl, rfl⟩ := Prod.mk.inj (h.symm.trans (Prog.bind_of_error hrun))
      exact .inl ⟨rfl, e, rfl⟩
  | ok a => exact .inr ⟨a, (Prog.bind_of_ok hrun).symm.trans h⟩

theorem lift_reads {α : Type} (x : Except CommandError α) :
    Prog.Respects (· = ·) (Prog.lift x : GateOp α) := fun _ => rfl

theorem receipt_cases {answer : Json × Bool} {receipt : Json} {result : Except CommandError Json}
    (h : (Prog.ensure (Json.isText (answer.1.field "outcome") "DENY" = false)
      (Gate01CommandService.deniedError answer.1) >>= fun _ => pure receipt) w = (result, w')) :
    w' = w ∧ ∀ entry : Entry,
      Json.isText (answer.1.field "outcome") "DENY" = entry.outcome.isNone → Ends entry result := by
  by_cases hdeny : Json.isText (answer.1.field "outcome") "DENY" = false
  · rw [Prog.ensure, if_pos hdeny] at h
    obtain ⟨rfl, rfl⟩ := Prod.mk.inj h
    refine ⟨rfl, fun entry hentry => .inl ⟨?_, receipt, rfl⟩⟩
    rw [hdeny] at hentry
    simpa using hentry.symm
  · rw [Prog.ensure, if_neg hdeny] at h
    obtain ⟨rfl, rfl⟩ := Prod.mk.inj h
    refine ⟨rfl, fun entry hentry => .inr (.inl ⟨?_, _, rfl⟩)⟩
    rw [Bool.not_eq_false] at hdeny
    rw [hdeny] at hentry
    simpa using hentry.symm

theorem execute_cases {result : Except CommandError Json} (hreads : svc.platform.ReadsUuids)
    (h : svc.execute r w = (result, w')) :
    w'.db = w.db ∨ ∃ entry : Entry, entry.CommitsTo w w' ∧
      entry.toWork.DecidesLocked r w.db w'.db.gateInstances w'.db.runs ∧ Ends entry result := by
  rcases check_cases (lift_reads _) h with ⟨rfl, -⟩ | ⟨_, h₁⟩
  · exact .inl rfl
  rcases check_cases (.ensure _ _) h₁ with ⟨rfl, -⟩ | ⟨_, h₂⟩
  · exact .inl rfl
  rcases hunit : unitOfWork svc.platform r.authority r.idempotencyKey r.correlationId
    (decisionBusinessDigest svc.platform.rt r.command r.ifMatch) (svc.decide r) w with ⟨x, w₁⟩
  have hentry := unitOfWork_entry
    (P := fun done gates runs => done.DecidesLocked r w.db gates runs)
    (fun context answer w₁ hwork => by
      obtain ⟨done, state, runId, gateInstanceId, hdone, hstate, hmoves⟩ :=
        decide_eq_ok hreads hwork
      exact ⟨done, hdone, context, state, runId, gateInstanceId, hstate, hmoves⟩) hunit
  cases x with
  | error e =>
      obtain ⟨rfl, rfl⟩ := Prod.mk.inj (h₂.symm.trans (Prog.bind_of_error hunit))
      rcases hentry with hdb | ⟨entry, hcommits, hdecides, ⟨_, hx, -⟩ | hx⟩
      · exact .inl hdb
      · cases hx
      · exact .inr ⟨entry, hcommits, hdecides, .inr (.inr (congrArg _ (Except.error.inj hx)))⟩
  | ok answer =>
      obtain ⟨rfl, hends⟩ := receipt_cases ((Prog.bind_of_ok hunit).symm.trans h₂)
      rcases hentry with hdb | ⟨entry, hcommits, hdecides, ⟨_, hx, hdenies⟩ | hx⟩
      · exact .inl hdb
      · obtain rfl := Except.ok.inj hx
        exact .inr ⟨entry, hcommits, hdecides, hends entry hdenies⟩
      · cases hx

theorem denial_cases {answer : Json × Bool} {result : Except CommandError PUnit}
    (h : (Prog.ensure (Json.isText (answer.1.field "outcome") "DENY" = true) (invalidContext 400) >>=
      fun _ => Prog.throw (Gate01CommandService.deniedError answer.1)) w = (result, w')) :
    w' = w ∧ (Json.isText (answer.1.field "outcome") "DENY" = true →
      result = .error (Gate01CommandService.deniedError answer.1)) := by
  by_cases hdeny : Json.isText (answer.1.field "outcome") "DENY" = true
  · rw [Prog.ensure, if_pos hdeny] at h
    obtain ⟨rfl, rfl⟩ := Prod.mk.inj h
    exact ⟨rfl, fun _ => rfl⟩
  · rw [Prog.ensure, if_neg hdeny] at h
    obtain ⟨-, rfl⟩ := Prod.mk.inj h
    exact ⟨rfl, fun h => absurd h hdeny⟩

theorem executeRedactedDenial_cases {input : Gate01CommandService.RedactedDenialRequest}
    {result : Except CommandError PUnit} (h : svc.executeRedactedDenial input w = (result, w')) :
    w'.db = w.db ∨ ∃ entry : Entry, entry.CommitsTo w w' ∧ entry.outcome = none ∧
      w'.db.gateInstances = w.db.gateInstances ∧ w'.db.runs = w.db.runs ∧ Ends entry result := by
  rcases check_cases (lift_reads _) h with ⟨rfl, -⟩ | ⟨_, h₁⟩
  · exact .inl rfl
  rcases hunit : unitOfWork svc.platform input.request.authority input.request.idempotencyKey
    input.request.correlationId (decisionBusinessDigest svc.platform.rt input.request.command
      input.request.ifMatch) (svc.denyRedacted input) w with ⟨x, w₁⟩
  have hentry := unitOfWork_entry
    (P := fun done gates runs => done.outcome = none ∧ gates = w.db.gateInstances ∧ runs = w.db.runs)
    (fun context answer w₁ hwork => denyRedacted_eq_ok hwork) hunit
  cases x with
  | error e =>
      obtain ⟨rfl, rfl⟩ := Prod.mk.inj (h₁.symm.trans (Prog.bind_of_error hunit))
      rcases hentry with hdb | ⟨entry, hcommits, ⟨hnone, hgates, hruns⟩, ⟨_, hx, -⟩ | hx⟩
      · exact .inl hdb
      · cases hx
      · exact .inr ⟨entry, hcommits, hnone, hgates, hruns,
          .inr (.inr (congrArg _ (Except.error.inj hx)))⟩
  | ok answer =>
      obtain ⟨rfl, hdenied⟩ := denial_cases ((Prog.bind_of_ok hunit).symm.trans h₁)
      rcases hentry with hdb | ⟨entry, hcommits, ⟨hnone, hgates, hruns⟩, ⟨_, hx, hdenies⟩ | hx⟩
      · exact .inl hdb
      · obtain rfl := Except.ok.inj hx
        rw [hnone] at hdenies
        exact .inr ⟨entry, hcommits, hnone, hgates, hruns, .inr (.inl ⟨hnone, _, hdenied hdenies⟩)⟩
      · cases hx

end

/-! ## The supply of identifiers -/

/-- No identifier is given back. -/
def Later (w w' : GateWorld) : Prop := w.nextId ≤ w'.nextId

instance : IsPreorder GateWorld Later where
  refl _ := le_refl _
  trans _ _ _ := le_trans

namespace Later

variable {platform : GatePlatform} {svc : Gate01CommandService} {context : DecisionWorkContext}
  {r : Gate01CommandRequest} {state : Gate01StateRow} {decision : AllowPolicyDecisionV1}

theorem newId : Prog.Respects Later GateOp.newId := fun w => Nat.le_succ w.nextId

theorem now : Prog.Respects Later GateOp.now := fun _ => le_refl _

theorem exec (f : ProofDb → ProofDb) : Prog.Respects Later (GateOp.exec f) := fun _ => le_refl _

theorem query {α : Type} (f : ProofDb → α) : Prog.Respects Later (GateOp.query f) := .gets _

theorem failpoint (stage : Gate01Failpoint) : Prog.Respects Later (GateOp.failpoint stage) :=
  .bind (.gets _) fun _ => .ensure _ _

theorem uuid (s : JsString) : Prog.Respects Later (GateOp.uuid platform s) := .require _ _

theorem timestamp (s : JsString) : Prog.Respects Later (GateOp.timestamp platform s) := .require _ _

theorem insertPolicyDecision (d : PolicyDecisionV1) :
    Prog.Respects Later (insertPolicyDecision platform context r d) :=
  .bind (.of_reads (policyDecisionRow_reads d)) fun _ => .bind (.ensure _ _) fun _ =>
    .bind (query _) fun _ => .bind (.ensure _ _) fun _ => .bind (query _) fun _ =>
    .bind (.ensure _ _) fun _ => exec _

theorem appendEvent (draft : EventDraft) :
    Prog.Respects Later (appendEvent platform context draft) :=
  .bind (uuid _) fun _ => .bind (query _) fun _ => .bind (exec _) fun _ => .bind newId fun _ =>
    .bind now fun _ => .bind (uuid _) fun _ => .bind (uuid _) fun _ => .bind (uuid _) fun _ =>
    .bind (timestamp _) fun _ => .bind (query _) fun _ => .bind (.ensure _ _) fun _ =>
    .bind (exec _) fun _ => .bind (failpoint _) fun _ => .bind newId fun _ =>
    .bind (exec _) fun _ => .bind (failpoint _) fun _ => .pure _

theorem appendCompanyPolicyEvent (commandId : JsString) (d : DenyPolicyDecisionV1) :
    Prog.Respects Later (appendCompanyPolicyEvent platform context commandId d) :=
  .bind newId fun _ => .bind now fun _ => .bind (uuid _) fun _ => .bind (uuid _) fun _ =>
    .bind (uuid _) fun _ => .bind (timestamp _) fun _ =>
    .bind (.bind (.ensure _ _) fun _ => .pure _) fun _ => .bind (exec _) fun _ =>
    .bind newId fun _ => .bind (exec _) fun _ => .pure _

theorem insertFounderDecision :
    Prog.Respects Later (insertFounderDecision platform context r state decision) :=
  .bind newId fun _ => .bind (uuid _) fun _ => .bind (uuid _) fun _ => .bind (uuid _) fun _ =>
    .bind (.ensure _ _) fun _ => .bind (.ensure _ _) fun _ => .bind (query _) fun _ =>
    .bind (.ensure _ _) fun _ => .bind (exec _) fun _ => .pure _

theorem moveGate : Prog.Respects Later (moveGate context r state decision) :=
  .bind (query _) fun _ => .bind (.ensure _ _) fun _ => .bind (.ensure _ _) fun _ => exec _

theorem moveRun : Prog.Respects Later (moveRun context r state decision) :=
  .bind (query _) fun _ => .bind (.ensure _ _) fun _ => .bind (.ensure _ _) fun _ => exec _

theorem bindArtifact (decisionRecordId : Uuid) :
    Prog.Respects Later (bindArtifact platform context r state decision decisionRecordId) := by
  unfold GateProof.bindArtifact
  cases r.command.decision.type with
  | requestRevision => exact .pure _
  | approve =>
      exact .bind newId fun _ => .bind (uuid _) fun _ => .bind (query _) fun _ =>
        .bind (.ensure _ _) fun _ => .bind (exec _) fun _ => .bind (failpoint _) fun _ => .pure _

theorem insertContinuation (decisionRecordId : Uuid) :
    Prog.Respects Later (insertContinuation platform context r state decision decisionRecordId) :=
  .bind newId fun _ => .bind (uuid _) fun _ => .bind (query _) fun _ => .bind (.ensure _ _) fun _ =>
    .bind (exec _) fun _ => .bind (failpoint _) fun _ => .pure _

theorem recordDecision (policyEventId : Uuid) :
    Prog.Respects Later (recordDecision platform context r state decision policyEventId) :=
  .bind insertFounderDecision fun _ => .bind (failpoint _) fun _ => .bind moveGate fun _ =>
    .bind moveRun fun _ => .bind (failpoint _) fun _ => .bind (bindArtifact _) fun _ =>
    .bind (insertContinuation _) fun _ => .bind (appendEvent _) fun _ => .pure _

theorem recordPolicyDecision (parts : PolicyInputParts) (d : PolicyDecisionV1) :
    Prog.Respects Later (svc.recordPolicyDecision parts d) := by
  refine .bind (insertPolicyDecision _) fun _ => .bind (failpoint _) fun _ =>
    .bind (appendEvent _) fun _ => ?_
  cases d with
  | deny d => exact .pure _
  | allow d => exact .bind (.ensure _ _) fun _ => recordDecision _

theorem of_quiet {α : Type} {p : GateOp α} (h : Prog.Respects Quiet p) : Prog.Respects Later p :=
  fun w => (h w).2

theorem buildPolicyInput (t : JsString) :
    Prog.Respects Later (buildPolicyInput platform context r state t) := by
  refine .bind newId fun _ => .bind newId fun _ => .bind (.require _ _) fun _ => ?_
  cases state.run.cancellationRequestedAt with
  | none => exact .pure _
  | some at_ => exact .bind (.require _ _) fun _ => .pure _

theorem decide : Prog.Respects Later (svc.decide r context) := by
  have hlock : Prog.Respects Later (lockGate01State svc.platform context.authority.companyId r) :=
    .bind (uuid _) fun _ => .bind (query _) fun _ => .bind (.require _ _) fun _ =>
      .bind (uuid _) fun _ => .bind (uuid _) fun _ => .bind (query _) fun _ => .require _ _
  exact .bind hlock fun _ => .bind now fun _ => .bind (buildPolicyInput _) fun parts =>
    .bind (of_quiet (quiet_settle svc parts)) fun _ => recordPolicyDecision _ _

theorem denyRedacted (input : Gate01CommandService.RedactedDenialRequest) :
    Prog.Respects Later (svc.denyRedacted input context) :=
  .bind (query _) fun _ => .bind (.require _ _) fun _ => .bind now fun _ => .bind newId fun _ =>
    .bind newId fun _ => .bind (insertPolicyDecision _) fun _ =>
    .bind (appendCompanyPolicyEvent _ _) fun _ => .pure _

theorem unitOfWork {input : FounderAuthorityInput} {idempotencyKey correlationId : JsString}
    {requestDigest : Digest} {work : DecisionWorkContext → GateOp (ℕ × Json)}
    (hwork : ∀ context, Prog.Respects Later (work context)) :
    Prog.Respects Later
      (unitOfWork platform input idempotencyKey correlationId requestDigest work) := by
  have hfirst : ∀ context key, Prog.Respects Later (firstAnswer platform context key work) :=
    fun context _ => .bind (hwork context) fun _ => .bind (failpoint _) fun _ => .bind newId fun _ =>
      .bind (uuid _) fun _ => .bind (exec _) fun _ => .bind (failpoint _) fun _ => .pure _
  have honce : Prog.Respects Later
      (answerOnce platform input idempotencyKey correlationId requestDigest work) := by
    refine .bind (.of_reads lockCurrentAuthority_reads) fun _ => .bind (failpoint _) fun _ =>
      .bind (uuid _) fun _ => .bind (query _) fun _ => .bind (fun _ => le_refl _) fun replay =>
      .bind (failpoint _) fun _ => ?_
    cases replay with
    | some receipt => exact .bind (.ensure _ _) fun _ => .pure _
    | none => exact hfirst _ _
  have htransaction : Prog.Respects Later (GateOp.transaction
      (answerOnce platform input idempotencyKey correlationId requestDigest work)) :=
    .transaction honce fun _ _ h => h
  exact .bind htransaction fun _ => .bind (failpoint _) fun _ => .pure _

theorem execute : Prog.Respects Later (svc.execute r) :=
  .bind (fun _ => le_refl _) fun _ => .bind (.ensure _ _) fun _ =>
    .bind (unitOfWork fun _ => decide) fun _ => .bind (.ensure _ _) fun _ => .pure _

theorem executeRedactedDenial (input : Gate01CommandService.RedactedDenialRequest) :
    Prog.Respects Later (svc.executeRedactedDenial input) :=
  .bind (fun _ => le_refl _) fun _ => .bind (unitOfWork fun _ => denyRedacted input) fun _ =>
    .bind (.ensure _ _) fun _ => .throw _

end Later

end GateProof

end Aico
