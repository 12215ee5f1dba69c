import Aico.ProviderSpike.RuntimeSteps

/-!
# What becomes of a record

Past its reservation an operation of the runtime finds one record, or throws before it
changes anything. `Becomes` is the change of that record, with the number of candidates
it commits. `Settled` and `Reconciled` list, case by case, what an answer of the adapter
makes of the record that it finds.
-/

namespace Aico

open InMemoryProviderRuntimeStore

def ProofSideEffectLedger.commitEffects (l : ProofSideEffectLedger) : List ℕ :=
  [l.candidateCommits, l.artifactEffects, l.taskEffects, l.stateEffects]

def ProofInvocationRecord.IsCommitted (r : ProofInvocationRecord) : Prop :=
  r.committedDigest ≠ none

instance (r : ProofInvocationRecord) : Decidable r.IsCommitted :=
  inferInstanceAs (Decidable (_ ≠ _))

namespace InMemoryProviderRuntimeStore

def committedInvocations (s : InMemoryProviderRuntimeStore) : List JsString :=
  s.committedArtifacts.map CommittedArtifact.invocationId

/-- The record `r` that the identifier finds becomes `r'`, and `n` candidates are
committed for it. -/
structure Becomes (invocationId : JsString) (r r' : ProofInvocationRecord) (n : ℕ)
    (s s' : InMemoryProviderRuntimeStore) : Prop where
  found : s.byInvocation invocationId = some r
  records : s'.records = Table.updateFirst (isInvocation invocationId) (fun _ => r') s.records
  identity : r'.identity = r.identity
  committedInvocations :
    s'.committedInvocations = List.replicate n invocationId ++ s.committedInvocations
  commitEffects : s'.ledger.commitEffects = s.ledger.commitEffects.map (· + n)

variable {invocationId : JsString} {r r' r'' : ProofInvocationRecord} {n m : ℕ}
  {s s' s'' : InMemoryProviderRuntimeStore}

theorem invocationId_of_identity (h : r'.identity = r.identity) :
    r'.invocationId = r.invocationId := congrArg (·.2.2.1) h

theorem logicalKey_of_identity (h : r'.identity = r.identity) :
    r'.logicalKey = r.logicalKey := congrArg (·.1) h

theorem invocationId_of_found (h : s.byInvocation invocationId = some r) :
    r.invocationId = invocationId := isInvocation_iff.mp (List.find?_some h)

theorem mem_of_found (h : s.byInvocation invocationId = some r) : r ∈ s.records :=
  List.mem_of_find?_eq_some h

namespace Becomes

theorem split (h : Becomes invocationId r r' n s s') :
    ∃ newer older, s.records = newer ++ r :: older ∧ s'.records = newer ++ r' :: older ∧
      ∀ q ∈ newer, q.invocationId ≠ invocationId := by
  obtain ⟨newer, older, hrecords, hnewer, hupdate⟩ := Table.exists_split_of_find? h.found
  exact ⟨newer, older, hrecords, h.records.trans (hupdate _),
    fun q hq => mt isInvocation_iff.mpr (hnewer q hq)⟩

theorem found_after (h : Becomes invocationId r r' n s s') :
    s'.byInvocation invocationId = some r' := by
  have hid : isInvocation invocationId r' = true := by
    rw [isInvocation_iff, invocationId_of_identity h.identity, invocationId_of_found h.found]
  obtain ⟨newer, older, -, hrecords, hnewer⟩ := h.split
  have hnone : newer.find? (isInvocation invocationId) = none :=
    List.find?_eq_none.mpr fun q hq hq' => hnewer q hq (isInvocation_iff.mp hq')
  rw [byInvocation, hrecords, List.find?_append, hnone, List.find?_cons_of_pos hid,
    Option.none_or]

theorem of_update (g : ProofInvocationRecord → ProofInvocationRecord)
    (hfound : s.byInvocation invocationId = some r) (hidentity : (g r).identity = r.identity)
    (hrecords : s'.records = Table.updateFirst (isInvocation invocationId) g s.records)
    (hartifacts : s'.committedArtifacts = s.committedArtifacts)
    (hledger : s'.ledger.commitEffects = s.ledger.commitEffects) :
    Becomes invocationId r (g r) 0 s s' where
  found := hfound
  records := by
    obtain ⟨newer, older, -, -, hupdate⟩ := Table.exists_split_of_find? hfound
    rw [hrecords, hupdate, hupdate]
  identity := hidentity
  committedInvocations := by
    rw [InMemoryProviderRuntimeStore.committedInvocations, hartifacts]
    rfl
  commitEffects := by
    rw [hledger]
    rfl

theorem refl (hfound : s.byInvocation invocationId = some r) :
    Becomes invocationId r r 0 s s :=
  of_update id hfound rfl (Update.refl invocationId s).records rfl rfl

theorem trans (h : Becomes invocationId r r' n s s') (h' : Becomes invocationId r' r'' m s' s'') :
    Becomes invocationId r r'' (n + m) s s'' where
  found := h.found
  records := by
    have hid : isInvocation invocationId r' = true := List.find?_some h.found_after
    rw [h'.records, h.records, Table.updateFirst_updateFirst fun _ _ => hid]
    rfl
  identity := h'.identity.trans h.identity
  committedInvocations := by
    rw [h'.committedInvocations, h.committedInvocations, ← List.append_assoc,
      ← List.replicate_add, Nat.add_comm m]
  commitEffects := by
    rw [h'.commitEffects, h.commitEffects, List.map_map]
    refine List.map_congr_left fun c _ => ?_
    exact Nat.add_assoc c n m

theorem countP (h : Becomes invocationId r r' n s s') (p : ProofInvocationRecord → Bool) :
    s'.records.countP p + (if p r then 1 else 0) = s.records.countP p + if p r' then 1 else 0 := by
  obtain ⟨newer, older, hbefore, hafter, -⟩ := h.split
  rw [hbefore, hafter, List.countP_append, List.countP_append, List.countP_cons,
    List.countP_cons]
  omega

/-- After the change a record is the changed one or an old one. -/
theorem mem_after (h : Becomes invocationId r r' n s s') {q : ProofInvocationRecord}
    (hq : q ∈ s'.records) : q = r' ∨ q ∈ s.records := by
  obtain ⟨newer, older, hbefore, hafter, -⟩ := h.split
  rw [hafter] at hq
  rw [hbefore]
  rcases List.mem_append.mp hq with hq | hq
  · exact .inr (List.mem_append_left _ hq)
  · rcases List.mem_cons.mp hq with rfl | hq
    · exact .inl rfl
    · exact .inr (List.mem_append_right _ (List.mem_cons_of_mem r hq))

/-- A record stays, unless it is the one that changes. -/
theorem mem_before (h : Becomes invocationId r r' n s s') {q : ProofInvocationRecord}
    (hq : q ∈ s.records) : q = r ∨ q ∈ s'.records := by
  obtain ⟨newer, older, hbefore, hafter, -⟩ := h.split
  rw [hbefore] at hq
  rw [hafter]
  rcases List.mem_append.mp hq with hq | hq
  · exact .inr (List.mem_append_left _ hq)
  · rcases List.mem_cons.mp hq with rfl | hq
    · exact .inl rfl
    · exact .inr (List.mem_append_right _ (List.mem_cons_of_mem r' hq))

theorem mem_changed (h : Becomes invocationId r r' n s s') : r' ∈ s'.records :=
  mem_of_found h.found_after

end Becomes

/-! ## The operations on a record that is found -/

theorem requireUpdate_of_found {g : ProofInvocationRecord → ProofInvocationRecord}
    (hfound : s.byInvocation invocationId = some r) (hidentity : (g r).identity = r.identity) :
    ∃ s', (requireRecord invocationId >>= fun _ => update invocationId g : StoreProg PUnit) s =
        (.ok ⟨⟩, s') ∧ Becomes invocationId r (g r) 0 s s' := by
  rw [Prog.bind_of_ok (requireRecord_of_some hfound)]
  exact ⟨_, rfl, .of_update g hfound hidentity rfl rfl rfl⟩

def TakesHint (parseDate : JsString → Option ℤ) (nextAttemptAt deadlineAt : JsString)
    (remaining maximum : ℤ) (r : ProofInvocationRecord) : Prop :=
  (∃ next ∈ parseDate nextAttemptAt, ∃ deadline ∈ parseDate deadlineAt, next ≤ deadline) ∧
    0 < remaining ∧ r.retryCount < maximum

/-- A retry is scheduled where the scheduler takes the hint, and else nothing changes. -/
theorem scheduleRetry_of_found (parseDate : JsString → Option ℤ)
    (nextAttemptAt deadlineAt : JsString) (remaining maximum : ℤ)
    (hfound : s.byInvocation invocationId = some r) :
    (TakesHint parseDate nextAttemptAt deadlineAt remaining maximum r ∧
      ∃ s', scheduleRetry parseDate invocationId nextAttemptAt deadlineAt remaining maximum s =
          (.ok true, s') ∧
        Becomes invocationId r { r with
          retryCount := r.retryCount + 1
          nextAttemptAt := some nextAttemptAt
          state := .retryWait } 0 s s') ∨
    (¬ TakesHint parseDate nextAttemptAt deadlineAt remaining maximum r ∧
      scheduleRetry parseDate invocationId nextAttemptAt deadlineAt remaining maximum s =
        (.ok false, s)) := by
  rw [scheduleRetry, Prog.bind_of_ok (requireRecord_of_some hfound)]
  rcases hnext : parseDate nextAttemptAt with _ | next
  · refine .inr ⟨?_, rfl⟩
    simp [TakesHint, hnext]
  rcases hdeadline : parseDate deadlineAt with _ | deadline
  · refine .inr ⟨?_, rfl⟩
    simp [TakesHint, hdeadline]
  dsimp only
  by_cases hlate : deadline < next
  · rw [if_pos hlate]
    refine .inr ⟨?_, rfl⟩
    simp [TakesHint, hnext, hdeadline, hlate]
  rw [if_neg hlate]
  by_cases hspent : remaining ≤ 0 ∨ maximum ≤ r.retryCount
  · rw [if_pos hspent]
    refine .inr ⟨?_, rfl⟩
    rintro ⟨-, hremaining, hcount⟩
    omega
  · rw [if_neg hspent]
    refine .inl ⟨⟨⟨next, hnext, deadline, hdeadline, by omega⟩, by omega, by omega⟩, _, rfl, ?_⟩
    exact .of_update (fun r => { r with
      retryCount := r.retryCount + 1
      nextAttemptAt := some nextAttemptAt
      state := .retryWait }) hfound rfl rfl rfl rfl

/-- A commit, or a candidate that is left to reconciliation. -/
theorem commitOrReconcile_of_found (expected : Generations) (digest : Digest)
    (hfound : s.byInvocation invocationId = some r) :
    ((r.generations = expected ∧ r.state = .dispatched) ∧
      ∃ s', ProviderRuntimeProof.commitOrReconcile invocationId expected digest s =
          (.ok true, s') ∧
        Becomes invocationId r { r with state := .succeeded, committedDigest := some digest }
          1 s s') ∨
    (¬ (r.generations = expected ∧ r.state = .dispatched) ∧
      ∃ s', ProviderRuntimeProof.commitOrReconcile invocationId expected digest s =
          (.ok false, s') ∧
        Becomes invocationId r { r with
          state := .reconciliationRequired
          dispatchPhase := .uncertain } 0 s s') := by
  by_cases hfence : r.generations ≠ expected ∨ r.state ≠ .dispatched
  · refine .inr ⟨fun h => hfence.elim (· h.1) (· h.2), ?_⟩
    have hcommit : commitCandidate invocationId expected digest s = (.ok false, s) := by
      rw [commitCandidate, Prog.bind_of_ok (requireRecord_of_some hfound), if_pos hfence]
      rfl
    rw [ProviderRuntimeProof.commitOrReconcile, Prog.bind_of_ok hcommit]
    obtain ⟨s', hrun, hbecomes⟩ := requireUpdate_of_found (g := fun r =>
      { r with state := .reconciliationRequired, dispatchPhase := .uncertain }) hfound rfl
    exact ⟨s', Prog.bind_of_ok hrun, hbecomes⟩
  · refine .inl ⟨by tauto, ?_⟩
    rw [ProviderRuntimeProof.commitOrReconcile, Prog.bind_apply, commitCandidate,
      Prog.bind_of_ok (requireRecord_of_some hfound), if_neg hfence]
    refine ⟨_, rfl, ?_⟩
    let commit (r : ProofInvocationRecord) : ProofInvocationRecord :=
      { r with state := .succeeded, committedDigest := some digest }
    have hupdate : Becomes invocationId r (commit r) 0 s (update invocationId commit s).2 :=
      .of_update commit hfound rfl rfl rfl rfl
    exact { hupdate with
      committedInvocations := rfl
      commitEffects := rfl }

end InMemoryProviderRuntimeStore

namespace ProviderRuntimeProof

section Settled

variable (checks : RuntimeChecks) (frame : ExecuteFrame)

def IsBound (result : ModelProviderInvocationResult) : Prop :=
  checks.assertResultBindings frame.request result frame.configuration = true

def IsKept (result : ModelProviderInvocationResult) : Prop :=
  IsBound checks frame result ∧ checks.resultContainsCanary result = false

def candidateOf (result : ModelProviderInvocationResult) : Option Json :=
  (checks.validateCandidate result).parsed.filter fun _ => (checks.validateCandidate result).valid

/-- The hint of a rate limit that the scheduler takes for the record. -/
def RetryHint (result : ModelProviderInvocationResult) (r : ProofInvocationRecord)
    (hint : JsString) : Prop :=
  ∃ failure ∈ result.failure, failure.classification = .rateLimited ∧
    failure.retryAfter = some hint ∧
    TakesHint checks.parseDate hint frame.request.deadlineAt
      (frame.options.remainingRetryBudget.getD 1) (frame.options.maximumRetries.getD 1) r

/-- What the answer to an execution makes of the record that it finds, and how many
candidates it commits. -/
inductive Settled (r : ProofInvocationRecord) :
    Option ModelProviderInvocationResult → ProofInvocationRecord → ℕ → Prop
  | rejected {answer : Option ModelProviderInvocationResult}
      (hanswer : ∀ result ∈ answer, ¬ IsBound checks frame result) :
      Settled r answer { r with
        state := .reconciliationRequired
        dispatchPhase := .uncertain } 0
  | dropped {result : ModelProviderInvocationResult} (hbound : IsBound checks frame result)
      (hcanary : checks.resultContainsCanary result = true) :
      Settled r (some result) { r with state := .failed } 0
  | recorded {result : ModelProviderInvocationResult} (hkept : IsKept checks frame result)
      (hstatus : result.status ≠ .succeeded)
      (hretry : result.status = .failed → ∀ hint, ¬ RetryHint checks frame result r hint) :
      Settled r (some result) (withResult result r) 0
  | retried {result : ModelProviderInvocationResult} {hint : JsString}
      (hkept : IsKept checks frame result) (hstatus : result.status = .failed)
      (hretry : RetryHint checks frame result r hint) :
      Settled r (some result) { withResult result r with
        retryCount := r.retryCount + 1
        nextAttemptAt := some hint
        state := .retryWait } 0
  | invalid {result : ModelProviderInvocationResult} (hkept : IsKept checks frame result)
      (hstatus : result.status = .succeeded) (hcandidate : candidateOf checks result = none) :
      Settled r (some result) { r with state := .failed } 0
  | committed {result : ModelProviderInvocationResult} {candidate : Json}
      (hkept : IsKept checks frame result) (hstatus : result.status = .succeeded)
      (hcandidate : candidateOf checks result = some candidate)
      (hfence : r.generations = frame.generations ∧ r.state ≠ .canceled) :
      Settled r (some result) { withResult result r with
        state := .succeeded
        committedDigest := some (checks.canonicalDigest candidate) } 1
  | fenced {result : ModelProviderInvocationResult} {candidate : Json}
      (hkept : IsKept checks frame result) (hstatus : result.status = .succeeded)
      (hcandidate : candidateOf checks result = some candidate)
      (hfence : ¬ (r.generations = frame.generations ∧ r.state ≠ .canceled)) :
      Settled r (some result) { withResult result r with
        state := .reconciliationRequired
        dispatchPhase := .uncertain } 0

variable {checks frame} {s : InMemoryProviderRuntimeStore} {r : ProofInvocationRecord}

/-- What follows the change of a record only reads. -/
theorem becomes_of_reads {α β : Type} {invocationId : JsString} {r r' : ProofInvocationRecord}
    {n : ℕ} {p : StoreProg α} {rest : α → StoreProg β}
    (h : Becomes invocationId r r' n s (p s).2) (hrest : ∀ a, Prog.Respects (· = ·) (rest a)) :
    Becomes invocationId r r' n s ((p >>= rest) s).2 := by
  rw [Prog.snd_bind_of_reads hrest]
  exact h

theorem becomes_of_run {α : Type} {invocationId : JsString} {r r' : ProofInvocationRecord}
    {n : ℕ} {p : StoreProg α} {a : α}
    (h : ∃ s', p s = (.ok a, s') ∧ Becomes invocationId r r' n s s') :
    Becomes invocationId r r' n s (p s).2 := by
  obtain ⟨s', hrun, h⟩ := h
  rw [hrun]
  exact h

theorem settleFailed_of_found {result : ModelProviderInvocationResult}
    (hfound : s.byInvocation frame.request.invocationId = some r) :
    (∃ hint, RetryHint checks frame result r hint ∧
      Becomes frame.request.invocationId r { r with
        retryCount := r.retryCount + 1
        nextAttemptAt := some hint
        state := .retryWait } 0 s (settleFailed checks frame result s).2) ∨
    ((∀ hint, ¬ RetryHint checks frame result r hint) ∧
      (settleFailed checks frame result s).2 = s) := by
  have hrest (b : Bool) : Prog.Respects (· = ·) (do
      let reasonClass := ((result.failure.map RuntimeFailure.classification).map
        FailureClassification.text).getD "FAILED"
      emitEvidence checks frame.request result reasonClass
      pure { failureReceipt frame.request reasonClass with
        retryScheduled := b
        repairEligible := (result.failure.map RuntimeFailure.classification) =
          some .validation } : StoreProg ProofExecutionReceipt) :=
    .bind (emitEvidence_reads _ _ _) fun _ => .pure _
  have hrun : (settleFailed checks frame result s).2 =
      (retryRateLimited checks frame result.failure s).2 := Prog.snd_bind_of_reads hrest s
  rw [hrun]
  cases hhint : result.failure.filter (fun f => f.classification = .rateLimited) >>=
      RuntimeFailure.retryAfter with
  | none =>
      have hread : retryRateLimited checks frame result.failure = pure false := by
        simp only [retryRateLimited, hhint]
      refine .inr ⟨?_, by rw [hread]; rfl⟩
      rintro hint ⟨failure, hfailure, hlimited, hafter, -⟩
      obtain hfailure : result.failure = some failure := hfailure
      simp [hfailure, Option.filter, hlimited, hafter] at hhint
  | some hint =>
      have hread : retryRateLimited checks frame result.failure =
          scheduleRetry checks.parseDate frame.request.invocationId hint
            frame.request.deadlineAt (frame.options.remainingRetryBudget.getD 1)
            (frame.options.maximumRetries.getD 1) := by
        simp only [retryRateLimited, hhint]
      obtain ⟨failure, hfilter, hafter⟩ := Option.bind_eq_some_iff.mp hhint
      obtain ⟨hfailure, hlimited⟩ := Option.filter_eq_some_iff.mp hfilter
      rw [hread]
      rcases scheduleRetry_of_found checks.parseDate hint frame.request.deadlineAt
        (frame.options.remainingRetryBudget.getD 1) (frame.options.maximumRetries.getD 1) hfound
        with ⟨htakes, hretried⟩ | ⟨htakes, hsame⟩
      · exact .inl ⟨hint, ⟨failure, hfailure, of_decide_eq_true hlimited, hafter, htakes⟩,
          becomes_of_run hretried⟩
      · refine .inr ⟨?_, by rw [hsame]⟩
        rintro hint' ⟨failure', hfailure', -, hafter', htakes'⟩
        obtain rfl : failure' = failure := Option.some.inj (hfailure'.symm.trans hfailure)
        obtain rfl : hint' = hint := Option.some.inj (hafter'.symm.trans hafter)
        exact htakes htakes'

theorem withResult_retryCount (result : ModelProviderInvocationResult)
    (r : ProofInvocationRecord) : (withResult result r).retryCount = r.retryCount := by
  unfold withResult
  split
  · rfl
  · split <;> rfl

theorem retryHint_withResult {result : ModelProviderInvocationResult} {hint : JsString} :
    RetryHint checks frame result (withResult result r) hint ↔
      RetryHint checks frame result r hint := by
  simp only [RetryHint, TakesHint, withResult_retryCount]

/-- A success leaves a record that is not canceled waiting for its commit. -/
theorem withResult_state_of_succeeded {result : ModelProviderInvocationResult}
    (hstatus : result.status = .succeeded) :
    (withResult result r).state = .dispatched ↔ r.state ≠ .canceled := by
  unfold withResult
  split
  · next hcanceled => simp [hcanceled]
  · next hcanceled => simp [hstatus, hcanceled]

/-- A candidate is committed, or left to reconciliation. -/
theorem settleCandidate_of_found {result : ModelProviderInvocationResult}
    (hkept : IsKept checks frame result) (hstatus : result.status = .succeeded)
    (hfound : s.byInvocation frame.request.invocationId = some r) :
    ∃ r' n, Settled checks frame r (some result) r' n ∧
      Becomes frame.request.invocationId r r' n s (settleCandidate checks frame result s).2 := by
  have hevidence (reasonClass : String) (receipt : ProofExecutionReceipt) :
      Prog.Respects (· = ·) (do
        emitEvidence checks frame.request result reasonClass
        pure receipt : StoreProg ProofExecutionReceipt) :=
    .bind (emitEvidence_reads _ _ _) fun _ => .pure _
  have hvalidation : (∃ candidate, candidateOf checks result = some candidate ∧
        ∃ receipt : Bool → ProofExecutionReceipt, settleCandidate checks frame result = (do
          recordResult frame.request.invocationId result
          let committed ← commitOrReconcile frame.request.invocationId frame.generations
            (checks.canonicalDigest candidate)
          emitEvidence checks frame.request result
            (if committed then "SUCCESS" else "LATE_RESULT_FENCED")
          pure (receipt committed))) ∨
      candidateOf checks result = none ∧
        ∃ receipt : ProofExecutionReceipt, settleCandidate checks frame result = (do
          markValidationFailed frame.request.invocationId
          emitEvidence checks frame.request result "VALIDATION"
          pure receipt) := by
    unfold settleCandidate candidateOf
    dsimp only
    cases hvalid : (checks.validateCandidate result).valid with
    | false => exact .inr ⟨by simp, _, by dsimp only⟩
    | true =>
        cases hparsed : (checks.validateCandidate result).parsed with
        | none => exact .inr ⟨rfl, _, by dsimp only⟩
        | some candidate => exact .inl ⟨candidate, rfl, fun committed => _, by dsimp only⟩
  rcases hvalidation with ⟨candidate, hcandidate, receipt, hprog⟩ | ⟨hcandidate, receipt, hprog⟩
  · rw [hprog]
    obtain ⟨s₁, hrun, hrecorded⟩ :=
      requireUpdate_of_found (g := withResult result) hfound (withResult_identity result r)
    rw [Prog.bind_of_ok (show recordResult _ result s = (.ok ⟨⟩, s₁) from hrun)]
    have hstate := withResult_state_of_succeeded (r := r) hstatus
    have hgenerations := withResult_generations result r
    rcases commitOrReconcile_of_found frame.generations (checks.canonicalDigest candidate)
      hrecorded.found_after with ⟨hfence, hcommit⟩ | ⟨hfence, hmark⟩
    · rw [hgenerations, hstate] at hfence
      refine ⟨_, 1, .committed hkept hstatus hcandidate hfence, ?_⟩
      exact hrecorded.trans (becomes_of_reads (becomes_of_run hcommit) fun _ => hevidence _ _)
    · rw [hgenerations, hstate] at hfence
      refine ⟨_, 0, .fenced hkept hstatus hcandidate hfence, ?_⟩
      exact hrecorded.trans (becomes_of_reads (becomes_of_run hmark) fun _ => hevidence _ _)
  · rw [hprog]
    refine ⟨_, 0, .invalid hkept hstatus hcandidate, ?_⟩
    have hfailed := becomes_of_run (requireUpdate_of_found (g := fun r =>
      { r with state := .failed }) hfound rfl)
    exact becomes_of_reads hfailed fun _ => hevidence _ _

/-- Where the execution finds its record, its answer settles the record. -/
theorem executeSettled_of_found {answer : Option ModelProviderInvocationResult}
    (hfound : s.byInvocation frame.request.invocationId = some r) :
    ∃ r' n, Settled checks frame r answer r' n ∧
      Becomes frame.request.invocationId r r' n s (executeSettled checks frame answer s).2 := by
  have hrejected := becomes_of_run (requireUpdate_of_found (g := fun r =>
    { r with state := .reconciliationRequired, dispatchPhase := .uncertain }) hfound rfl)
  have hfailed := becomes_of_run (requireUpdate_of_found (g := fun r =>
    { r with state := .failed }) hfound rfl)
  have hrecorded (result : ModelProviderInvocationResult) :=
    requireUpdate_of_found (g := withResult result) hfound (withResult_identity result r)
  have hevidence (result : ModelProviderInvocationResult) (reasonClass : String)
      (receipt : ProofExecutionReceipt) : Prog.Respects (· = ·) (do
        emitEvidence checks frame.request result reasonClass
        pure receipt : StoreProg ProofExecutionReceipt) :=
    .bind (emitEvidence_reads _ _ _) fun _ => .pure _
  rcases answer with _ | result
  · exact ⟨_, 0, .rejected nofun, becomes_of_reads hrejected fun _ => .pure _⟩
  unfold executeSettled
  dsimp only
  split
  · next hbound =>
      refine ⟨_, 0, .rejected ?_, becomes_of_reads hrejected fun _ => .pure _⟩
      rintro _ ⟨⟩
      simpa [IsBound] using hbound
  next hbound =>
  rw [Bool.not_eq_false] at hbound
  split
  · next hcanary => exact ⟨_, 0, .dropped hbound hcanary, becomes_of_reads hfailed fun _ => hevidence _ _ _⟩
  next hcanary =>
  rw [Bool.not_eq_true] at hcanary
  have hkept : IsKept checks frame result := ⟨hbound, hcanary⟩
  cases hstatus : result.status with
  | unknown | canceled =>
      refine ⟨_, 0, .recorded hkept (by simp [hstatus]) (by simp [hstatus]), ?_⟩
      exact becomes_of_reads (becomes_of_run (hrecorded result)) fun _ => hevidence _ _ _
  | failed =>
      dsimp only
      obtain ⟨s₁, hrun, hrecord⟩ := hrecorded result
      rw [Prog.bind_of_ok (show recordResult _ result s = (.ok ⟨⟩, s₁) from hrun)]
      rcases settleFailed_of_found hrecord.found_after with
        ⟨hint, hretry, hbecomes⟩ | ⟨hretry, hsame⟩
      · rw [withResult_retryCount] at hbecomes
        exact ⟨_, 0, .retried hkept hstatus (retryHint_withResult.mp hretry),
          hrecord.trans hbecomes⟩
      · refine ⟨_, 0, .recorded hkept (by simp [hstatus]) fun _ hint hhint =>
          hretry hint (retryHint_withResult.mpr hhint), ?_⟩
        rw [hsame]
        exact hrecord
  | succeeded => exact settleCandidate_of_found hkept hstatus hfound

/-- Where the execution finds no record, its answer changes nothing. -/
theorem executeSettled_of_missing {answer : Option ModelProviderInvocationResult}
    (hmissing : s.byInvocation frame.request.invocationId = none) :
    (executeSettled checks frame answer s).2 = s := by
  have hthrown {α : Type} (g : ProofInvocationRecord → ProofInvocationRecord)
      (rest : PUnit → StoreProg α) :
      (((requireRecord frame.request.invocationId >>= fun _ =>
        update frame.request.invocationId g) >>= rest) s).2 = s := by
    rw [Prog.bind_of_error (Prog.bind_of_error (requireRecord_of_none hmissing))]
  rcases answer with _ | result
  · exact hthrown _ _
  unfold executeSettled
  dsimp only
  split
  · exact hthrown _ _
  split
  · exact hthrown _ _
  cases result.status with
  | unknown | canceled | failed => exact hthrown _ _
  | succeeded =>
      dsimp only
      unfold settleCandidate
      dsimp only
      cases (checks.validateCandidate result).valid with
      | false => exact hthrown _ _
      | true =>
          cases (checks.validateCandidate result).parsed with
          | none | some candidate => exact hthrown _ _

end Settled

section Reconciled

variable (checks : RuntimeChecks) (configuration : ModelProviderConfiguration)
  (targetDecision : ModelProviderTargetDecision) (request : ModelProviderInvocationRequest)
  (before : ProofInvocationRecord)

/-- The answer says nothing that may be used: there is none, a fence was up, or the
checks reject it. -/
def IsUnusable (answer : Option ModelProviderInvocationResult) : Prop :=
  ∀ result ∈ answer, fencedBefore before = false →
    reconciledCandidate checks configuration targetDecision request result = none

/-- What the answer to a reconciliation makes of the record that it finds waiting, and
how many candidates it commits. -/
inductive Reconciled (r : ProofInvocationRecord) :
    Option ModelProviderInvocationResult → ProofInvocationRecord → ℕ → Prop
  | blocked {answer : Option ModelProviderInvocationResult}
      (hanswer : IsUnusable checks configuration targetDecision request before answer) :
      Reconciled r answer { r with state := .blocked } 0
  | recorded {result : ModelProviderInvocationResult}
      {candidate : Option (CandidateValidationResult × Json)}
      (hunfenced : fencedBefore before = false)
      (hcandidate : reconciledCandidate checks configuration targetDecision request result =
        some candidate)
      (hstatus : result.status ≠ .succeeded) :
      Reconciled r (some result) (reconciled (some result) r) 0
  | committed (digest : Digest) {result : ModelProviderInvocationResult}
      {candidate : Option (CandidateValidationResult × Json)}
      (hunfenced : fencedBefore before = false)
      (hcandidate : reconciledCandidate checks configuration targetDecision request result =
        some candidate)
      (hstatus : result.status = .succeeded) (hfence : r.generations = before.generations) :
      Reconciled r (some result) { reconciled (some result) r with
        state := .succeeded
        committedDigest := some digest } 1
  | fenced {result : ModelProviderInvocationResult}
      {candidate : Option (CandidateValidationResult × Json)}
      (hunfenced : fencedBefore before = false)
      (hcandidate : reconciledCandidate checks configuration targetDecision request result =
        some candidate)
      (hstatus : result.status = .succeeded) (hfence : r.generations ≠ before.generations) :
      Reconciled r (some result) { reconciled (some result) r with
        state := .reconciliationRequired
        dispatchPhase := .uncertain } 0

variable {checks configuration targetDecision request before}
  {s : InMemoryProviderRuntimeStore} {r : ProofInvocationRecord}

theorem exists_candidate_of_succeeded {result : ModelProviderInvocationResult}
    {candidate : Option (CandidateValidationResult × Json)}
    (h : reconciledCandidate checks configuration targetDecision request result = some candidate)
    (hstatus : result.status = .succeeded) : ∃ validated parsed, candidate = some (validated, parsed) := by
  unfold reconciledCandidate at h
  rw [if_pos hstatus] at h
  split at h
  · cases h
  dsimp only at h
  split at h
  · next validated parsed _ _ => exact ⟨_, _, (Option.some.inj h).symm⟩
  · cases h

theorem markReconciled_of_waiting (result : Option ModelProviderInvocationResult)
    (hfound : s.byInvocation request.invocationId = some r)
    (hwaiting : r.state = .reconciliationRequired) :
    ∃ s', markReconciled request.invocationId result s = (.ok ⟨⟩, s') ∧
      Becomes request.invocationId r (reconciled result r) 0 s s' := by
  rw [markReconciled, Prog.bind_of_ok (requireRecord_of_some hfound), Prog.ensure,
    if_pos hwaiting]
  exact ⟨_, rfl, .of_update (reconciled result) hfound (reconciled_identity result r) rfl rfl rfl⟩

theorem reconcileSettled_of_waiting {answer : Option ModelProviderInvocationResult}
    (hfound : s.byInvocation request.invocationId = some r)
    (hwaiting : r.state = .reconciliationRequired) :
    ∃ r' n, Reconciled checks configuration targetDecision request before r answer r' n ∧
      Becomes request.invocationId r r' n s
        (reconcileSettled checks configuration targetDecision request before answer s).2 := by
  have hblocked : Becomes request.invocationId r { r with state := .blocked } 0 s
      ((do
        markReconciled request.invocationId none
        pure (unknownReceipt request "RECONCILIATION_BLOCKED") :
          StoreProg ProofExecutionReceipt) s).2 :=
    becomes_of_reads (becomes_of_run (markReconciled_of_waiting none hfound hwaiting))
      fun _ => .pure _
  rcases answer with _ | result
  · exact ⟨_, 0, .blocked nofun, hblocked⟩
  unfold reconcileSettled
  dsimp only
  by_cases hfence : fencedBefore before = true
  · rw [if_pos hfence]
    exact ⟨_, 0, .blocked fun _ _ hopen => by simp [hfence] at hopen, hblocked⟩
  rw [if_neg hfence]
  rw [Bool.not_eq_true] at hfence
  cases hcandidate : reconciledCandidate checks configuration targetDecision request result with
  | none =>
      refine ⟨_, 0, .blocked ?_, hblocked⟩
      rintro _ ⟨⟩ -
      exact hcandidate
  | some candidate =>
      dsimp only
      obtain ⟨s₁, hrun, hmarked⟩ := markReconciled_of_waiting (some result) hfound hwaiting
      rw [Prog.bind_of_ok hrun]
      cases hstatus : result.status with
      | unknown | failed | canceled =>
          exact ⟨_, 0, .recorded hfence hcandidate (by simp [hstatus]), hmarked⟩
      | succeeded =>
          obtain ⟨validated, parsed, rfl⟩ := exists_candidate_of_succeeded hcandidate hstatus
          dsimp only
          have hstate : (reconciled (some result) r).state = .dispatched := by
            simp [reconciled, hstatus]
          have hgenerations := reconciled_generations (some result) r
          rcases commitOrReconcile_of_found before.generations (checks.canonicalDigest parsed)
            hmarked.found_after with ⟨⟨hfirst, -⟩, hcommit⟩ | ⟨hmoved, hmark⟩
          · refine ⟨_, 1, .committed (checks.canonicalDigest parsed) hfence hcandidate hstatus
              (hgenerations ▸ hfirst), ?_⟩
            exact hmarked.trans (becomes_of_reads (becomes_of_run hcommit) fun _ => .pure _)
          · refine ⟨_, 0, .fenced hfence hcandidate hstatus ?_, ?_⟩
            · exact fun heq => hmoved ⟨hgenerations.trans heq, hstate⟩
            · exact hmarked.trans (becomes_of_reads (becomes_of_run hmark) fun _ => .pure _)

theorem reconcileSettled_of_not_waiting {answer : Option ModelProviderInvocationResult}
    (h : ∀ r, s.byInvocation request.invocationId = some r →
      r.state ≠ .reconciliationRequired) :
    (reconcileSettled checks configuration targetDecision request before answer s).2 = s := by
  rcases reconcileSettled_cases configuration targetDecision request before
    answer s with hsame | ⟨r, hfound, hwaiting, -⟩
  · exact hsame
  · exact absurd hwaiting (h r hfound)

end Reconciled

/-! ## Beginning an execution -/

def dispatchedRecord (request : ModelProviderInvocationRequest)
    (configurationRef schemaRef : VersionReference) : ProofInvocationRecord :=
  { newRecord request configurationRef schemaRef with
    state := .dispatching
    dispatchPhase := .dispatched }

/-- The records, the counters and the artifacts stay. -/
structure Keeps (s s' : InMemoryProviderRuntimeStore) : Prop where
  records : s'.records = s.records
  ledger : s'.ledger = s.ledger
  committedArtifacts : s'.committedArtifacts = s.committedArtifacts

instance : IsPreorder InMemoryProviderRuntimeStore Keeps where
  refl _ := ⟨rfl, rfl, rfl⟩
  trans _ _ _ h h' := ⟨h'.records.trans h.records, h'.ledger.trans h.ledger,
    h'.committedArtifacts.trans h.committedArtifacts⟩

/-- The request is reserved under a free key, and its dispatch has begun. -/
structure Dispatches (request : ModelProviderInvocationRequest)
    (s s' : InMemoryProviderRuntimeStore) : Prop where
  free : s.byLogicalKey request.logicalIdempotencyKey = none
  records : ∃ configurationRef schemaRef,
    s'.records = dispatchedRecord request configurationRef schemaRef :: s.records
  commitEffects : s'.ledger.commitEffects = s.ledger.commitEffects
  committedArtifacts : s'.committedArtifacts = s.committedArtifacts

section Execute

variable {checks : RuntimeChecks} {s s' s'' : InMemoryProviderRuntimeStore}
  {request : ModelProviderInvocationRequest}

theorem Keeps.dispatches (h : Keeps s s') (h' : Dispatches request s' s'') :
    Dispatches request s s'' where
  free := by
    rw [byLogicalKey, ← h.records]
    exact h'.free
  records := h.records ▸ h'.records
  commitEffects := h'.commitEffects.trans (congrArg _ h.ledger)
  committedArtifacts := h'.committedArtifacts.trans h.committedArtifacts

theorem canStartNewAttempt_keeps (configurationDigest : Digest) (halfOpenProbe : Bool) :
    Prog.Respects Keeps (canStartNewAttempt configurationDigest halfOpenProbe) := by
  refine .bind (.gets _) fun target => .bind (.gets _) fun active => ?_
  refine .ite (.pure _) (.ite (.ite (.bind ?_ fun _ => .pure _) (.pure _)) (.pure _))
  exact .modify fun _ => ⟨rfl, rfl, rfl⟩

/-- What comes of a reservation: an error or a receipt and no change, or a dispatch. -/
theorem reserveAndDispatch_cases (request : ModelProviderInvocationRequest)
    (configuration : ModelProviderConfiguration) (options : ProofExecutionOptions)
    (s : InMemoryProviderRuntimeStore) :
    (∃ outcome, reserveAndDispatch configuration request options s = (outcome, s) ∧
      ∀ frame, outcome ≠ .ok (.invoking frame)) ∨
    ∃ s', reserveAndDispatch configuration request options s =
        (.ok (.invoking ⟨request, options, configuration, ⟨1, 0, 0⟩⟩), s') ∧
      Dispatches request s s' := by
  rcases hfind : s.byLogicalKey request.logicalIdempotencyKey with _ | record
  · have hthrown {e : String} (h : reserve request s = (.error e, s)) : ∃ outcome,
        reserveAndDispatch configuration request options s = (outcome, s) ∧
          ∀ frame, outcome ≠ .ok (.invoking frame) :=
      ⟨.error e, Prog.bind_of_error h, fun _ => nofun⟩
    rcases hconfiguration : request.providerConfiguration with _ | configurationRef
    · exact .inl (hthrown (reserve_of_missing hfind (.inl hconfiguration)))
    rcases hschema : request.outputSchema with _ | schemaRef
    · exact .inl (hthrown (reserve_of_missing hfind (.inr hschema)))
    obtain ⟨s', hrun, hreserves, hrecords, hledger⟩ := reserveAndDispatch_of_free
      hfind hconfiguration hschema
    refine .inr ⟨s', hrun, hfind, ⟨configurationRef, schemaRef, hrecords⟩, ?_, hreserves.2.1⟩
    rw [hledger]
    rfl
  · obtain ⟨outcome, hrun, hcreated⟩ := reserve_of_taken hfind
    rw [reserveAndDispatch, Prog.bind_of_ok hrun]
    cases outcome with
    | created r => exact absurd rfl (hcreated r)
    | duplicate r => exact .inl ⟨.ok (.returned (duplicateReceipt r)), rfl, fun _ => by simp⟩
    | collision r => exact .inl ⟨.ok (.returned _), rfl, fun _ => by simp⟩
    | reconciliationRequired r => exact .inl ⟨.ok (.returned _), rfl, fun _ => by simp⟩

/-- What an execution does before it waits. -/
theorem execute_cases (now : ℤ) (configuration : ModelProviderConfiguration)
    (targetDecision : ModelProviderTargetDecision) (supplied : ModelProviderInvocationRequest)
    (options : ProofExecutionOptions) :
    let p := execute checks now configuration targetDecision supplied options
    ((∀ frame, (p s).1 ≠ .ok (.invoking frame)) ∧ Keeps s (p s).2) ∨
      (p s).1 = .ok (.invoking
        ⟨preparedRequest supplied options, options, configuration, ⟨1, 0, 0⟩⟩) ∧
      Dispatches (preparedRequest supplied options) s (p s).2 := by
  unfold execute
  rcases checks.seededBoundarySource with code | ⟨⟩
  · exact .inl ⟨fun _ h => (by cases h), refl s⟩
  dsimp only
  cases refusal checks now configuration targetDecision (preparedRequest supplied options)
    options with
  | some receipt => exact .inl ⟨fun _ h => (by cases h), refl s⟩
  | none =>
      dsimp only
      by_cases hcanary : checks.requestContainsCanary (preparedRequest supplied options) = false
      · rw [Prog.ensure, if_pos hcanary,
          Prog.bind_of_ok (rfl : (pure ⟨⟩ : StoreProg PUnit) s = (.ok ⟨⟩, s)), Prog.bind_apply]
        have hkeeps := canStartNewAttempt_keeps configuration.configurationDigest
          options.halfOpenProbe s
        rcases hstart : canStartNewAttempt configuration.configurationDigest
          options.halfOpenProbe s with ⟨started, s₁⟩
        rw [hstart] at hkeeps
        rcases started with e | startable
        · exact .inl ⟨fun _ h => (by cases h), hkeeps⟩
        dsimp only
        cases startable with
        | false => exact .inl ⟨fun _ h => (by cases h), hkeeps⟩
        | true =>
            rw [if_neg (by decide)]
            rcases reserveAndDispatch_cases (preparedRequest supplied options) configuration options
              s₁ with ⟨outcome, hrun, hframe⟩ | ⟨s₂, hrun, hdispatches⟩
            · rw [hrun]
              exact .inl ⟨hframe, hkeeps⟩
            · rw [hrun]
              exact .inr ⟨rfl, hkeeps.dispatches hdispatches⟩
      · rw [Prog.ensure, if_neg hcanary]
        exact .inl ⟨fun _ h => (by cases h), refl s⟩

end Execute

end ProviderRuntimeProof

end Aico
