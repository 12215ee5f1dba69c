import Aico.ProviderSpike.CommitBookkeeping

/-!
# A canceled invocation stays canceled

Once an invocation is canceled before its commit, its generations keep every candidate
out. Its state is another matter: a result that may not be kept, a candidate that is not
valid and a rate limit write it without a look at the cancellation (`Revives`). Where no
answer does so, the record stays canceled, waits for a reconciliation or is blocked.
-/

namespace Aico

open InMemoryProviderRuntimeStore ProviderRuntimeProof

namespace ProofInvocationRecord

def IsStopped (r : ProofInvocationRecord) : Prop :=
  r.state = .canceled ∨ r.state = .reconciliationRequired ∨ r.state = .blocked

structure IsHeld (r : ProofInvocationRecord) : Prop where
  canceled : 0 < r.cancellationGeneration
  uncommitted : ¬ r.IsCommitted
  stopped : r.IsStopped

/-- What a canceled record keeps: its identity and its schedule. -/
structure Follows (r r' : ProofInvocationRecord) : Prop where
  identity : r'.identity = r.identity
  retryCount : r'.retryCount = r.retryCount
  nextAttemptAt : r'.nextAttemptAt = r.nextAttemptAt

theorem Follows.refl (r : ProofInvocationRecord) : Follows r r := ⟨rfl, rfl, rfl⟩

theorem Follows.trans {r r' r'' : ProofInvocationRecord} (h : Follows r r')
    (h' : Follows r' r'') : Follows r r'' where
  identity := h'.identity.trans h.identity
  retryCount := h'.retryCount.trans h.retryCount
  nextAttemptAt := h'.nextAttemptAt.trans h.nextAttemptAt

end ProofInvocationRecord

open ProofInvocationRecord

namespace ProviderRuntimeProof

section Revives

variable (checks : RuntimeChecks) (frame : ExecuteFrame)

/-- The answer fails a canceled record or schedules its retry: the result may not be
kept, its candidate is not valid, or it reports a failure of a record that is past its
cancellation or that the scheduler takes. -/
def Revives (r : ProofInvocationRecord) (answer : Option ModelProviderInvocationResult) : Prop :=
  ∃ result ∈ answer, IsBound checks frame result ∧
    (checks.resultContainsCanary result = true ∨
      result.status = .failed ∧
        (r.state ≠ .canceled ∨ ∃ hint, RetryHint checks frame result r hint) ∨
      result.status = .succeeded ∧ candidateOf checks result = none)

variable {checks frame} {r r' : ProofInvocationRecord} {n : ℕ}

theorem withResult_nextAttemptAt (result : ModelProviderInvocationResult)
    (r : ProofInvocationRecord) : (withResult result r).nextAttemptAt = r.nextAttemptAt := by
  unfold withResult
  split
  · rfl
  · split <;> rfl

theorem withResult_follows (result : ModelProviderInvocationResult)
    (r : ProofInvocationRecord) : Follows r (withResult result r) :=
  ⟨withResult_identity result r, withResult_retryCount result r, withResult_nextAttemptAt result r⟩

theorem withResult_cancellationGeneration (result : ModelProviderInvocationResult)
    (r : ProofInvocationRecord) :
    (withResult result r).cancellationGeneration = r.cancellationGeneration :=
  congrArg Generations.cancellation (withResult_generations result r)

/-- A result leaves a canceled record stopped, unless it is a success or the failure of
a record that is past its cancellation. -/
theorem withResult_isStopped {result : ModelProviderInvocationResult}
    (hsucceeded : result.status ≠ .succeeded)
    (hfailed : result.status = .failed → r.state = .canceled) :
    (withResult result r).IsStopped := by
  unfold withResult
  split
  · next hcanceled => exact .inl hcanceled
  · next hcanceled =>
      cases hstatus : result.status with
      | unknown => exact .inr (.inl rfl)
      | canceled => exact .inl rfl
      | failed => exact absurd (hfailed hstatus) hcanceled
      | succeeded => exact absurd hstatus hsucceeded

theorem Settled.held {answer : Option ModelProviderInvocationResult}
    (h : Settled checks frame r answer r' n) (hframe : frame.generations = ⟨1, 0, 0⟩)
    (hr : r.IsHeld) (hrevives : ¬ Revives checks frame r answer) : Follows r r' ∧ r'.IsHeld := by
  have hfence : r.generations ≠ frame.generations := by
    intro heq
    have hzero : r.cancellationGeneration = 0 := congrArg Generations.cancellation (heq.trans hframe)
    exact hr.canceled.ne' hzero
  have hresult (result : ModelProviderInvocationResult) :
      0 < (withResult result r).cancellationGeneration ∧ ¬ (withResult result r).IsCommitted := by
    rw [withResult_cancellationGeneration, IsCommitted, withResult_committedDigest]
    exact ⟨hr.canceled, hr.uncommitted⟩
  have hfollows := withResult_follows (r := r)
  cases h with
  | rejected => exact ⟨⟨rfl, rfl, rfl⟩, hr.canceled, hr.uncommitted, .inr (.inl rfl)⟩
  | @dropped result hbound hcanary => exact absurd ⟨result, rfl, hbound, .inl hcanary⟩ hrevives
  | @recorded result hkept hstatus hretry =>
      refine ⟨hfollows result, (hresult result).1, (hresult result).2, ?_⟩
      refine withResult_isStopped hstatus fun hfailed => ?_
      by_contra hstate
      exact hrevives ⟨result, rfl, hkept.1, .inr (.inl ⟨hfailed, .inl hstate⟩)⟩
  | @retried result hint hkept hstatus hretry =>
      exact absurd ⟨result, rfl, hkept.1, .inr (.inl ⟨hstatus, .inr ⟨hint, hretry⟩⟩)⟩ hrevives
  | @invalid result hkept hstatus hcandidate =>
      exact absurd ⟨result, rfl, hkept.1, .inr (.inr ⟨hstatus, hcandidate⟩)⟩ hrevives
  | committed _ _ _ hfirst => exact absurd hfirst.1 hfence
  | @fenced result =>
      have hkeep := hfollows result
      exact ⟨⟨hkeep.identity, hkeep.retryCount, hkeep.nextAttemptAt⟩, (hresult result).1,
        (hresult result).2, .inr (.inl rfl)⟩

end Revives

section Reconciled

variable {checks : RuntimeChecks} {configuration : ModelProviderConfiguration}
  {targetDecision : ModelProviderTargetDecision} {request : ModelProviderInvocationRequest}
  {before r r' : ProofInvocationRecord} {n : ℕ}

theorem reconciled_follows (result : Option ModelProviderInvocationResult)
    (r : ProofInvocationRecord) : Follows r (reconciled result r) := by
  unfold reconciled
  split
  · exact ⟨rfl, rfl, rfl⟩
  · split <;> exact ⟨rfl, rfl, rfl⟩

theorem Reconciled.held {answer : Option ModelProviderInvocationResult}
    (h : Reconciled checks configuration targetDecision request before r answer r' n)
    (hr : r.IsHeld) : Follows r r' ∧ r'.IsHeld := by
  have hresult (result : Option ModelProviderInvocationResult) :
      0 < (reconciled result r).cancellationGeneration ∧ ¬ (reconciled result r).IsCommitted := by
    have hgenerations : (reconciled result r).cancellationGeneration = r.cancellationGeneration :=
      congrArg Generations.cancellation (reconciled_generations result r)
    refine ⟨hgenerations ▸ hr.canceled, ?_⟩
    rw [IsCommitted, reconciled_committedDigest]
    exact hr.uncommitted
  cases h with
  | blocked => exact ⟨⟨rfl, rfl, rfl⟩, hr.canceled, hr.uncommitted, .inr (.inr rfl)⟩
  | @recorded result _ _ _ hstatus =>
      refine ⟨reconciled_follows _ r, (hresult _).1, (hresult _).2, ?_⟩
      unfold reconciled
      dsimp only
      cases hanswer : result.status with
      | unknown => exact .inr (.inl rfl)
      | canceled | failed => exact .inr (.inr rfl)
      | succeeded => exact absurd hanswer hstatus
  | committed _ hunfenced _ _ hfence =>
      have hzero : r.cancellationGeneration = 0 :=
        congrArg Generations.cancellation (hfence.trans (generations_of_not_fencedBefore hunfenced))
      exact absurd hzero hr.canceled.ne'
  | @fenced result =>
      have hkeep := reconciled_follows (some result) r
      exact ⟨⟨hkeep.identity, hkeep.retryCount, hkeep.nextAttemptAt⟩, (hresult _).1,
        (hresult _).2, .inr (.inl rfl)⟩

end Reconciled

end ProviderRuntimeProof

namespace ProviderRuntime

variable {checks : RuntimeChecks} {s s' : ProviderRuntime} {act : RuntimeAction}

def FirstGenerations (s : ProviderRuntime) : Prop :=
  ∀ k frame, s.calls k = some (.executing frame) → frame.generations = ⟨1, 0, 0⟩

/-- No answer to an execution revives a record that was canceled before its commit. -/
def SparesCanceled (checks : RuntimeChecks) (s : ProviderRuntime) : RuntimeAction → Prop
  | .invoked k answer => ∀ frame, s.calls k = some (.executing frame) →
      ∀ r ∈ s.store.byInvocation frame.request.invocationId, r.IsHeld →
        ¬ Revives checks frame r answer
  | _ => True

theorem firstGenerations_of_changes (hchanges : Changes checks s s' act)
    (h : s.FirstGenerations) : s'.FirstGenerations := by
  have hended {k : ℕ} (hcalls : s'.calls = Function.update s.calls k none) :
      s'.FirstGenerations := by
    intro k' frame hk'
    rw [hcalls, Function.update_apply] at hk'
    split at hk'
    · cases hk'
    · exact h k' frame hk'
  cases hchanges with
  | kept _ hcalls => exact fun k frame hk => h k frame (hcalls k frame hk)
  | dispatched _ _ hgenerations _ hcalls =>
      intro k' frame' hk'
      rw [hcalls, Function.update_apply] at hk'
      split at hk'
      · cases hk'
        exact hgenerations
      · exact h k' frame' hk'
  | settled _ _ _ hcalls => exact hended hcalls
  | reconciled _ _ _ _ hcalls => exact hended hcalls
  | canceled _ hcalls => exact fun k frame hk => h k frame (hcalls ▸ hk)
  | noted _ _ hcalls => exact fun k frame hk => h k frame (hcalls ▸ hk)

def DistinctKeys (s : ProviderRuntime) : Prop :=
  (s.store.records.map ProofInvocationRecord.logicalKey).Nodup

theorem distinctKeys_of_changes (hchanges : Changes checks s s' act) (h : s.DistinctKeys) :
    s'.DistinctKeys := by
  have hbecame {invocationId : JsString} {r r' : ProofInvocationRecord} {n : ℕ}
      (hbecomes : Becomes invocationId r r' n s.store s'.store) : s'.DistinctKeys := by
    obtain ⟨newer, older, hbefore, hafter, -⟩ := hbecomes.split
    rw [DistinctKeys, hbefore, List.map_append, List.map_cons] at h
    rw [DistinctKeys, hafter, List.map_append, List.map_cons,
      logicalKey_of_identity hbecomes.identity]
    exact h
  cases hchanges with
  | kept hkeeps =>
      rw [DistinctKeys, hkeeps.records]
      exact h
  | dispatched _ _ _ hdispatches =>
      obtain ⟨configurationRef, schemaRef, hrecords⟩ := hdispatches.records
      rw [DistinctKeys, hrecords, List.map_cons, List.nodup_cons]
      refine ⟨fun hmem => ?_, h⟩
      obtain ⟨r, hr, hkey⟩ := List.mem_map.mp hmem
      exact List.find?_eq_none.mp hdispatches.free r hr (decide_eq_true hkey)
  | settled _ _ hbecomes => exact hbecame hbecomes
  | reconciled _ _ _ hbecomes => exact hbecame hbecomes
  | canceled hbecomes => exact hbecame hbecomes
  | noted _ hbecomes => exact hbecame hbecomes

theorem DistinctKeys.byLogicalKey (h : s.DistinctKeys) {r : ProofInvocationRecord}
    (hr : r ∈ s.store.records) : s.store.byLogicalKey r.logicalKey = some r := by
  refine Table.find?_eq_some hr (decide_eq_true rfl) fun r' hr' hkey => ?_
  exact Table.eq_of_key_eq h hr' hr (of_decide_eq_true hkey)

/-- A step whose answer revives no canceled record leaves a held record held. -/
theorem held_of_changes (hchanges : Changes checks s s' act) (hfirst : s.FirstGenerations)
    (hspares : SparesCanceled checks s act) {r : ProofInvocationRecord}
    (hr : r ∈ s.store.records) (hheld : r.IsHeld) :
    ∃ r' ∈ s'.store.records, Follows r r' ∧ r'.IsHeld := by
  have hbecame {invocationId : JsString} {r₀ r₀' : ProofInvocationRecord} {n : ℕ}
      (hbecomes : Becomes invocationId r₀ r₀' n s.store s'.store)
      (hchanged : r = r₀ → Follows r r₀' ∧ r₀'.IsHeld) :
      ∃ r' ∈ s'.store.records, Follows r r' ∧ r'.IsHeld := by
    rcases hbecomes.mem_before hr with heq | hmem
    · exact ⟨r₀', hbecomes.mem_changed, hchanged heq⟩
    · exact ⟨r, hmem, .refl r, hheld⟩
  cases hchanges with
  | kept hkeeps => exact ⟨r, hkeeps.records ▸ hr, .refl r, hheld⟩
  | dispatched _ _ _ hdispatches =>
      obtain ⟨configurationRef, schemaRef, hrecords⟩ := hdispatches.records
      exact ⟨r, hrecords ▸ List.mem_cons_of_mem _ hr, .refl r, hheld⟩
  | settled hcall hsettled hbecomes =>
      refine hbecame hbecomes ?_
      rintro rfl
      exact hsettled.held (hfirst _ _ hcall) hheld (hspares _ hcall _ hbecomes.found hheld)
  | reconciled _ _ hreconciled hbecomes =>
      refine hbecame hbecomes ?_
      rintro rfl
      exact hreconciled.held hheld
  | canceled hbecomes =>
      refine hbecame hbecomes ?_
      rintro rfl
      exact ⟨⟨rfl, rfl, rfl⟩, Nat.succ_pos _, hheld.uncommitted, .inl rfl⟩
  | noted hnoted hbecomes =>
      refine hbecame hbecomes ?_
      rintro rfl
      refine ⟨⟨hbecomes.identity, hnoted.retryCount, hnoted.nextAttemptAt⟩, ?_, ?_, ?_⟩
      · rw [hnoted.cancellationGeneration]
        exact hheld.canceled
      · rw [IsCommitted, hnoted.committedDigest]
        exact hheld.uncommitted
      · rw [IsStopped, hnoted.state]
        exact hheld.stopped

/-- What the run lemmas keep of the calls and the keys. -/
structure Orderly (s : ProviderRuntime) : Prop where
  firstGenerations : s.FirstGenerations
  distinctKeys : s.DistinctKeys

theorem orderly_step (h : s.Orderly) (act : RuntimeAction) : (s.step checks act).Orderly where
  firstGenerations := firstGenerations_of_changes (changes s act) h.firstGenerations
  distinctKeys := distinctKeys_of_changes (changes s act) h.distinctKeys

theorem orderly_initial (configuration : ModelProviderConfiguration)
    (targetDecision : ModelProviderTargetDecision) (now : ℤ) :
    (initial configuration targetDecision now).Orderly where
  firstGenerations := fun _ _ hk => by cases hk
  distinctKeys := List.nodup_nil

theorem orderly_run (h : s.Orderly) (acts : List RuntimeAction) : (s.after checks acts).Orderly :=
  Transition.run_invariant (P := Orderly) (fun _ act hs => orderly_step hs act) h acts

theorem held_run {acts : List RuntimeAction} (h : s.Orderly)
    (hspares : Transition.EachStep (fun s => s.step checks) (SparesCanceled checks) s acts)
    {r : ProofInvocationRecord} (hr : r ∈ s.store.records) (hheld : r.IsHeld) :
    ∃ r' ∈ (s.after checks acts).store.records, Follows r r' ∧ r'.IsHeld := by
  induction acts generalizing s r with
  | nil => exact ⟨r, hr, .refl r, hheld⟩
  | cons act acts ih =>
      obtain ⟨hact, hacts⟩ := hspares
      obtain ⟨r₁, hr₁, hfollows₁, hheld₁⟩ :=
        held_of_changes (changes s act) h.firstGenerations hact hr hheld
      obtain ⟨r₂, hr₂, hfollows₂, hheld₂⟩ := ih (orderly_step h act) hacts hr₁ hheld₁
      exact ⟨r₂, hr₂, hfollows₁.trans hfollows₂, hheld₂⟩

/-- Where no answer revives a canceled record, a record that was canceled before its
commit is canceled, waits for a reconciliation or is blocked ever after; no retry is
scheduled for it, and nothing is committed for it. -/
theorem cancellation_sticks (checks : RuntimeChecks)
    (configuration : ModelProviderConfiguration)
    (targetDecision : ModelProviderTargetDecision) (now : ℤ) (acts : List RuntimeAction)
    (hspares : Transition.EachStep (fun s => s.step checks) (SparesCanceled checks)
      (initial configuration targetDecision now) acts) :
    let start := initial configuration targetDecision now
    ∀ before invocationId since r, acts = before ++ .cancel invocationId :: since →
      (start.after checks before).store.byInvocation invocationId = some r →
      r.committedDigest = none →
      ∃ r', (start.after checks acts).store.byLogicalKey r.logicalKey = some r' ∧
        r'.identity = r.identity ∧
        (r'.state = .canceled ∨ r'.state = .reconciliationRequired ∨ r'.state = .blocked) ∧
        r'.retryCount = r.retryCount ∧ r'.nextAttemptAt = r.nextAttemptAt ∧
        r'.committedDigest = none := by
  rintro start before invocationId since r rfl hfound huncommitted
  obtain ⟨hbefore, hcancel, hsince⟩ := (Transition.eachStep_append _ _ _ _ _).mp hspares
  have hstart : start.Orderly := orderly_initial configuration targetDecision now
  have hs : (start.after checks before).Orderly := orderly_run hstart before
  obtain ⟨s', hrun, hbecomes⟩ := requireUpdate_of_found (g := canceledRecord) hfound rfl
  let canceling := (start.after checks before).step checks (.cancel invocationId)
  have hstep : canceling.store = s' := congrArg Prod.snd hrun
  have hcanceled : canceledRecord r ∈ canceling.store.records := by
    rw [hstep]
    exact hbecomes.mem_changed
  have hheld : (canceledRecord r).IsHeld :=
    ⟨Nat.succ_pos _, not_not.mpr huncommitted, .inl rfl⟩
  have horderly : canceling.Orderly := orderly_step hs _
  obtain ⟨r', hr', hfollows, hheld'⟩ := held_run horderly hsince hcanceled hheld
  have hend : start.after checks (before ++ .cancel invocationId :: since) =
      canceling.after checks since := Transition.run_append _ _ _ _
  have hidentity : r'.identity = r.identity := hfollows.identity
  refine ⟨r', ?_, hidentity, hheld'.stopped, hfollows.retryCount, hfollows.nextAttemptAt,
    not_not.mp hheld'.uncommitted⟩
  rw [hend, ← logicalKey_of_identity hidentity]
  exact (orderly_run horderly since).distinctKeys.byLogicalKey hr'

def demoCanceled : List RuntimeAction :=
  [.execute 0 demoRequest {}, .cancel [2], .invoked 0 (some ⟨.succeeded, none, none, .null⟩)]

theorem cancellation_sticks_demo :
    ∃ r', (demoStart.after demoChecks demoCanceled).store.byLogicalKey [1] = some r' ∧
      r'.committedDigest = none := by
  have hspares : Transition.EachStep (fun s => s.step demoChecks) (SparesCanceled demoChecks)
      demoStart demoCanceled := by
    refine ⟨trivial, trivial, ?_, trivial⟩
    rintro frame - r - - ⟨result, hresult, -, hrevives⟩
    cases hresult
    simp [demoChecks, candidateOf] at hrevives
  obtain ⟨r', hr', -, -, -, -, hcommitted⟩ := cancellation_sticks demoChecks _ _ _ demoCanceled
    hspares [.execute 0 demoRequest {}] [2] [.invoked 0 (some ⟨.succeeded, none, none, .null⟩)]
    _ rfl rfl rfl
  exact ⟨r', hr', hcommitted⟩

def demoRateLimited : List RuntimeAction :=
  [.execute 0 demoRequest {}, .cancel [2],
    .invoked 0 (some ⟨.failed, some ⟨.rateLimited, .dispatched, some [], false⟩, none, .null⟩)]

/-- A canceled invocation comes to wait for a retry, and another one to have failed. -/
theorem cancellation_sticks_fails :
    (∃ r ∈ (demoStart.after { demoChecks with parseDate := fun _ => some 1 }
        demoRateLimited).store.records,
      0 < r.cancellationGeneration ∧ r.committedDigest = none ∧ r.state = .retryWait) ∧
    ∃ r ∈ (demoStart.after
        { demoChecks with validateCandidate := fun _ => ⟨false, none, .null, []⟩ }
        demoCanceled).store.records,
      0 < r.cancellationGeneration ∧ r.committedDigest = none ∧ r.state = .failed := by
  decide

end ProviderRuntime

end Aico
