import Aico.ProviderSpike.RuntimeOutcomes

/-!
# What a step of the runtime changes

`Changes` lists what a step of the system does to the records of its store: nothing,
one new record that dispatches, or a change of one record, which an answer settles, a
cancellation cancels, or a fence or a repair notes.
-/

namespace Aico

open InMemoryProviderRuntimeStore ProviderRuntimeProof

namespace ProviderRuntime

/-- What a fence or a repair leaves of a record. -/
structure Noted (r r' : ProofInvocationRecord) : Prop where
  state : r'.state = r.state
  cancellationGeneration : r'.cancellationGeneration = r.cancellationGeneration
  retryCount : r'.retryCount = r.retryCount
  nextAttemptAt : r'.nextAttemptAt = r.nextAttemptAt
  committedDigest : r'.committedDigest = r.committedDigest

def canceledRecord (r : ProofInvocationRecord) : ProofInvocationRecord :=
  { r with cancellationGeneration := r.cancellationGeneration + 1, state := .canceled }

/-- What a step does to the records, the counters and the artifacts. -/
inductive Changes (checks : RuntimeChecks) (s s' : ProviderRuntime) : RuntimeAction → Prop
  | kept {act : RuntimeAction} (hkeeps : Keeps s.store s'.store)
      (hcalls : ∀ k frame, s'.calls k = some (.executing frame) →
        s.calls k = some (.executing frame))
      (hwaits : ∀ k frame, s.calls k = some (.executing frame) →
        s'.calls k = some (.executing frame) ∨
          s.store.byInvocation frame.request.invocationId = none)
      (hcancel : ∀ id, act = .cancel id → s.store.byInvocation id = none) : Changes checks s s' act
  | dispatched {k : ℕ} {request : ModelProviderInvocationRequest}
      {options : ProofExecutionOptions} {frame : ExecuteFrame} (hfree : s.calls k = none)
      (hrequest : frame.request = preparedRequest request options)
      (hgenerations : frame.generations = ⟨1, 0, 0⟩)
      (hdispatches : Dispatches frame.request s.store s'.store)
      (hcalls : s'.calls = Function.update s.calls k (some (.executing frame))) :
      Changes checks s s' (.execute k request options)
  | settled {k : ℕ} {answer : Option ModelProviderInvocationResult} {frame : ExecuteFrame}
      {r r' : ProofInvocationRecord} {n : ℕ} (hcall : s.calls k = some (.executing frame))
      (hsettled : Settled checks frame r answer r' n)
      (hbecomes : Becomes frame.request.invocationId r r' n s.store s'.store)
      (hcalls : s'.calls = Function.update s.calls k none) : Changes checks s s' (.invoked k answer)
  | reconciled {k : ℕ} {answer : Option ModelProviderInvocationResult}
      {request : ModelProviderInvocationRequest} {before r r' : ProofInvocationRecord} {n : ℕ}
      (hcall : s.calls k = some (.reconciling request before))
      (hwaiting : r.state = .reconciliationRequired)
      (hreconciled : Reconciled checks s.activeConfiguration s.activeTargetDecision request
        before r answer r' n)
      (hbecomes : Becomes request.invocationId r r' n s.store s'.store)
      (hcalls : s'.calls = Function.update s.calls k none) :
      Changes checks s s' (.lookedUp k answer)
  | canceled {invocationId : JsString} {r : ProofInvocationRecord}
      (hbecomes : Becomes invocationId r (canceledRecord r) 0 s.store s'.store)
      (hcalls : s'.calls = s.calls) : Changes checks s s' (.cancel invocationId)
  | noted {act : RuntimeAction} {invocationId : JsString} {r r' : ProofInvocationRecord}
      (hnoted : Noted r r') (hbecomes : Becomes invocationId r r' 0 s.store s'.store)
      (hcalls : s'.calls = s.calls) (hcancel : ∀ id, act ≠ .cancel id) : Changes checks s s' act

variable {checks : RuntimeChecks} {s : ProviderRuntime}

theorem changes_kept {act : RuntimeAction} {s' : ProviderRuntime}
    (hkeeps : Keeps s.store s'.store) (hcalls : s'.calls = s.calls)
    (hcancel : ∀ id, act ≠ .cancel id) : Changes checks s s' act :=
  .kept hkeeps (fun _ _ hk => hcalls ▸ hk) (fun _ _ hk => .inl (hcalls ▸ hk))
    fun id hact => absurd hact (hcancel id)

/-- A call that changes the record it finds, or none. -/
theorem changes_update {invocationId : JsString}
    {g : ProofInvocationRecord → ProofInvocationRecord} {act : RuntimeAction}
    (hnoted : ∀ r, Noted r (g r)) (hidentity : ∀ r, (g r).identity = r.identity)
    (hcancel : ∀ id, act ≠ .cancel id) :
    Changes checks s (s.ran (requireRecord invocationId >>= fun _ => update invocationId g)) act := by
  rcases hfind : s.store.byInvocation invocationId with _ | r
  · refine changes_kept ?_ rfl hcancel
    rw [ran, Prog.bind_of_error (requireRecord_of_none hfind)]
    exact refl s.store
  · exact .noted (hnoted r) (becomes_of_run (requireUpdate_of_found hfind (hidentity r))) rfl hcancel

theorem changes_cancel (invocationId : JsString) :
    Changes checks s (s.ran (cancel invocationId)) (.cancel invocationId) := by
  rcases hfind : s.store.byInvocation invocationId with _ | r
  · refine .kept ?_ (fun _ _ hk => hk) (fun _ _ hk => .inl hk) ?_
    · rw [ran, cancel, Prog.bind_of_error (requireRecord_of_none hfind)]
      exact refl s.store
    · rintro _ ⟨⟩
      exact hfind
  · exact .canceled (becomes_of_run (requireUpdate_of_found (g := canceledRecord) hfind rfl)) rfl

theorem changes_beginRepair (invocationId repairInvocationId reservationId : JsString) :
    Changes checks s (s.ran (beginRepair invocationId repairInvocationId reservationId))
      (.beginRepair invocationId repairInvocationId reservationId) := by
  have hkept {s' : ProviderRuntime} (hstore : s'.store = s.store) (hcalls : s'.calls = s.calls) :
      Changes checks s s' (.beginRepair invocationId repairInvocationId reservationId) :=
    changes_kept ⟨by rw [hstore], by rw [hstore], by rw [hstore]⟩ hcalls fun _ => nofun
  rcases hfind : s.store.byInvocation invocationId with _ | r
  · refine hkept ?_ rfl
    rw [ran, beginRepair, Prog.bind_of_error (requireRecord_of_none hfind)]
  rw [ran, beginRepair, Prog.bind_of_ok (requireRecord_of_some hfind)]
  unfold Prog.ensure
  by_cases hcap : r.repairCount < 1
  swap
  · exact hkept (by rw [if_neg hcap]; rfl) rfl
  by_cases hidentity : repairInvocationId ≠ invocationId
  swap
  · exact hkept (by rw [if_pos hcap, if_neg hidentity]; rfl) rfl
  by_cases hreservation : reservationId ∉ r.reservationIds
  swap
  · exact hkept (by rw [if_pos hcap, if_pos hidentity, if_neg hreservation]; rfl) rfl
  rw [if_pos hcap, if_pos hidentity, if_pos hreservation]
  have hnoted : Noted r { r with repairCount := r.repairCount + 1 } := ⟨rfl, rfl, rfl, rfl, rfl⟩
  exact .noted hnoted (.of_update (fun r => { r with repairCount := r.repairCount + 1 }) hfind rfl
    rfl rfl rfl) rfl fun _ => nofun

theorem changes_execute {k : ℕ} (hfree : s.calls k = none)
    (request : ModelProviderInvocationRequest) (options : ProofExecutionOptions) :
    Changes checks s (s.startExecute checks k request options) (.execute k request options) := by
  unfold startExecute
  dsimp only
  rcases execute_cases (s := s.store) s.now s.activeConfiguration
    s.activeTargetDecision request options with ⟨hframe, hkeeps⟩ | ⟨hframe, hdispatches⟩
  · split
    · next frame heq => exact absurd heq (hframe frame)
    · exact changes_kept hkeeps rfl fun _ => nofun
  · rw [hframe]
    exact .dispatched hfree rfl rfl hdispatches rfl

theorem changes (s : ProviderRuntime) (act : RuntimeAction) :
    Changes checks s (s.step checks act) act := by
  have hstill {act : RuntimeAction} (hcancel : ∀ id, act ≠ .cancel id) : Changes checks s s act :=
    changes_kept (refl s.store) rfl hcancel
  have hended {k : ℕ} {act : RuntimeAction} {store : InMemoryProviderRuntimeStore}
      (hstore : store = s.store) (hcancel : ∀ id, act ≠ .cancel id)
      (hmissing : ∀ frame, s.calls k = some (.executing frame) →
        s.store.byInvocation frame.request.invocationId = none) :
      Changes checks s ({ s with store := store }.ended k) act := by
    refine .kept ?_ (fun k' frame hk' => ?_) (fun k' frame hk' => ?_)
      fun id hact => absurd hact (hcancel id)
    · rw [hstore]
      exact refl s.store
    · simp only [ended, Function.update_apply] at hk'
      split at hk'
      · cases hk'
      · exact hk'
    · simp only [ended, Function.update_apply]
      split
      · next heq => exact .inr (hmissing frame (heq ▸ hk'))
      · exact .inl hk'
  cases act with
  | execute k request options =>
      rw [step]
      split
      · next hfree => exact changes_execute hfree request options
      · exact hstill fun _ => nofun
  | invoked k answer =>
      rw [step]
      split
      · next frame hk =>
          cases hfind : s.store.byInvocation frame.request.invocationId with
          | none =>
              refine hended (executeSettled_of_missing hfind) (fun _ => nofun) fun frame' hk' => ?_
              rw [hk] at hk'
              cases hk'
              exact hfind
          | some r =>
              obtain ⟨r', n, hsettled, hbecomes⟩ := executeSettled_of_found hfind
              exact .settled hk hsettled hbecomes rfl
      · exact hstill fun _ => nofun
  | reconcile k request =>
      rw [step]
      split
      · unfold startReconcile
        split
        · next hfree _ _ _ =>
            refine .kept (refl s.store) (fun k' frame hk' => ?_) (fun k' frame hk' => .inl ?_) nofun
            · dsimp only at hk'
              rw [Function.update_apply] at hk'
              split at hk'
              · cases hk'
              · exact hk'
            · dsimp only
              rw [Function.update_of_ne, hk']
              rintro rfl
              simp [hfree] at hk'
        · exact hstill fun _ => nofun
      · exact hstill fun _ => nofun
  | lookedUp k answer =>
      rw [step]
      split
      · next request before hk =>
          by_cases hwaiting : ∃ r, s.store.byInvocation request.invocationId = some r ∧
            r.state = .reconciliationRequired
          · obtain ⟨r, hfind, hstate⟩ := hwaiting
            obtain ⟨r', n, hreconciled, hbecomes⟩ :=
              reconcileSettled_of_waiting hfind hstate
            exact .reconciled hk hstate hreconciled hbecomes rfl
          · refine hended (reconcileSettled_of_not_waiting fun r hr hstate => ?_) (fun _ => nofun)
              fun frame hk' => ?_
            · exact hwaiting ⟨r, hr, hstate⟩
            · rw [hk] at hk'
              cases hk'
      · exact hstill fun _ => nofun
  | lookupFailed k =>
      rw [step]
      split
      · next request before hk =>
          refine hended rfl (fun _ => nofun) fun frame hk' => ?_
          rw [hk] at hk'
          cases hk'
      · exact hstill fun _ => nofun
  | cancel invocationId => exact changes_cancel invocationId
  | loseLease invocationId =>
      exact changes_update (fun _ => ⟨rfl, rfl, rfl, rfl, rfl⟩) (fun _ => rfl) fun _ => nofun
  | markTerminal invocationId =>
      exact changes_update (fun _ => ⟨rfl, rfl, rfl, rfl, rfl⟩) (fun _ => rfl) fun _ => nofun
  | beginRepair failedInvocationId repairInvocationId reservationId =>
      exact changes_beginRepair _ _ _
  | applyConfiguration | applyTarget | setCircuit | setKilled | wait =>
      exact changes_kept ⟨rfl, rfl, rfl⟩ rfl fun _ => nofun

end ProviderRuntime

end Aico
