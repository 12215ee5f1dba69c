import Aico.ProviderSpike.DispatchOnce
import Aico.ProviderSpike.RuntimeChanges

/-!
# Commits and their counters

A record succeeds when its candidate is committed, and the counters of the ledger count
the committed records. Two calls do not look whether a record is committed before they
write its state: a cancellation, and the answer to an execution, which may find the
record of another key that reuses its invocation identifier. Where neither reaches a
committed record, the books are right in every state and a commit is final.
-/

namespace Aico

open InMemoryProviderRuntimeStore ProviderRuntimeProof

namespace ProofInvocationRecord

def IsBooked (r : ProofInvocationRecord) : Prop := r.state = .succeeded ↔ r.IsCommitted

end ProofInvocationRecord

namespace InMemoryProviderRuntimeStore

def committedRecords (s : InMemoryProviderRuntimeStore) : ℕ :=
  s.records.countP fun r => r.IsCommitted

def committedRecordsOf (s : InMemoryProviderRuntimeStore) (invocationId : JsString) : ℕ :=
  s.records.countP fun r => r.invocationId = invocationId ∧ r.IsCommitted

/-- The books are right: the states of the records, the counters and the artifacts. -/
structure Booked (s : InMemoryProviderRuntimeStore) : Prop where
  records : ∀ r ∈ s.records, r.IsBooked
  commitEffects : ∀ c ∈ s.ledger.commitEffects, c = s.committedRecords
  committedInvocations : ∀ id, s.committedInvocations.count id = s.committedRecordsOf id

variable {invocationId : JsString} {r r' : ProofInvocationRecord} {n : ℕ}
  {s s' : InMemoryProviderRuntimeStore}

/-- A change keeps the books right where the new state and the number of commits tell
whether the record is committed. -/
theorem Booked.of_becomes (h : Booked s) (hbecomes : Becomes invocationId r r' n s s')
    (hbooked : r'.IsBooked)
    (hcount : (if r'.IsCommitted then 1 else 0) = (if r.IsCommitted then 1 else 0) + n) :
    Booked s' where
  records q hq := by
    rcases hbecomes.mem_after hq with rfl | hq
    · exact hbooked
    · exact h.records q hq
  commitEffects c hc := by
    rw [hbecomes.commitEffects] at hc
    obtain ⟨c₀, hc₀, rfl⟩ := List.mem_map.mp hc
    have hcounted := hbecomes.countP fun r => r.IsCommitted
    simp only [decide_eq_true_eq] at hcounted
    rw [h.commitEffects c₀ hc₀, committedRecords, committedRecords]
    omega
  committedInvocations id := by
    have hid : r.invocationId = invocationId := invocationId_of_found hbecomes.found
    have hid' : r'.invocationId = invocationId :=
      (invocationId_of_identity hbecomes.identity).trans hid
    have hcounted := hbecomes.countP fun r => r.invocationId = id ∧ r.IsCommitted
    rw [hbecomes.committedInvocations, List.count_append, h.committedInvocations,
      committedRecordsOf, committedRecordsOf, List.count_replicate]
    simp only [decide_eq_true_eq, hid, hid'] at hcounted
    by_cases heq : invocationId = id
    · simp only [heq, true_and, beq_self_eq_true, if_true] at hcounted ⊢
      omega
    · simp only [heq, false_and, if_false, beq_iff_eq] at hcounted ⊢
      omega

/-- A new record is not committed. -/
theorem Booked.dispatches {request : ModelProviderInvocationRequest} (h : Booked s)
    (hdispatches : Dispatches request s s') : Booked s' := by
  obtain ⟨configurationRef, schemaRef, hrecords⟩ := hdispatches.records
  have hnew : ¬ (dispatchedRecord request configurationRef schemaRef).IsCommitted := by
    simp [ProofInvocationRecord.IsCommitted, dispatchedRecord, newRecord]
  exact {
    records := by
      rw [hrecords]
      refine List.forall_mem_cons.mpr ⟨?_, h.records⟩
      exact iff_of_false (by simp [dispatchedRecord]) hnew
    commitEffects := by
      rw [hdispatches.commitEffects, committedRecords, hrecords, List.countP_cons_of_neg (by simpa)]
      exact h.commitEffects
    committedInvocations := fun id => by
      rw [InMemoryProviderRuntimeStore.committedInvocations, hdispatches.committedArtifacts,
        committedRecordsOf, hrecords, List.countP_cons_of_neg (by simp [hnew])]
      exact h.committedInvocations id }

end InMemoryProviderRuntimeStore

namespace ProviderRuntimeProof

variable {checks : RuntimeChecks} {frame : ExecuteFrame} {r r' : ProofInvocationRecord} {n : ℕ}

theorem withResult_committedDigest (result : ModelProviderInvocationResult)
    (r : ProofInvocationRecord) : (withResult result r).committedDigest = r.committedDigest := by
  unfold withResult
  split
  · rfl
  · split <;> rfl

theorem withResult_state_ne_succeeded (result : ModelProviderInvocationResult)
    (r : ProofInvocationRecord) : (withResult result r).state ≠ .succeeded := by
  unfold withResult
  split
  · next hcanceled => simp [hcanceled]
  · split <;> simp

/-- An answer that finds its record uncommitted keeps the books. -/
theorem Settled.booked {answer : Option ModelProviderInvocationResult}
    (h : Settled checks frame r answer r' n) (hr : ¬ r.IsCommitted) :
    r'.IsBooked ∧ n = if r'.IsCommitted then 1 else 0 := by
  have hrecorded (result : ModelProviderInvocationResult) : (withResult result r).committedDigest = none := by
    rw [withResult_committedDigest]
    exact not_not.mp hr
  rw [ProofInvocationRecord.IsCommitted, not_not] at hr
  cases h with
  | rejected | dropped | invalid => simp [ProofInvocationRecord.IsBooked, ProofInvocationRecord.IsCommitted, hr]
  | recorded =>
      simp [ProofInvocationRecord.IsBooked, ProofInvocationRecord.IsCommitted, hrecorded,
        withResult_state_ne_succeeded]
  | retried | fenced =>
      simp [ProofInvocationRecord.IsBooked, ProofInvocationRecord.IsCommitted, hrecorded]
  | committed => simp [ProofInvocationRecord.IsBooked, ProofInvocationRecord.IsCommitted]

theorem reconciled_committedDigest (result : Option ModelProviderInvocationResult)
    (r : ProofInvocationRecord) : (reconciled result r).committedDigest = r.committedDigest := by
  unfold reconciled
  split
  · rfl
  · split <;> rfl

theorem reconciled_state_ne_succeeded (result : Option ModelProviderInvocationResult)
    (r : ProofInvocationRecord) : (reconciled result r).state ≠ .succeeded := by
  unfold reconciled
  split
  · simp
  · split <;> simp

theorem Reconciled.booked {configuration : ModelProviderConfiguration}
    {targetDecision : ModelProviderTargetDecision} {request : ModelProviderInvocationRequest}
    {before : ProofInvocationRecord} {answer : Option ModelProviderInvocationResult}
    (h : Reconciled checks configuration targetDecision request before r answer r' n)
    (hr : ¬ r.IsCommitted) : r'.IsBooked ∧ n = if r'.IsCommitted then 1 else 0 := by
  have hrecorded (result : Option ModelProviderInvocationResult) :
      (reconciled result r).committedDigest = none := by
    rw [reconciled_committedDigest]
    exact not_not.mp hr
  rw [ProofInvocationRecord.IsCommitted, not_not] at hr
  cases h with
  | blocked => simp [ProofInvocationRecord.IsBooked, ProofInvocationRecord.IsCommitted, hr]
  | recorded =>
      simp [ProofInvocationRecord.IsBooked, ProofInvocationRecord.IsCommitted, hrecorded,
        reconciled_state_ne_succeeded]
  | fenced => simp [ProofInvocationRecord.IsBooked, ProofInvocationRecord.IsCommitted, hrecorded]
  | committed => simp [ProofInvocationRecord.IsBooked, ProofInvocationRecord.IsCommitted]

end ProviderRuntimeProof

namespace ProviderRuntime

variable {checks : RuntimeChecks} {s s' : ProviderRuntime} {act : RuntimeAction}

def overwrites (s : ProviderRuntime) : RuntimeAction → Option JsString
  | .cancel invocationId => some invocationId
  | .invoked k _ =>
      match s.calls k with
      | some (.executing frame) => some frame.request.invocationId
      | _ => none
  | _ => none

/-- The record that the call writes, if it writes one, is not committed. -/
def SparesCommitted (s : ProviderRuntime) (act : RuntimeAction) : Prop :=
  ∀ id ∈ s.overwrites act, ∀ r ∈ s.store.byInvocation id, ¬ r.IsCommitted

instance (s : ProviderRuntime) (act : RuntimeAction) : Decidable (s.SparesCommitted act) := by
  unfold SparesCommitted
  infer_instance

theorem not_isCommitted_of_waiting {r : ProofInvocationRecord} (h : r.IsBooked)
    (hwaiting : r.state = .reconciliationRequired) : ¬ r.IsCommitted := fun hcommitted => by
  have hstate := h.mpr hcommitted
  rw [hwaiting] at hstate
  cases hstate

/-- A step that reaches no committed record keeps the books right. -/
theorem booked_of_changes (hchanges : Changes checks s s' act) (h : s.store.Booked)
    (hspares : s.SparesCommitted act) : s'.store.Booked := by
  have hsettled {invocationId : JsString} {r r' : ProofInvocationRecord} {n : ℕ}
      (hbecomes : Becomes invocationId r r' n s.store s'.store) (hr : ¬ r.IsCommitted)
      (hr' : r'.IsBooked ∧ n = if r'.IsCommitted then 1 else 0) : s'.store.Booked :=
    h.of_becomes hbecomes hr'.1 (by rw [hr'.2, if_neg hr, Nat.zero_add])
  cases hchanges with
  | kept hkeeps =>
      exact {
        records := hkeeps.records ▸ h.records
        commitEffects := by
          rw [hkeeps.ledger, committedRecords, hkeeps.records]
          exact h.commitEffects
        committedInvocations := by
          rw [InMemoryProviderRuntimeStore.committedInvocations, hkeeps.committedArtifacts]
          simp only [committedRecordsOf, hkeeps.records]
          exact h.committedInvocations }
  | dispatched _ _ _ hdispatches => exact h.dispatches hdispatches
  | settled hcall hanswer hbecomes =>
      have hr := hspares _ (by rw [overwrites, hcall]; rfl) _ hbecomes.found
      exact hsettled hbecomes hr (hanswer.booked hr)
  | reconciled _ hwaiting hanswer hbecomes =>
      have hr := not_isCommitted_of_waiting (h.records _ (mem_of_found hbecomes.found)) hwaiting
      exact hsettled hbecomes hr (hanswer.booked hr)
  | canceled hbecomes =>
      have hr := hspares _ rfl _ hbecomes.found
      refine hsettled hbecomes hr ⟨iff_of_false (by simp [canceledRecord]) hr, ?_⟩
      exact (if_neg hr).symm
  | noted hnoted hbecomes =>
      have hcommitted := hnoted.committedDigest
      have hr := h.records _ (mem_of_found hbecomes.found)
      refine h.of_becomes hbecomes ?_ ?_
      · simpa only [ProofInvocationRecord.IsBooked, ProofInvocationRecord.IsCommitted,
          hnoted.state, hcommitted] using hr
      · exact if_congr (by rw [ProofInvocationRecord.IsCommitted, hcommitted]; rfl) rfl rfl

/-- A step that reaches no committed record leaves the committed ones committed. -/
theorem stays_committed_of_changes (hchanges : Changes checks s s' act) (h : s.store.Booked)
    (hspares : s.SparesCommitted act) {r : ProofInvocationRecord} (hr : r ∈ s.store.records)
    (hcommitted : r.IsCommitted) :
    ∃ r' ∈ s'.store.records, r'.identity = r.identity ∧ r'.committedDigest = r.committedDigest := by
  have hother {invocationId : JsString} {r₀ r₀' : ProofInvocationRecord} {n : ℕ}
      (hbecomes : Becomes invocationId r₀ r₀' n s.store s'.store) (hne : r ≠ r₀) :
      ∃ r' ∈ s'.store.records,
        r'.identity = r.identity ∧ r'.committedDigest = r.committedDigest :=
    ⟨r, (hbecomes.mem_before hr).resolve_left hne, rfl, rfl⟩
  cases hchanges with
  | kept hkeeps => exact ⟨r, hkeeps.records ▸ hr, rfl, rfl⟩
  | dispatched _ _ _ hdispatches =>
      obtain ⟨configurationRef, schemaRef, hrecords⟩ := hdispatches.records
      exact ⟨r, hrecords ▸ List.mem_cons_of_mem _ hr, rfl, rfl⟩
  | settled hcall _ hbecomes =>
      refine hother hbecomes ?_
      rintro rfl
      exact hspares _ (by rw [overwrites, hcall]; rfl) _ hbecomes.found hcommitted
  | reconciled _ hwaiting _ hbecomes =>
      refine hother hbecomes ?_
      rintro rfl
      exact not_isCommitted_of_waiting (h.records r hr) hwaiting hcommitted
  | canceled hbecomes =>
      refine hother hbecomes ?_
      rintro rfl
      exact hspares _ rfl _ hbecomes.found hcommitted
  | @noted _ _ r₀ r₀' hnoted hbecomes =>
      rcases hbecomes.mem_before hr with rfl | hmem
      · exact ⟨r₀', hbecomes.mem_changed, hbecomes.identity, hnoted.committedDigest⟩
      · exact ⟨r, hmem, rfl, rfl⟩

theorem booked_initial (configuration : ModelProviderConfiguration)
    (targetDecision : ModelProviderTargetDecision) (now : ℤ) :
    (initial configuration targetDecision now).store.Booked where
  records := List.forall_mem_nil _
  commitEffects := by
    intro c hc
    simp only [ProofSideEffectLedger.commitEffects, List.mem_cons, List.not_mem_nil] at hc
    rcases hc with rfl | rfl | rfl | rfl | hc
    · rfl
    · rfl
    · rfl
    · rfl
    · cases hc
  committedInvocations _ := rfl

theorem booked_run {acts : List RuntimeAction} (h : s.store.Booked)
    (hspares : Transition.EachStep (fun s => s.step checks) SparesCommitted s acts) :
    (s.after checks acts).store.Booked :=
  Transition.run_invariant_of_eachStep (P := fun s => s.store.Booked)
    (fun s act hs hact => booked_of_changes (changes s act) hs hact) h hspares

theorem stays_committed_run {acts : List RuntimeAction} (h : s.store.Booked)
    (hspares : Transition.EachStep (fun s => s.step checks) SparesCommitted s acts)
    {r : ProofInvocationRecord} (hr : r ∈ s.store.records) (hcommitted : r.IsCommitted) :
    ∃ r' ∈ (s.after checks acts).store.records,
      r'.identity = r.identity ∧ r'.committedDigest = r.committedDigest := by
  induction acts generalizing s r with
  | nil => exact ⟨r, hr, rfl, rfl⟩
  | cons act acts ih =>
      obtain ⟨hact, hacts⟩ := hspares
      have hchanges : Changes checks s (s.step checks act) act := changes s act
      obtain ⟨r₁, hr₁, hidentity₁, hdigest₁⟩ :=
        stays_committed_of_changes hchanges h hact hr hcommitted
      have hcommitted₁ : r₁.IsCommitted := by
        rw [ProofInvocationRecord.IsCommitted, hdigest₁]
        exact hcommitted
      obtain ⟨r₂, hr₂, hidentity₂, hdigest₂⟩ :=
        ih (booked_of_changes hchanges h hact) hacts hr₁ hcommitted₁
      exact ⟨r₂, hr₂, hidentity₂.trans hidentity₁, hdigest₂.trans hdigest₁⟩

/-- Where no cancellation and no answer to an execution reaches a committed record, a
record has succeeded exactly where it is committed, the four counters and the artifacts
count the committed records, and a committed record keeps its digest ever after. -/
theorem commits_booked (checks : RuntimeChecks) (configuration : ModelProviderConfiguration)
    (targetDecision : ModelProviderTargetDecision) (now : ℤ) (acts : List RuntimeAction)
    (hspares : Transition.EachStep (fun s => s.step checks) SparesCommitted
      (initial configuration targetDecision now) acts) :
    let start := initial configuration targetDecision now
    let s := (start.after checks acts).store
    (∀ r ∈ s.records, r.state = .succeeded ↔ r.committedDigest ≠ none) ∧
    (s.ledger.candidateCommits = s.committedRecords ∧
      s.ledger.artifactEffects = s.committedRecords ∧
      s.ledger.taskEffects = s.committedRecords ∧
      s.ledger.stateEffects = s.committedRecords) ∧
    (∀ id, s.committedInvocations.count id = s.committedRecordsOf id) ∧
    ∀ before since, acts = before ++ since →
      ∀ r ∈ (start.after checks before).store.records, r.IsCommitted →
        ∃ r' ∈ s.records, r'.identity = r.identity ∧ r'.committedDigest = r.committedDigest := by
  intro start s
  have hstart := booked_initial configuration targetDecision now
  have h : s.Booked := booked_run hstart hspares
  refine ⟨h.records, ?_, h.committedInvocations, ?_⟩
  · have heffects := h.commitEffects
    simp only [ProofSideEffectLedger.commitEffects, List.forall_mem_cons] at heffects
    obtain ⟨hcommits, hartifacts, htasks, hstates, -⟩ := heffects
    exact ⟨hcommits, hartifacts, htasks, hstates⟩
  · rintro before since rfl r hr hcommitted
    obtain ⟨hbefore, hsince⟩ := (Transition.eachStep_append _ _ _ _ _).mp hspares
    have hs : s = ((start.after checks before).after checks since).store :=
      congrArg ProviderRuntime.store (Transition.run_append _ _ _ _)
    rw [hs]
    exact stays_committed_run (booked_run hstart hbefore) hsince hr hcommitted

def demoSpared : List RuntimeAction :=
  [.execute 0 demoRequest {}, .invoked 0 (some ⟨.succeeded, none, none, .null⟩), .cancel [9]]

theorem commits_booked_demo :
    (demoStart.after demoChecks demoSpared).store.ledger.candidateCommits = 1 ∧
      ∀ r ∈ (demoStart.after demoChecks demoSpared).store.records,
        r.state = .succeeded ↔ r.committedDigest ≠ none :=
  ⟨by decide, (commits_booked demoChecks _ _ _ demoSpared (by decide)).1⟩

def demoLateCancel : List RuntimeAction :=
  [.execute 0 demoRequest {}, .invoked 0 (some ⟨.succeeded, none, none, .null⟩), .cancel [2]]

def demoReuse : List RuntimeAction :=
  [.execute 0 demoRequest {}, .execute 1 { demoRequest with logicalIdempotencyKey := [4] } {},
    .invoked 0 (some ⟨.succeeded, none, none, .null⟩),
    .invoked 1 (some ⟨.succeeded, none, none, .null⟩)]

/-- A committed record is canceled, and a record is committed twice. -/
theorem commits_booked_fails :
    (∃ r ∈ (demoStart.after demoChecks demoLateCancel).store.records,
      r.state = .canceled ∧ r.committedDigest ≠ none) ∧
    (demoStart.after demoChecks demoReuse).store.ledger.candidateCommits = 2 ∧
    (demoStart.after demoChecks demoReuse).store.committedRecords = 1 := by
  decide

end ProviderRuntime

end Aico
