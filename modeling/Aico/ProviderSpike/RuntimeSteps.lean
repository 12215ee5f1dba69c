import Aico.ProviderSpike.RuntimeService

/-!
# What the operations of the runtime do to its store

Past the reservation every operation changes one record, the one its invocation
identifier finds. `Quiet` is such a change that keeps the generations and commits
nothing, `Notes` one that keeps the state as well, `Commits` one that commits a
candidate, and `Fences` one that moves a generation. An execution that comes to the adapter has reserved its record
(`Reserves`); one that does not leaves the records alone.
-/

namespace Aico

open InMemoryProviderRuntimeStore

namespace ProofInvocationRecord

def identity (r : ProofInvocationRecord) : JsString × Digest × JsString × List JsString :=
  (r.logicalKey, r.requestDigest, r.invocationId, r.reservationIds)

def Unfenced (r : ProofInvocationRecord) : Prop := r.generations = ⟨1, 0, 0⟩

end ProofInvocationRecord

namespace InMemoryProviderRuntimeStore

/-- The record that the identifier finds becomes `g` of it. -/
structure Update (invocationId : JsString) (g : ProofInvocationRecord → ProofInvocationRecord)
    (s s' : InMemoryProviderRuntimeStore) : Prop where
  records : s'.records = Table.updateFirst (isInvocation invocationId) g s.records
  identity : ∀ r, (g r).identity = r.identity
  reservations : s'.ledger.reservations = s.ledger.reservations

/-- One record changes, and its generations do not. -/
def Quiet (invocationId : JsString) (s s' : InMemoryProviderRuntimeStore) : Prop :=
  ∃ g, Update invocationId g s s' ∧ (∀ r, (g r).generations = r.generations) ∧
    s'.committedArtifacts = s.committedArtifacts

/-- A candidate is committed for a record at its first generations. -/
def Commits (invocationId : JsString) (s s' : InMemoryProviderRuntimeStore) : Prop :=
  ∃ g r digest, Update invocationId g s s' ∧ (∀ r, (g r).generations = r.generations) ∧
    s.byInvocation invocationId = some r ∧ r.Unfenced ∧ (g r).state = .succeeded ∧
    s'.committedArtifacts = ⟨invocationId, digest⟩ :: s.committedArtifacts

/-- A generation moves; the record keeps its state or is canceled. -/
def Fences (invocationId : JsString) (s s' : InMemoryProviderRuntimeStore) : Prop :=
  ∃ g, Update invocationId g s s' ∧
    (∀ r, (g r).state = r.state ∨ (g r).state = .canceled) ∧
    (∀ r, r.leaseGeneration ≤ (g r).leaseGeneration ∧
      r.cancellationGeneration ≤ (g r).cancellationGeneration ∧
      r.terminalGeneration ≤ (g r).terminalGeneration ∧ r.generations ≠ (g r).generations) ∧
    s'.committedArtifacts = s.committedArtifacts

/-- One record changes, and neither its state nor its generations do. -/
def Notes (invocationId : JsString) (s s' : InMemoryProviderRuntimeStore) : Prop :=
  ∃ g, Update invocationId g s s' ∧
    (∀ r, (g r).generations = r.generations ∧ (g r).state = r.state) ∧
    s'.committedArtifacts = s.committedArtifacts

structure Same (s s' : InMemoryProviderRuntimeStore) : Prop where
  records : s'.records = s.records
  committedArtifacts : s'.committedArtifacts = s.committedArtifacts
  reservations : s'.ledger.reservations = s.ledger.reservations

/-- The request is reserved under a free key and its record is dispatching. -/
def Reserves (request : ModelProviderInvocationRequest)
    (s s' : InMemoryProviderRuntimeStore) : Prop :=
  s.byLogicalKey request.logicalIdempotencyKey = none ∧
    s'.committedArtifacts = s.committedArtifacts ∧
    ∃ r : ProofInvocationRecord, s'.records = r :: s.records ∧
      r.identity = (request.logicalIdempotencyKey, request.requestDigest,
        request.invocationId, request.budgetReservations) ∧
      r.state = .dispatching ∧ r.Unfenced ∧
      s'.ledger.reservations = s.ledger.reservations + r.reservationIds.length

variable {invocationId : JsString} {g g' : ProofInvocationRecord → ProofInvocationRecord}
  {s s' s'' : InMemoryProviderRuntimeStore}

theorem isInvocation_iff {r : ProofInvocationRecord} :
    isInvocation invocationId r = true ↔ r.invocationId = invocationId := decide_eq_true_iff

theorem isInvocation_of_identity (hg : ∀ r, (g r).identity = r.identity)
    (r : ProofInvocationRecord) :
    isInvocation invocationId (g r) = isInvocation invocationId r := by
  have h := hg r
  simp only [ProofInvocationRecord.identity, Prod.mk.injEq] at h
  rw [isInvocation, isInvocation, h.2.2.1]

namespace Update

theorem refl (invocationId : JsString) (s : InMemoryProviderRuntimeStore) :
    Update invocationId id s s where
  records := by
    induction s.records with
    | nil => rfl
    | cons r rows ih => rw [Table.updateFirst, id_eq, ← ih, ite_self]
  identity _ := rfl
  reservations := rfl

theorem trans (h : Update invocationId g s s') (h' : Update invocationId g' s' s'') :
    Update invocationId (g' ∘ g) s s'' where
  records := by
    rw [h'.records, h.records,
      Table.updateFirst_updateFirst fun r hr => (isInvocation_of_identity h.identity r).trans hr]
  identity r := (h'.identity (g r)).trans (h.identity r)
  reservations := h'.reservations.trans h.reservations

theorem byInvocation (h : Update invocationId g s s') :
    s'.byInvocation invocationId = (s.byInvocation invocationId).map g := by
  rw [InMemoryProviderRuntimeStore.byInvocation, h.records,
    Table.find?_updateFirst (isInvocation_of_identity h.identity)]
  rfl

theorem map_identity (h : Update invocationId g s s') :
    s'.records.map ProofInvocationRecord.identity =
      s.records.map ProofInvocationRecord.identity := by
  rw [h.records, Table.map_updateFirst h.identity]

end Update

namespace Quiet

theorem trans (h : Quiet invocationId s s') (h' : Quiet invocationId s' s'') :
    Quiet invocationId s s'' := by
  obtain ⟨g, hg, hgen, hart⟩ := h
  obtain ⟨g', hg', hgen', hart'⟩ := h'
  exact ⟨g' ∘ g, hg.trans hg', fun r => (hgen' (g r)).trans (hgen r), hart'.trans hart⟩

theorem commits (h : Quiet invocationId s s') (h' : Commits invocationId s' s'') :
    Commits invocationId s s'' := by
  obtain ⟨g, hg, hgen, hart⟩ := h
  obtain ⟨g', r', digest, hg', hgen', hfind, hunfenced, hstate, hart'⟩ := h'
  rw [hg.byInvocation] at hfind
  obtain ⟨r, hr, rfl⟩ := Option.map_eq_some_iff.mp hfind
  refine ⟨g' ∘ g, r, digest, hg.trans hg', fun r => (hgen' (g r)).trans (hgen r), hr,
    (hgen r).symm.trans hunfenced, hstate, ?_⟩
  rw [hart', hart]

end Quiet

instance (invocationId : JsString) : IsPreorder InMemoryProviderRuntimeStore
    (Quiet invocationId) where
  refl s := ⟨id, Update.refl invocationId s, fun _ => rfl, rfl⟩
  trans _ _ _ := Quiet.trans

instance (invocationId : JsString) : IsPreorder InMemoryProviderRuntimeStore
    (Notes invocationId) where
  refl s := ⟨id, Update.refl invocationId s, fun _ => ⟨rfl, rfl⟩, rfl⟩
  trans _ _ _ := by
    rintro ⟨g, hg, hkept, hart⟩ ⟨g', hg', hkept', hart'⟩
    refine ⟨g' ∘ g, hg.trans hg', fun r => ?_, hart'.trans hart⟩
    exact ⟨(hkept' (g r)).1.trans (hkept r).1, (hkept' (g r)).2.trans (hkept r).2⟩

instance : IsPreorder InMemoryProviderRuntimeStore Same where
  refl _ := ⟨rfl, rfl, rfl⟩
  trans _ _ _ h h' := ⟨h'.records.trans h.records,
    h'.committedArtifacts.trans h.committedArtifacts,
    h'.reservations.trans h.reservations⟩

theorem Same.reserves {request : ModelProviderInvocationRequest} (h : Same s s')
    (h' : Reserves request s' s'') : Reserves request s s'' := by
  obtain ⟨hfree, hart, r, hrecords, hidentity, hstate, hunfenced, hreservations⟩ := h'
  refine ⟨?_, hart.trans h.committedArtifacts, r, ?_, hidentity, hstate, hunfenced, ?_⟩
  · rw [byLogicalKey, ← h.records]
    exact hfree
  · rw [hrecords, h.records]
  · rw [hreservations, h.reservations]

theorem Same.quiet (h : Same s s') (invocationId : JsString) : Quiet invocationId s s' := by
  refine ⟨id, ?_, fun _ => rfl, h.committedArtifacts⟩
  exact { records := by rw [h.records]; exact (Update.refl invocationId s).records
          identity := fun _ => rfl
          reservations := h.reservations }

/-! ## The operations -/

theorem requireRecord_of_some {r : ProofInvocationRecord}
    (h : s.byInvocation invocationId = some r) : requireRecord invocationId s = (.ok r, s) := by
  have hread : (Prog.gets fun s => s.byInvocation invocationId : StoreProg _) s =
      (.ok (some r), s) := by
    rw [Prog.gets, h]
  exact Prog.bind_of_ok hread

theorem requireRecord_of_none (h : s.byInvocation invocationId = none) :
    requireRecord invocationId s = (.error "INVOCATION_NOT_FOUND", s) := by
  have hread : (Prog.gets fun s => s.byInvocation invocationId : StoreProg _) s =
      (.ok none, s) := by
    rw [Prog.gets, h]
  exact Prog.bind_of_ok hread

theorem requireRecord_respects {R : InMemoryProviderRuntimeStore →
    InMemoryProviderRuntimeStore → Prop} [IsPreorder InMemoryProviderRuntimeStore R]
    (invocationId : JsString) : Prog.Respects R (requireRecord invocationId) :=
  .bind (.gets _) fun record => .require record _

theorem update_respects (hidentity : ∀ r, (g r).identity = r.identity)
    (hgenerations : ∀ r, (g r).generations = r.generations) :
    Prog.Respects (Quiet invocationId) (update invocationId g) :=
  .modify fun _ => ⟨g, ⟨rfl, hidentity, rfl⟩, hgenerations, rfl⟩

theorem count_respects {f : ProofSideEffectLedger → ProofSideEffectLedger}
    (hf : ∀ l, (f l).reservations = l.reservations) (invocationId : JsString) :
    Prog.Respects (Quiet invocationId) (count f) := by
  refine .modify fun s => ?_
  have hsame : Same s { s with ledger := f s.ledger } := ⟨rfl, rfl, hf s.ledger⟩
  exact hsame.quiet invocationId

theorem beginRepair_respects (repairInvocationId reservationId : JsString) :
    Prog.Respects (Notes invocationId)
      (beginRepair invocationId repairInvocationId reservationId) := by
  refine .bind (requireRecord_respects _) fun record => ?_
  refine .bind (.ensure _ _) fun _ => .bind (.ensure _ _) fun _ => .bind (.ensure _ _) fun _ => ?_
  refine .bind (.modify fun s => ?_) fun _ => .modify fun s => ?_
  · exact ⟨_, ⟨rfl, fun _ => rfl, rfl⟩, fun _ => ⟨rfl, rfl⟩, rfl⟩
  · exact ⟨id, ⟨(Update.refl invocationId s).records, fun _ => rfl, rfl⟩,
      fun _ => ⟨rfl, rfl⟩, rfl⟩

theorem withResult_identity (result : ModelProviderInvocationResult)
    (r : ProofInvocationRecord) : (withResult result r).identity = r.identity := by
  unfold withResult
  split
  · rfl
  · split <;> rfl

theorem withResult_generations (result : ModelProviderInvocationResult)
    (r : ProofInvocationRecord) : (withResult result r).generations = r.generations := by
  unfold withResult
  split
  · rfl
  · split <;> rfl

theorem reconciled_identity (result : Option ModelProviderInvocationResult)
    (r : ProofInvocationRecord) : (reconciled result r).identity = r.identity := by
  unfold reconciled
  split
  · rfl
  · split <;> rfl

theorem reconciled_generations (result : Option ModelProviderInvocationResult)
    (r : ProofInvocationRecord) : (reconciled result r).generations = r.generations := by
  unfold reconciled
  split
  · rfl
  · split <;> rfl

theorem recordResult_respects (result : ModelProviderInvocationResult) :
    Prog.Respects (Quiet invocationId) (recordResult invocationId result) :=
  .bind (requireRecord_respects _) fun _ =>
    update_respects (withResult_identity result) (withResult_generations result)

theorem markValidationFailed_respects :
    Prog.Respects (Quiet invocationId) (markValidationFailed invocationId) :=
  .bind (requireRecord_respects _) fun _ => update_respects (fun _ => rfl) fun _ => rfl

theorem markReconciliationRequired_respects :
    Prog.Respects (Quiet invocationId) (markReconciliationRequired invocationId) :=
  .bind (requireRecord_respects _) fun _ => update_respects (fun _ => rfl) fun _ => rfl

theorem scheduleRetry_respects (parseDate : JsString → Option ℤ)
    (nextAttemptAt deadlineAt : JsString) (remaining maximum : ℤ) :
    Prog.Respects (Quiet invocationId)
      (scheduleRetry parseDate invocationId nextAttemptAt deadlineAt remaining maximum) := by
  refine .bind (requireRecord_respects _) fun record => ?_
  split
  · refine .ite (.pure _) (.ite (.pure _) ?_)
    refine .bind (update_respects (fun _ => rfl) fun _ => rfl) fun _ => ?_
    refine .bind (count_respects ?_ _) fun _ => .pure _
    exact fun _ => rfl
  · exact .pure _

/-- A reconciliation finds its record waiting for one, or changes nothing. -/
theorem markReconciled_cases (invocationId : JsString)
    (result : Option ModelProviderInvocationResult) (s : InMemoryProviderRuntimeStore) :
    (∃ e, markReconciled invocationId result s = (.error e, s)) ∨
    (∃ r s', s.byInvocation invocationId = some r ∧ r.state = .reconciliationRequired ∧
      markReconciled invocationId result s = (.ok ⟨⟩, s') ∧ Quiet invocationId s s') := by
  rcases hfind : s.byInvocation invocationId with _ | r
  · exact .inl ⟨_, Prog.bind_of_error (requireRecord_of_none hfind)⟩
  · have hrequire := requireRecord_of_some hfind
    by_cases hstate : r.state = .reconciliationRequired
    · refine .inr ⟨r, ?after, rfl, hstate, ?run, ?quiet⟩
      case run =>
        rw [markReconciled, Prog.bind_of_ok hrequire, Prog.ensure, if_pos hstate]
        rfl
      case quiet =>
        exact ⟨reconciled result, ⟨rfl, reconciled_identity result, rfl⟩,
          reconciled_generations result, rfl⟩
    · refine .inl ⟨"RECONCILIATION_STATE", ?_⟩
      rw [markReconciled, Prog.bind_of_ok hrequire, Prog.ensure, if_neg hstate]
      rfl

/-- A candidate is committed at the first generations, or nothing changes. -/
theorem commitCandidate_cases (invocationId : JsString) (digest : Digest)
    (s : InMemoryProviderRuntimeStore) :
    (∃ r, r ≠ .ok true ∧ commitCandidate invocationId ⟨1, 0, 0⟩ digest s = (r, s)) ∨
    (∃ s', commitCandidate invocationId ⟨1, 0, 0⟩ digest s = (.ok true, s') ∧
      Commits invocationId s s') := by
  rcases hfind : s.byInvocation invocationId with _ | r
  · refine .inl ⟨.error "INVOCATION_NOT_FOUND", nofun, ?_⟩
    exact Prog.bind_of_error (requireRecord_of_none hfind)
  · have hrequire := requireRecord_of_some hfind
    by_cases hfence : r.generations ≠ ⟨1, 0, 0⟩ ∨ r.state ≠ .dispatched
    · refine .inl ⟨.ok false, nofun, ?_⟩
      rw [commitCandidate, Prog.bind_of_ok hrequire, if_pos hfence]
      rfl
    · refine .inr ⟨?after, ?run, ?commits⟩
      case run =>
        rw [commitCandidate, Prog.bind_of_ok hrequire, if_neg hfence]
        rfl
      case commits =>
        rw [not_or, not_not, not_not] at hfence
        exact ⟨_, r, digest, ⟨rfl, fun _ => rfl, rfl⟩, fun _ => rfl, hfind, hfence.1, rfl, rfl⟩

/-- A call that moves a generation finds its record, or changes nothing. -/
theorem fence_cases (hidentity : ∀ r, (g r).identity = r.identity)
    (hstate : ∀ r, (g r).state = r.state ∨ (g r).state = .canceled)
    (hgenerations : ∀ r, r.leaseGeneration ≤ (g r).leaseGeneration ∧
      r.cancellationGeneration ≤ (g r).cancellationGeneration ∧
      r.terminalGeneration ≤ (g r).terminalGeneration ∧ r.generations ≠ (g r).generations)
    (s : InMemoryProviderRuntimeStore) :
    Fences invocationId s ((requireRecord invocationId >>= fun _ =>
        update invocationId g : StoreProg PUnit) s).2 ∨
      s.byInvocation invocationId = none ∧
        ((requireRecord invocationId >>= fun _ =>
          update invocationId g : StoreProg PUnit) s).2 = s := by
  rcases hfind : s.byInvocation invocationId with _ | r
  · rw [Prog.bind_of_error (requireRecord_of_none hfind)]
    exact .inr ⟨rfl, rfl⟩
  · rw [Prog.bind_of_ok (requireRecord_of_some hfind)]
    exact .inl ⟨g, ⟨rfl, hidentity, rfl⟩, hstate, hgenerations, rfl⟩

theorem cancel_cases (invocationId : JsString) (s : InMemoryProviderRuntimeStore) :
    Fences invocationId s (cancel invocationId s).2 ∨
      s.byInvocation invocationId = none ∧ (cancel invocationId s).2 = s := by
  refine fence_cases ?_ ?_ ?_ s
  · exact fun r => rfl
  · exact fun r => .inr rfl
  · exact fun r => ⟨le_refl _, Nat.le_succ _, le_refl _, by simp [ProofInvocationRecord.generations]⟩

theorem loseLease_cases (invocationId : JsString) (s : InMemoryProviderRuntimeStore) :
    Fences invocationId s (loseLease invocationId s).2 ∨
      s.byInvocation invocationId = none ∧ (loseLease invocationId s).2 = s := by
  refine fence_cases ?_ ?_ ?_ s
  · exact fun r => rfl
  · exact fun r => .inl rfl
  · exact fun r => ⟨Nat.le_succ _, le_refl _, le_refl _, by simp [ProofInvocationRecord.generations]⟩

theorem markTerminal_cases (invocationId : JsString) (s : InMemoryProviderRuntimeStore) :
    Fences invocationId s (markTerminal invocationId s).2 ∨
      s.byInvocation invocationId = none ∧ (markTerminal invocationId s).2 = s := by
  refine fence_cases ?_ ?_ ?_ s
  · exact fun r => rfl
  · exact fun r => .inl rfl
  · exact fun r => ⟨le_refl _, le_refl _, Nat.le_succ _, by simp [ProofInvocationRecord.generations]⟩

theorem canStartNewAttempt_respects (configurationDigest : Digest) (halfOpenProbe : Bool) :
    Prog.Respects Same (canStartNewAttempt configurationDigest halfOpenProbe) := by
  refine .bind (.gets _) fun target => .bind (.gets _) fun active => ?_
  refine .ite (.pure _) (.ite (.ite (.bind ?_ fun _ => .pure _) (.pure _)) (.pure _))
  exact .modify fun _ => ⟨rfl, rfl, rfl⟩

end InMemoryProviderRuntimeStore

namespace ProviderRuntimeProof

variable {checks : RuntimeChecks} {s : InMemoryProviderRuntimeStore}

theorem emitEvidence_reads (request : ModelProviderInvocationRequest)
    (result : ModelProviderInvocationResult) (reasonClass : String) :
    Prog.Respects (· = ·) (emitEvidence checks request result reasonClass) :=
  .ensure _ _

/-- The program changes the record of the invocation quietly, or commits its
candidate. -/
def Settles {α : Type} (invocationId : JsString) (p : StoreProg α) : Prop :=
  ∀ s, Quiet invocationId s (p s).2 ∨ Commits invocationId s (p s).2

namespace Settles

variable {α β : Type} {invocationId : JsString} {p : StoreProg α}

theorem of_quiet (hp : Prog.Respects (Quiet invocationId) p) : Settles invocationId p :=
  fun s => .inl (hp s)

theorem bind_quiet {f : α → StoreProg β} (hp : Prog.Respects (Quiet invocationId) p)
    (hf : ∀ a, Settles invocationId (f a)) : Settles invocationId (p >>= f) := by
  intro s
  have hs := hp s
  rw [Prog.bind_apply]
  rcases hrun : p s with ⟨r, s₁⟩
  rw [hrun] at hs
  cases r with
  | error e => exact .inl hs
  | ok a =>
      rcases hf a s₁ with h | h
      · exact .inl (hs.trans h)
      · exact .inr (hs.commits h)

/-- What follows a commit does not change the store. -/
theorem commitOrReconcile (digest : Digest) {rest : Bool → StoreProg α}
    (hrest : ∀ b, Prog.Respects (· = ·) (rest b)) :
    Settles invocationId (commitOrReconcile invocationId ⟨1, 0, 0⟩ digest >>= rest) := by
  intro s
  rcases commitCandidate_cases invocationId digest s with ⟨r, hr, hrun⟩ | ⟨s₁, hrun, hcommits⟩
  · refine .inl ?_
    rcases r with e | committed
    · have herror : ProviderRuntimeProof.commitOrReconcile invocationId ⟨1, 0, 0⟩ digest s =
          (.error e, s) := Prog.bind_of_error hrun
      rw [Prog.bind_of_error herror]
      exact refl s
    · obtain rfl : committed = false := by simpa using hr
      have hmark : Prog.Respects (Quiet invocationId)
          ((do markReconciliationRequired invocationId; pure false : StoreProg Bool) >>= rest) :=
        .bind (.bind markReconciliationRequired_respects fun _ => .pure _)
          fun b => .of_reads (hrest b)
      have htail := hmark s
      rw [Prog.bind_apply] at htail ⊢
      rw [ProviderRuntimeProof.commitOrReconcile, Prog.bind_of_ok hrun]
      exact htail
  · refine .inr ?_
    have htrue : ProviderRuntimeProof.commitOrReconcile invocationId ⟨1, 0, 0⟩ digest s =
        (.ok true, s₁) := Prog.bind_of_ok hrun
    rw [Prog.bind_of_ok htrue, ← hrest true s₁]
    exact hcommits

end Settles

theorem settleFailed_respects (frame : ExecuteFrame)
    (result : ModelProviderInvocationResult) :
    Prog.Respects (Quiet frame.request.invocationId) (settleFailed checks frame result) := by
  have hevidence (reasonClass : String) : Prog.Respects (Quiet frame.request.invocationId)
      (emitEvidence checks frame.request result reasonClass) :=
    .of_reads (emitEvidence_reads _ _ _)
  refine .bind ?_ fun _ => .bind (hevidence _) fun _ => .pure _
  unfold retryRateLimited
  split
  · exact .pure _
  · exact scheduleRetry_respects _ _ _ _ _

theorem settleCandidate_settles (frame : ExecuteFrame)
    (hframe : frame.generations = ⟨1, 0, 0⟩) (result : ModelProviderInvocationResult) :
    Settles frame.request.invocationId (settleCandidate checks frame result) := by
  unfold settleCandidate
  dsimp only
  split
  · refine .bind_quiet (recordResult_respects result) fun _ => ?_
    rw [hframe]
    refine .commitOrReconcile _ fun b => ?_
    exact .bind (emitEvidence_reads _ _ _) fun _ => .pure _
  · refine .of_quiet (.bind markValidationFailed_respects fun _ => ?_)
    exact .bind (.of_reads (emitEvidence_reads _ _ _)) fun _ => .pure _

/-- A settled execution changes its record quietly or commits its candidate. -/
theorem executeSettled_settles (frame : ExecuteFrame)
    (hframe : frame.generations = ⟨1, 0, 0⟩)
    (answer : Option ModelProviderInvocationResult) :
    Settles frame.request.invocationId (executeSettled checks frame answer) := by
  have hrejected : Settles frame.request.invocationId (do
      markReconciliationRequired frame.request.invocationId
      pure (unknownReceipt frame.request "INTEGRITY") : StoreProg ProofExecutionReceipt) :=
    .of_quiet (.bind markReconciliationRequired_respects fun _ => .pure _)
  have hevidence {p : StoreProg PUnit} {receipt : ProofExecutionReceipt} {reasonClass : String}
      {result : ModelProviderInvocationResult}
      (hp : Prog.Respects (Quiet frame.request.invocationId) p) :
      Settles frame.request.invocationId (do
        p
        emitEvidence checks frame.request result reasonClass
        pure receipt) :=
    .of_quiet (.bind hp fun _ => .bind (.of_reads (emitEvidence_reads _ _ _)) fun _ => .pure _)
  unfold executeSettled
  rcases answer with _ | result
  · exact hrejected
  · dsimp only
    split
    · exact hrejected
    split
    · exact hevidence markValidationFailed_respects
    split
    · exact hevidence (recordResult_respects result)
    · exact hevidence (recordResult_respects result)
    · exact .of_quiet (.bind (recordResult_respects result)
        fun _ => settleFailed_respects frame result)
    · exact settleCandidate_settles frame hframe result

theorem generations_of_not_fencedBefore {before : ProofInvocationRecord}
    (h : fencedBefore before = false) : before.generations = ⟨1, 0, 0⟩ := by
  simp only [fencedBefore, decide_eq_false_iff_not, not_or] at h
  simp only [ProofInvocationRecord.generations, Generations.mk.injEq]
  omega

/-- A settled reconciliation changes nothing, or finds its record waiting for one. -/
theorem reconcileSettled_cases (configuration : ModelProviderConfiguration)
    (targetDecision : ModelProviderTargetDecision) (request : ModelProviderInvocationRequest)
    (before : ProofInvocationRecord) (answer : Option ModelProviderInvocationResult)
    (s : InMemoryProviderRuntimeStore) :
    let s' := (reconcileSettled checks configuration targetDecision request before answer s).2
    s' = s ∨ ∃ r, s.byInvocation request.invocationId = some r ∧
      r.state = .reconciliationRequired ∧
      (Quiet request.invocationId s s' ∨ Commits request.invocationId s s') := by
  have hmarked {α : Type} (result : Option ModelProviderInvocationResult)
      {f : PUnit → StoreProg α} (hf : ∀ a, Settles request.invocationId (f a)) :
      let s' := ((markReconciled request.invocationId result >>= f) s).2
      s' = s ∨ ∃ r, s.byInvocation request.invocationId = some r ∧
        r.state = .reconciliationRequired ∧
        (Quiet request.invocationId s s' ∨ Commits request.invocationId s s') := by
    rcases markReconciled_cases request.invocationId result s with
      ⟨e, hrun⟩ | ⟨r, s₁, hr, hstate, hrun, hquiet⟩
    · exact .inl (by rw [Prog.bind_of_error hrun])
    · refine .inr ⟨r, hr, hstate, ?_⟩
      rw [Prog.bind_of_ok hrun]
      rcases hf ⟨⟩ s₁ with h | h
      · exact .inl (hquiet.trans h)
      · exact .inr (hquiet.commits h)
  have hblocked := hmarked none
    (f := fun _ => pure (unknownReceipt request "RECONCILIATION_BLOCKED"))
    fun _ => .of_quiet (.pure _)
  unfold reconcileSettled
  rcases answer with _ | result
  · exact hblocked
  dsimp only
  rcases hfence : fencedBefore before with _ | _
  · rcases reconciledCandidate checks configuration targetDecision request result with
      _ | candidate
    · exact hblocked
    · refine hmarked (some result) fun _ => ?_
      split
      · exact .of_quiet (.pure _)
      · rw [generations_of_not_fencedBefore hfence]
        exact .commitOrReconcile _ fun b => .pure _
      · exact .of_quiet (.pure _)
  · exact hblocked

/-- An execution reserves its request and comes to the adapter, or it leaves the
records alone. -/
def Starts (request : ModelProviderInvocationRequest) (p : StoreProg ExecuteStart) : Prop :=
  ∀ s, (∃ frame, (p s).1 = .ok (.invoking frame) ∧ frame.request = request ∧
      frame.generations = ⟨1, 0, 0⟩ ∧ Reserves request s (p s).2) ∨
    ((∀ frame, (p s).1 ≠ .ok (.invoking frame)) ∧ Same s (p s).2)

theorem Starts.returned (request : ModelProviderInvocationRequest)
    (receipt : ProofExecutionReceipt) : Starts request (pure (.returned receipt)) :=
  fun _ => .inr ⟨fun _ => nofun, refl _⟩

theorem Starts.bind_same {α : Type} {request : ModelProviderInvocationRequest}
    {p : StoreProg α} {f : α → StoreProg ExecuteStart} (hp : Prog.Respects Same p)
    (hf : ∀ a, Starts request (f a)) : Starts request (p >>= f) := by
  intro s
  have hs := hp s
  rw [Prog.bind_apply]
  rcases hrun : p s with ⟨r, s₁⟩
  rw [hrun] at hs
  cases r with
  | error e => exact .inr ⟨fun _ => nofun, hs⟩
  | ok a =>
      rcases hf a s₁ with ⟨frame, hframe, hrequest, hgenerations, h⟩ | ⟨hframe, h⟩
      · exact .inl ⟨frame, hframe, hrequest, hgenerations, hs.reserves h⟩
      · exact .inr ⟨hframe, Trans.trans hs h⟩

theorem reserveAndDispatch_of_free {configuration : ModelProviderConfiguration}
    {request : ModelProviderInvocationRequest} {options : ProofExecutionOptions}
    {configurationRef schemaRef : VersionReference}
    (hfree : s.byLogicalKey request.logicalIdempotencyKey = none)
    (hconfiguration : request.providerConfiguration = some configurationRef)
    (hschema : request.outputSchema = some schemaRef) :
    ∃ s', reserveAndDispatch configuration request options s =
        (.ok (.invoking ⟨request, options, configuration, ⟨1, 0, 0⟩⟩), s') ∧
      Reserves request s s' ∧
      s'.records = { newRecord request configurationRef schemaRef with
        state := .dispatching
        dispatchPhase := .dispatched } :: s.records ∧
      s'.ledger = { s.ledger with
        reservations := s.ledger.reservations + request.budgetReservations.length
        providerCalls := s.ledger.providerCalls + 1 } := by
  let record := newRecord request configurationRef schemaRef
  let s₁ : InMemoryProviderRuntimeStore := { s with
    records := record :: s.records
    ledger := { s.ledger with
      reservations := s.ledger.reservations + record.reservationIds.length } }
  have hread : (Prog.gets fun s => s.byLogicalKey request.logicalIdempotencyKey : StoreProg _) s =
      (.ok none, s) := by
    rw [Prog.gets, hfree]
  have hreserve : reserve request s = (.ok (.created record), s₁) := by
    rw [reserve, Prog.bind_of_ok hread, hconfiguration, hschema]
    rfl
  have hhead : isInvocation request.invocationId record = true := decide_eq_true rfl
  have hfind : s₁.byInvocation request.invocationId = some record := by
    rw [byInvocation]
    exact List.find?_cons_of_pos hhead
  refine ⟨?after, ?run, ?reserves, ?records, ?ledger⟩
  case run =>
    rw [reserveAndDispatch, Prog.bind_of_ok hreserve]
    dsimp only
    rw [beginDispatch, Prog.bind_apply, Prog.bind_of_ok (requireRecord_of_some hfind)]
    rfl
  case reserves =>
    refine ⟨hfree, rfl, { record with state := .dispatching, dispatchPhase := .dispatched },
      ?_, rfl, rfl, rfl, rfl⟩
    exact if_pos hhead
  case records => exact if_pos hhead
  case ledger => rfl

theorem reserve_of_missing {request : ModelProviderInvocationRequest}
    (hfree : s.byLogicalKey request.logicalIdempotencyKey = none)
    (h : request.providerConfiguration = none ∨ request.outputSchema = none) :
    reserve request s = (.error "STORE_VERSION_REF", s) := by
  have hread : (Prog.gets fun s => s.byLogicalKey request.logicalIdempotencyKey : StoreProg _) s =
      (.ok none, s) := by
    rw [Prog.gets, hfree]
  rw [reserve, Prog.bind_of_ok hread]
  rcases h with h | h
  · rw [h]
    rfl
  · rw [h]
    cases request.providerConfiguration <;> rfl

theorem reserve_of_taken {request : ModelProviderInvocationRequest}
    {record : ProofInvocationRecord}
    (htaken : s.byLogicalKey request.logicalIdempotencyKey = some record) :
    ∃ outcome, reserve request s = (.ok outcome, s) ∧ ∀ r, outcome ≠ .created r := by
  have hread : (Prog.gets fun s => s.byLogicalKey request.logicalIdempotencyKey : StoreProg _) s =
      (.ok (some record), s) := by
    rw [Prog.gets, htaken]
  rw [reserve, Prog.bind_of_ok hread]
  dsimp only
  by_cases hdigest : record.requestDigest ≠ request.requestDigest
  · rw [if_pos hdigest]
    exact ⟨.collision record, rfl, fun _ => ReservationOutcome.noConfusion⟩
  rw [if_neg hdigest]
  by_cases hstate : record.state = .reconciliationRequired
  · rw [if_pos hstate]
    exact ⟨.reconciliationRequired record, rfl, fun _ => ReservationOutcome.noConfusion⟩
  · rw [if_neg hstate]
    exact ⟨.duplicate record, rfl, fun _ => ReservationOutcome.noConfusion⟩

theorem reserveAndDispatch_of_error {configuration : ModelProviderConfiguration}
    {request : ModelProviderInvocationRequest} {options : ProofExecutionOptions} {e : String}
    (h : reserve request s = (.error e, s)) :
    (∀ frame, (reserveAndDispatch configuration request options s).1 ≠ .ok (.invoking frame)) ∧
      Same s (reserveAndDispatch configuration request options s).2 := by
  rw [reserveAndDispatch, Prog.bind_of_error h]
  exact ⟨fun _ => nofun, refl s⟩

theorem reserveAndDispatch_starts (configuration : ModelProviderConfiguration)
    (request : ModelProviderInvocationRequest) (options : ProofExecutionOptions) :
    Starts request (reserveAndDispatch configuration request options) := by
  intro s
  rcases hfind : s.byLogicalKey request.logicalIdempotencyKey with _ | record
  · rcases hconfiguration : request.providerConfiguration with _ | configurationRef
    · exact .inr (reserveAndDispatch_of_error (reserve_of_missing hfind (.inl hconfiguration)))
    rcases hschema : request.outputSchema with _ | schemaRef
    · exact .inr (reserveAndDispatch_of_error (reserve_of_missing hfind (.inr hschema)))
    obtain ⟨s', hrun, hreserves, -⟩ := reserveAndDispatch_of_free
      hfind hconfiguration hschema
    refine .inl ⟨_, congrArg Prod.fst hrun, rfl, rfl, ?_⟩
    rw [hrun]
    exact hreserves
  · obtain ⟨outcome, hrun, hcreated⟩ := reserve_of_taken hfind
    refine .inr ?_
    rw [reserveAndDispatch, Prog.bind_of_ok hrun]
    cases outcome with
    | created r => exact absurd rfl (hcreated r)
    | duplicate r | collision r | reconciliationRequired r => exact ⟨fun _ => nofun, refl s⟩

theorem execute_starts (now : ℤ) (configuration : ModelProviderConfiguration)
    (targetDecision : ModelProviderTargetDecision) (supplied : ModelProviderInvocationRequest)
    (options : ProofExecutionOptions) :
    Starts (preparedRequest supplied options)
      (execute checks now configuration targetDecision supplied options) := by
  unfold execute
  rcases checks.seededBoundarySource with code | ⟨⟩
  · exact fun s => .inr ⟨fun _ => nofun, refl s⟩
  dsimp only
  split
  · exact .returned _ _
  refine .bind_same (.ensure _ _) fun _ => .bind_same (canStartNewAttempt_respects _ _) fun _ => ?_
  split
  · exact .returned _ _
  · exact reserveAndDispatch_starts _ _ _

end ProviderRuntimeProof

end Aico
