import Aico.ProviderSpike.RuntimeSteps

/-!
# One dispatch and one commit for a logical key

Where an invocation identifier stands for one logical key, a key has at most one
record. Its execution is dispatching or canceled until the adapter answers, and only
then can the record come to wait for a reconciliation; so nothing else can commit it
meanwhile, and a committed record is past every later commit.
-/

namespace Aico

open InMemoryProviderRuntimeStore ProviderRuntimeProof

namespace ProviderRuntime

variable {checks : RuntimeChecks} {keyOf : JsString → JsString} {s s' : ProviderRuntime}

def commits (s : ProviderRuntime) (invocationId : JsString) : ℕ :=
  s.store.committedArtifacts.countP fun a => a.invocationId = invocationId

/-- The adapter has not answered the invocation. -/
def Running (s : ProviderRuntime) (invocationId : JsString) : Prop :=
  ∃ k frame, s.calls k = some (.executing frame) ∧ frame.request.invocationId = invocationId

def requestIdentity (request : ModelProviderInvocationRequest) :
    JsString × Digest × JsString × List JsString :=
  (request.logicalIdempotencyKey, request.requestDigest, request.invocationId,
    request.budgetReservations)

/-- What holds of a record and the commits of its invocation. -/
structure RecordInv (s : ProviderRuntime) (r : ProofInvocationRecord) : Prop where
  leased : 1 ≤ r.leaseGeneration
  once : s.commits r.invocationId ≤ 1
  committed : s.commits r.invocationId = 1 → r.state = .succeeded ∨ r.state = .canceled
  running : s.Running r.invocationId →
    (r.state = .dispatching ∨ r.state = .canceled) ∧ s.commits r.invocationId = 0

theorem of_ended {k k' : ℕ} {call : RuntimeCall} (h : (s.ended k).calls k' = some call) :
    k' ≠ k ∧ s.calls k' = some call := by
  simp only [ended, Function.update_apply] at h
  split at h
  · cases h
  · next hne => exact ⟨hne, h⟩

theorem RecordInv.of_commits_eq {r : ProofInvocationRecord} (h : RecordInv s r)
    (hcommits : s'.commits r.invocationId = s.commits r.invocationId)
    (hrunning : s'.Running r.invocationId → s.Running r.invocationId) : RecordInv s' r where
  leased := h.leased
  once := hcommits ▸ h.once
  committed hone := h.committed (hcommits ▸ hone)
  running hrun := hcommits ▸ h.running (hrunning hrun)

/-- A call that a commit must not follow. -/
def fences (invocationId : JsString) : RuntimeAction → Bool
  | .cancel id | .loseLease id | .markTerminal id => id = invocationId
  | _ => false

/-- What a step of the system does. -/
inductive StepKind (s s' : ProviderRuntime) : RuntimeAction → Prop
  | same {act : RuntimeAction} (hsame : Same s.store s'.store)
      (hreceived : s'.receivedRequests = s.receivedRequests)
      (hcalls : ∀ k frame, s'.calls k = some (.executing frame) →
        s.calls k = some (.executing frame))
      (hmissing : ∀ id, fences id act = true → s.store.byInvocation id = none) :
      StepKind s s' act
  | settles {act : RuntimeAction} {invocationId : JsString}
      (hsettles : Quiet invocationId s.store s'.store ∨ Commits invocationId s.store s'.store)
      (hreceived : s'.receivedRequests = s.receivedRequests)
      (hcalls : ∀ k frame, s'.calls k = some (.executing frame) →
        s.calls k = some (.executing frame))
      (hidle : ¬ s'.Running invocationId)
      (hnone : ∀ r, s.store.byInvocation invocationId = some r → s.commits invocationId = 0)
      (hact : ∀ id, fences id act = false) : StepKind s s' act
  | fences {act : RuntimeAction} {invocationId : JsString}
      (hact : ∀ id, fences id act = decide (invocationId = id))
      (hfences : Fences invocationId s.store s'.store)
      (hreceived : s'.receivedRequests = s.receivedRequests) (hcalls : s'.calls = s.calls) :
      StepKind s s' act
  | notes {act : RuntimeAction} {invocationId : JsString}
      (hnotes : Notes invocationId s.store s'.store)
      (hreceived : s'.receivedRequests = s.receivedRequests) (hcalls : s'.calls = s.calls)
      (hact : ∀ id, fences id act = false) : StepKind s s' act
  | reserves {k : ℕ} {request : ModelProviderInvocationRequest}
      {options : ProofExecutionOptions} {frame : ExecuteFrame}
      (hrequest : frame.request = preparedRequest request options)
      (hgenerations : frame.generations = ⟨1, 0, 0⟩)
      (hreserves : Reserves frame.request s.store s'.store)
      (hreceived : s'.receivedRequests = frame.request :: s.receivedRequests)
      (hcalls : s'.calls = Function.update s.calls k (some (.executing frame))) :
      StepKind s s' (.execute k request options)

structure DispatchInv (keyOf : JsString → JsString) (s : ProviderRuntime) : Prop where
  keys : (s.store.records.map ProofInvocationRecord.logicalKey).Nodup
  named : ∀ r ∈ s.store.records, r.logicalKey = keyOf r.invocationId
  received : s.receivedRequests.map requestIdentity =
    s.store.records.map ProofInvocationRecord.identity
  reserved : s.store.ledger.reservations =
    (s.store.records.map fun r => r.reservationIds.length).sum
  records : ∀ r ∈ s.store.records, RecordInv s r
  known : ∀ a ∈ s.store.committedArtifacts,
    ∃ r ∈ s.store.records, r.invocationId = a.invocationId
  frames : ∀ k frame, s.calls k = some (.executing frame) →
    frame.generations = ⟨1, 0, 0⟩ ∧
      ∃ r ∈ s.store.records, r.invocationId = frame.request.invocationId
  alone : ∀ k k' frame frame', s.calls k = some (.executing frame) →
    s.calls k' = some (.executing frame') →
    frame.request.invocationId = frame'.request.invocationId → k = k'

namespace DispatchInv

variable (h : DispatchInv keyOf s)

include h

theorem invocations : (s.store.records.map ProofInvocationRecord.invocationId).Nodup := by
  have hkeys : s.store.records.map ProofInvocationRecord.logicalKey =
      (s.store.records.map ProofInvocationRecord.invocationId).map keyOf := by
    rw [List.map_map]
    exact List.map_congr_left h.named
  exact List.Nodup.of_map keyOf (hkeys ▸ h.keys)

/-- The record that an identifier finds is the only one that has it. -/
theorem byInvocation_eq_some {invocationId : JsString} {r : ProofInvocationRecord} :
    s.store.byInvocation invocationId = some r ↔
      r ∈ s.store.records ∧ r.invocationId = invocationId := by
  constructor
  · intro hfind
    exact ⟨List.mem_of_find?_eq_some hfind, isInvocation_iff.mp (List.find?_some hfind)⟩
  · rintro ⟨hr, rfl⟩
    refine Table.find?_eq_some hr (isInvocation_iff.mpr rfl) fun r' hr' hid => ?_
    exact Table.eq_of_key_eq h.invocations hr' hr (isInvocation_iff.mp hid)

/-- After an update a record is the changed one or one of the others. -/
theorem mem_of_update {invocationId : JsString}
    {g : ProofInvocationRecord → ProofInvocationRecord} {store : InMemoryProviderRuntimeStore}
    (hupdate : Update invocationId g s.store store) {r' : ProofInvocationRecord}
    (hr' : r' ∈ store.records) :
    (r' ∈ s.store.records ∧ r'.invocationId ≠ invocationId) ∨
      ∃ r, s.store.byInvocation invocationId = some r ∧ r' = g r := by
  have hunique : s.store.records.Pairwise fun r r' =>
      isInvocation invocationId r = true → isInvocation invocationId r' = false := by
    refine (List.pairwise_map.mp h.invocations).imp fun hne hid => ?_
    simp only [isInvocation, decide_eq_true_eq] at hid
    simpa [isInvocation, ← hid] using hne.symm
  rw [hupdate.records, Table.updateFirst_eq_updateWhere hunique] at hr'
  obtain ⟨r, hr, rfl⟩ := Table.mem_updateWhere.mp hr'
  by_cases hid : r.invocationId = invocationId
  · rw [if_pos (isInvocation_iff.mpr hid)]
    exact .inr ⟨r, h.byInvocation_eq_some.mpr ⟨hr, hid⟩, rfl⟩
  · rw [if_neg (mt isInvocation_iff.mp hid)]
    exact .inl ⟨hr, hid⟩

/-- A change of one record keeps the invariant where it keeps that of the record. -/
theorem update {invocationId : JsString} {g : ProofInvocationRecord → ProofInvocationRecord}
    (hupdate : Update invocationId g s.store s'.store)
    (hreceived : s'.receivedRequests = s.receivedRequests)
    (hcalls : ∀ k frame, s'.calls k = some (.executing frame) →
      s.calls k = some (.executing frame))
    (hcommits : ∀ id', id' ≠ invocationId → s'.commits id' = s.commits id')
    (hknown : ∀ a ∈ s'.store.committedArtifacts, a ∈ s.store.committedArtifacts ∨
      ∃ r, s.store.byInvocation invocationId = some r ∧ a.invocationId = invocationId)
    (hrecord : ∀ r, s.store.byInvocation invocationId = some r → RecordInv s' (g r)) :
    DispatchInv keyOf s' := by
  have hidentity := hupdate.map_identity
  have hcolumn {κ : Type} (f : JsString × Digest × JsString × List JsString → κ) :
      s'.store.records.map (fun r => f r.identity) =
        s.store.records.map fun r => f r.identity := by
    have := congrArg (List.map f) hidentity
    rwa [List.map_map, List.map_map] at this
  have hkept : ∀ r ∈ s.store.records, ∃ r' ∈ s'.store.records, r'.identity = r.identity := by
    intro r hr
    have hmem : r.identity ∈ s'.store.records.map ProofInvocationRecord.identity := by
      rw [hidentity]
      exact List.mem_map_of_mem hr
    exact List.mem_map.mp hmem
  have hid {r r' : ProofInvocationRecord} (heq : r'.identity = r.identity) :
      r'.invocationId = r.invocationId := congrArg (·.2.2.1) heq
  exact {
    keys := by
      have hkeys := hcolumn fun i => i.1
      exact hkeys ▸ h.keys
    named := by
      intro r' hr'
      have hmem : r'.identity ∈ s.store.records.map ProofInvocationRecord.identity := by
        rw [← hidentity]
        exact List.mem_map_of_mem hr'
      obtain ⟨r, hr, heq⟩ := List.mem_map.mp hmem
      have hkey : r.logicalKey = r'.logicalKey := congrArg (·.1) heq
      rw [← hkey, h.named r hr, hid heq]
    received := by rw [hreceived, h.received, hidentity]
    reserved := by
      rw [hupdate.reservations, h.reserved]
      exact congrArg List.sum (hcolumn fun i => i.2.2.2.length).symm
    records := by
      intro r' hr'
      rcases h.mem_of_update hupdate hr' with ⟨hr, hne⟩ | ⟨r, hr, rfl⟩
      · exact (h.records r' hr).of_commits_eq (hcommits _ hne) fun ⟨k, frame, hk, hframe⟩ =>
          ⟨k, frame, hcalls k frame hk, hframe⟩
      · exact hrecord r hr
    known := by
      intro a ha
      have hold : ∃ r ∈ s.store.records, r.invocationId = a.invocationId := by
        rcases hknown a ha with ha | ⟨r, hr, ha⟩
        · exact h.known a ha
        · rw [ha]
          exact ⟨r, h.byInvocation_eq_some.mp hr⟩
      obtain ⟨r, hr, ha⟩ := hold
      obtain ⟨r', hr', heq⟩ := hkept r hr
      exact ⟨r', hr', (hid heq).trans ha⟩
    frames := by
      intro k frame hframe
      obtain ⟨hgenerations, r, hr, hrid⟩ := h.frames k frame (hcalls k frame hframe)
      obtain ⟨r', hr', heq⟩ := hkept r hr
      exact ⟨hgenerations, r', hr', (hid heq).trans hrid⟩
    alone := fun k k' frame frame' hk hk' =>
      h.alone k k' frame frame' (hcalls k frame hk) (hcalls k' frame' hk') }

/-- A record that no execution runs for and that was never committed is settled. -/
theorem settle {invocationId : JsString}
    (hsettles : Quiet invocationId s.store s'.store ∨ Commits invocationId s.store s'.store)
    (hreceived : s'.receivedRequests = s.receivedRequests)
    (hcalls : ∀ k frame, s'.calls k = some (.executing frame) →
      s.calls k = some (.executing frame))
    (hidle : ¬ s'.Running invocationId)
    (hnone : ∀ r, s.store.byInvocation invocationId = some r → s.commits invocationId = 0) :
    DispatchInv keyOf s' := by
  have hname {g : ProofInvocationRecord → ProofInvocationRecord}
      (hidentity : ∀ r, (g r).identity = r.identity) {r : ProofInvocationRecord}
      (hr : s.store.byInvocation invocationId = some r) : (g r).invocationId = invocationId :=
    (congrArg (·.2.2.1) (hidentity r)).trans (h.byInvocation_eq_some.mp hr).2
  have hleased {g : ProofInvocationRecord → ProofInvocationRecord}
      (hgenerations : ∀ r, (g r).generations = r.generations) {r : ProofInvocationRecord}
      (hr : s.store.byInvocation invocationId = some r) : 1 ≤ (g r).leaseGeneration := by
    have hlease : (g r).leaseGeneration = r.leaseGeneration :=
      congrArg Generations.lease (hgenerations r)
    exact hlease ▸ (h.records r (h.byInvocation_eq_some.mp hr).1).leased
  rcases hsettles with ⟨g, hupdate, hgenerations, hartifacts⟩ | ⟨g, r, digest, hupdate,
    hgenerations, hr, -, hstate, hartifacts⟩
  · have hcommits (id' : JsString) : s'.commits id' = s.commits id' := by
      rw [commits, hartifacts, commits]
    refine h.update hupdate hreceived hcalls (fun id' _ => hcommits id')
      (fun a ha => .inl (hartifacts ▸ ha)) fun r hr => ?_
    have hzero : s'.commits (g r).invocationId = 0 := by
      rw [hname hupdate.identity hr, hcommits, hnone r hr]
    exact {
      leased := hleased hgenerations hr
      once := by omega
      committed := fun hone => by omega
      running := fun hrun => absurd (hname hupdate.identity hr ▸ hrun) hidle }
  · have hcommits (id' : JsString) : s'.commits id' =
        s.commits id' + if invocationId = id' then 1 else 0 := by
      rw [commits, hartifacts, List.countP_cons, commits]
      simp
    refine h.update hupdate hreceived hcalls (fun id' hne => ?_) (fun a ha => ?_)
      fun r' hr' => ?_
    · rw [hcommits, if_neg hne.symm, Nat.add_zero]
    · rw [hartifacts] at ha
      rcases List.mem_cons.mp ha with rfl | ha
      · exact .inr ⟨r, hr, rfl⟩
      · exact .inl ha
    · obtain rfl : r = r' := Option.some.inj (hr.symm.trans hr')
      have hone : s'.commits (g r).invocationId = 1 := by
        rw [hname hupdate.identity hr, hcommits, if_pos rfl, hnone r hr]
      exact {
        leased := hleased hgenerations hr
        once := hone.le
        committed := fun _ => .inl hstate
        running := fun hrun => absurd (hname hupdate.identity hr ▸ hrun) hidle }

/-- A fence leaves a record that is committed committed, and one that runs running. -/
theorem fence {invocationId : JsString} (hfences : Fences invocationId s.store s'.store)
    (hreceived : s'.receivedRequests = s.receivedRequests) (hcalls : s'.calls = s.calls) :
    DispatchInv keyOf s' := by
  obtain ⟨g, hupdate, hstate, hgenerations, hartifacts⟩ := hfences
  have hcommits (id' : JsString) : s'.commits id' = s.commits id' := by
    rw [commits, hartifacts, commits]
  refine h.update hupdate hreceived (fun k frame hk => hcalls ▸ hk) (fun id' _ => hcommits id')
    (fun a ha => .inl (hartifacts ▸ ha)) fun r hr => ?_
  obtain ⟨hmem, -⟩ := h.byInvocation_eq_some.mp hr
  have hid : (g r).invocationId = r.invocationId := congrArg (·.2.2.1) (hupdate.identity r)
  have hinv := h.records r hmem
  exact {
    leased := hinv.leased.trans (hgenerations r).1
    once := by
      rw [hid, hcommits]
      exact hinv.once
    committed := by
      intro hone
      rw [hid, hcommits] at hone
      rcases hstate r with heq | heq
      · exact heq ▸ hinv.committed hone
      · exact .inr heq
    running := by
      rw [hid, hcommits]
      rintro ⟨k, frame, hk, hframe⟩
      obtain ⟨hrun, hzero⟩ := hinv.running ⟨k, frame, hcalls ▸ hk, hframe⟩
      rcases hstate r with heq | heq
      · exact ⟨heq ▸ hrun, hzero⟩
      · exact ⟨.inr heq, hzero⟩ }

/-- A note on a record leaves what holds of it. -/
theorem note {invocationId : JsString} (hnotes : Notes invocationId s.store s'.store)
    (hreceived : s'.receivedRequests = s.receivedRequests) (hcalls : s'.calls = s.calls) :
    DispatchInv keyOf s' := by
  obtain ⟨g, hupdate, hkept, hartifacts⟩ := hnotes
  have hcommits (id' : JsString) : s'.commits id' = s.commits id' := by
    rw [commits, hartifacts, commits]
  refine h.update hupdate hreceived (fun k frame hk => hcalls ▸ hk) (fun id' _ => hcommits id')
    (fun a ha => .inl (hartifacts ▸ ha)) fun r hr => ?_
  have hid : (g r).invocationId = r.invocationId := congrArg (·.2.2.1) (hupdate.identity r)
  have hlease : (g r).leaseGeneration = r.leaseGeneration :=
    congrArg Generations.lease (hkept r).1
  have hinv := h.records r (h.byInvocation_eq_some.mp hr).1
  exact {
    leased := hlease ▸ hinv.leased
    once := by
      rw [hid, hcommits]
      exact hinv.once
    committed := by
      rw [hid, hcommits, (hkept r).2]
      exact hinv.committed
    running := by
      rw [hid, hcommits, (hkept r).2]
      rintro ⟨k, frame, hk, hframe⟩
      exact hinv.running ⟨k, frame, hcalls ▸ hk, hframe⟩ }

/-- A step that leaves the records alone. -/
theorem same (hsame : Same s.store s'.store)
    (hreceived : s'.receivedRequests = s.receivedRequests)
    (hcalls : ∀ k frame, s'.calls k = some (.executing frame) →
      s.calls k = some (.executing frame)) : DispatchInv keyOf s' := by
  have hcommits (id' : JsString) : s'.commits id' = s.commits id' := by
    rw [commits, hsame.committedArtifacts, commits]
  exact {
    keys := hsame.records ▸ h.keys
    named := hsame.records ▸ h.named
    received := by rw [hreceived, hsame.records, h.received]
    reserved := by rw [hsame.reservations, hsame.records, h.reserved]
    records := fun r hr => (h.records r (hsame.records ▸ hr)).of_commits_eq (hcommits _)
      fun ⟨k, frame, hk, hframe⟩ => ⟨k, frame, hcalls k frame hk, hframe⟩
    known := by
      rw [hsame.records, hsame.committedArtifacts]
      exact h.known
    frames := fun k frame hk => hsame.records ▸ h.frames k frame (hcalls k frame hk)
    alone := fun k k' frame frame' hk hk' =>
      h.alone k k' frame frame' (hcalls k frame hk) (hcalls k' frame' hk') }

/-- A reserved request has a new key, so its invocation is new. -/
theorem reserve {k : ℕ} {frame : ExecuteFrame}
    (hname : keyOf frame.request.invocationId = frame.request.logicalIdempotencyKey)
    (hgenerations : frame.generations = ⟨1, 0, 0⟩)
    (hreserves : Reserves frame.request s.store s'.store)
    (hreceived : s'.receivedRequests = frame.request :: s.receivedRequests)
    (hcalls : s'.calls = Function.update s.calls k (some (.executing frame))) :
    DispatchInv keyOf s' := by
  obtain ⟨hfree, hartifacts, r, hrecords, hidentity, hstate, hunfenced, hreservations⟩ :=
    hreserves
  obtain ⟨hkey, -, hid, hbudget⟩ : r.logicalKey = frame.request.logicalIdempotencyKey ∧
      r.requestDigest = frame.request.requestDigest ∧
      r.invocationId = frame.request.invocationId ∧
      r.reservationIds = frame.request.budgetReservations := by
    simpa [ProofInvocationRecord.identity] using hidentity
  have hnew : ∀ r' ∈ s.store.records, r'.logicalKey ≠ frame.request.logicalIdempotencyKey := by
    intro r' hr'
    simpa [hasKey] using List.find?_eq_none.mp hfree r' hr'
  have hother : ∀ r' ∈ s.store.records, r'.invocationId ≠ frame.request.invocationId := by
    intro r' hr' heq
    exact hnew r' hr' (by rw [h.named r' hr', heq, hname])
  have hcommits (id' : JsString) : s'.commits id' = s.commits id' := by
    rw [commits, hartifacts, commits]
  have hzero : s.commits frame.request.invocationId = 0 := by
    refine List.countP_eq_zero.mpr fun a ha haid => ?_
    obtain ⟨r', hr', hr'id⟩ := h.known a ha
    exact hother r' hr' (hr'id.trans (of_decide_eq_true haid))
  have hcall {k' : ℕ} {frame' : ExecuteFrame} (hk' : s'.calls k' = some (.executing frame')) :
      (k' = k ∧ frame' = frame) ∨ s.calls k' = some (.executing frame') := by
    rw [hcalls, Function.update_apply] at hk'
    split at hk'
    · next heq =>
        simp only [Option.some.injEq, RuntimeCall.executing.injEq] at hk'
        exact .inl ⟨heq, hk'.symm⟩
    · exact .inr hk'
  have hforeign {k' : ℕ} {frame' : ExecuteFrame} (hk' : s.calls k' = some (.executing frame')) :
      frame'.request.invocationId ≠ frame.request.invocationId := by
    obtain ⟨-, r', hr', hr'id⟩ := h.frames k' frame' hk'
    exact hr'id ▸ hother r' hr'
  exact {
    keys := by
      rw [hrecords, List.map_cons, List.nodup_cons, hkey]
      refine ⟨fun hmem => ?_, h.keys⟩
      obtain ⟨r', hr', heq⟩ := List.mem_map.mp hmem
      exact hnew r' hr' heq
    named := by
      rw [hrecords]
      refine List.forall_mem_cons.mpr ⟨?_, h.named⟩
      rw [hkey, hid, hname]
    received := by
      rw [hreceived, hrecords, List.map_cons, List.map_cons, hidentity, h.received]
      rfl
    reserved := by
      rw [hreservations, hrecords, List.map_cons, List.sum_cons, h.reserved, Nat.add_comm]
    records := by
      rw [hrecords]
      refine List.forall_mem_cons.mpr ⟨?_, fun r' hr' => ?_⟩
      · have hnone : s'.commits r.invocationId = 0 := by rw [hid, hcommits, hzero]
        exact {
          leased := (congrArg Generations.lease hunfenced).ge
          once := by omega
          committed := fun hone => by omega
          running := fun _ => ⟨.inl hstate, hnone⟩ }
      · refine (h.records r' hr').of_commits_eq (hcommits _) ?_
        rintro ⟨k', frame', hk', hframe'⟩
        rcases hcall hk' with ⟨rfl, rfl⟩ | hk'
        · exact absurd hframe'.symm (hother r' hr')
        · exact ⟨k', frame', hk', hframe'⟩
    known := by
      intro a ha
      obtain ⟨r', hr', heq⟩ := h.known a (hartifacts ▸ ha)
      exact ⟨r', hrecords ▸ List.mem_cons_of_mem r hr', heq⟩
    frames := by
      intro k' frame' hk'
      rw [hrecords]
      rcases hcall hk' with ⟨rfl, rfl⟩ | hk'
      · exact ⟨hgenerations, r, List.mem_cons_self, hid⟩
      · obtain ⟨hgen, r', hr', heq⟩ := h.frames k' frame' hk'
        exact ⟨hgen, r', List.mem_cons_of_mem r hr', heq⟩
    alone := by
      intro k₁ k₂ frame₁ frame₂ hk₁ hk₂ heq
      rcases hcall hk₁ with ⟨rfl, rfl⟩ | hk₁ <;> rcases hcall hk₂ with ⟨rfl, rfl⟩ | hk₂
      · rfl
      · exact absurd heq.symm (hforeign hk₂)
      · exact absurd heq (hforeign hk₁)
      · exact h.alone k₁ k₂ frame₁ frame₂ hk₁ hk₂ heq }

/-- The invariant is one of every step whose request keeps to its name. -/
theorem of_kind {act : RuntimeAction} (hkind : StepKind s s' act)
    (hname : ∀ k request options, act = .execute k request options →
      keyOf request.invocationId = request.logicalIdempotencyKey) : DispatchInv keyOf s' := by
  cases hkind with
  | same hsame hreceived hcalls _ => exact h.same hsame hreceived hcalls
  | settles hsettles hreceived hcalls hidle hnone _ =>
      exact h.settle hsettles hreceived hcalls hidle hnone
  | fences _ hfences hreceived hcalls => exact h.fence hfences hreceived hcalls
  | notes hnotes hreceived hcalls _ => exact h.note hnotes hreceived hcalls
  | @reserves k request options frame hrequest hgenerations hreserves hreceived hcalls =>
      refine h.reserve ?_ hgenerations hreserves hreceived hcalls
      rw [hrequest]
      exact hname k request options rfl

omit h in
theorem kind_execute (k : ℕ) (request : ModelProviderInvocationRequest)
    (options : ProofExecutionOptions) :
    StepKind s (s.startExecute checks k request options) (.execute k request options) := by
  unfold startExecute
  dsimp only
  rcases execute_starts s.now s.activeConfiguration s.activeTargetDecision
    request options s.store with ⟨frame, hframe, hrequest, hgenerations, hreserves⟩ |
    ⟨hframe, hsame⟩
  · rw [hframe]
    exact .reserves hrequest hgenerations (hrequest ▸ hreserves) rfl rfl
  · split
    · next frame heq => exact absurd heq (hframe frame)
    · exact .same hsame rfl (fun _ _ hk => hk) nofun

omit h in
theorem kind_fence {invocationId : JsString} {act : RuntimeAction} {p : StoreProg PUnit}
    (hact : ∀ id, fences id act = decide (invocationId = id))
    (hp : Fences invocationId s.store (p s.store).2 ∨
      s.store.byInvocation invocationId = none ∧ (p s.store).2 = s.store) :
    StepKind s (s.ran p) act := by
  rcases hp with hfences | ⟨hnone, hrun⟩
  · exact .fences hact hfences rfl rfl
  · refine .same ?_ rfl (fun _ _ hk => hk) fun id hid => ?_
    · rw [ran, hrun]
      exact refl s.store
    · rw [hact, decide_eq_true_eq] at hid
      exact hid ▸ hnone

theorem kind (act : RuntimeAction) : StepKind s (s.step checks act) act := by
  have hstill {act : RuntimeAction} (hact : ∀ id, fences id act = false) :
      StepKind s s act :=
    .same (refl s.store) rfl (fun _ _ hk => hk) fun id hid => by simp [hact] at hid
  cases act with
  | execute k request options =>
      rw [step]
      split
      · exact kind_execute k request options
      · exact hstill fun _ => rfl
  | invoked k answer =>
      rw [step]
      split
      · next frame hk =>
          obtain ⟨hgenerations, r, hr, hid⟩ := h.frames k frame hk
          refine .settles (executeSettled_settles frame hgenerations answer s.store) rfl
            (fun _ _ hk' => (of_ended hk').2) ?_ (fun _ _ => ?_) fun _ => rfl
          · rintro ⟨k', frame', hk', hframe'⟩
            obtain ⟨hne, hk'⟩ := of_ended hk'
            exact hne (h.alone k' k frame' frame hk' hk hframe')
          · rw [← hid]
            exact ((h.records r hr).running ⟨k, frame, hk, hid.symm⟩).2
      · exact hstill fun _ => rfl
  | reconcile k request =>
      rw [step]
      split
      · unfold startReconcile
        split
        · refine .same (refl s.store) rfl (fun k' frame hk' => ?_) nofun
          dsimp only at hk'
          rw [Function.update_apply] at hk'
          split at hk'
          · cases hk'
          · exact hk'
        · exact hstill fun _ => rfl
      · exact hstill fun _ => rfl
  | lookedUp k answer =>
      rw [step]
      split
      · next request before hk =>
          rcases reconcileSettled_cases s.activeConfiguration
            s.activeTargetDecision request before answer s.store with
            hsame | ⟨r, hr, hstate, hsettles⟩
          · refine .same ?_ rfl (fun _ _ hk' => (of_ended hk').2) nofun
            rw [ended, ran, hsame]
            exact refl s.store
          · obtain ⟨hmem, hid⟩ := h.byInvocation_eq_some.mp hr
            have hidle : ¬ s.Running request.invocationId := fun hrun => by
              simpa [hstate] using ((h.records r hmem).running (hid ▸ hrun)).1
            refine .settles hsettles rfl (fun _ _ hk' => (of_ended hk').2) ?_ (fun _ _ => ?_)
              fun _ => rfl
            · rintro ⟨k', frame', hk', hframe'⟩
              exact hidle ⟨k', frame', (of_ended hk').2, hframe'⟩
            · have honce := (h.records r hmem).once
              have hone : s.commits r.invocationId ≠ 1 := fun hone => by
                simpa [hstate] using (h.records r hmem).committed hone
              rw [hid] at honce hone
              omega
      · exact hstill fun _ => rfl
  | lookupFailed k =>
      rw [step]
      split
      · exact .same (refl s.store) rfl (fun _ _ hk' => (of_ended hk').2) nofun
      · exact hstill fun _ => rfl
  | cancel invocationId =>
      exact kind_fence (fun _ => rfl) (cancel_cases invocationId s.store)
  | loseLease invocationId =>
      exact kind_fence (fun _ => rfl) (loseLease_cases invocationId s.store)
  | markTerminal invocationId =>
      exact kind_fence (fun _ => rfl) (markTerminal_cases invocationId s.store)
  | beginRepair failedInvocationId repairInvocationId reservationId =>
      exact .notes (beginRepair_respects _ _ s.store) rfl rfl fun _ => rfl
  | applyConfiguration digest => exact .same ⟨rfl, rfl, rfl⟩ rfl (fun _ _ hk => hk) nofun
  | applyTarget configuration targetDecision =>
      exact .same ⟨rfl, rfl, rfl⟩ rfl (fun _ _ hk => hk) nofun
  | setCircuit state => exact .same ⟨rfl, rfl, rfl⟩ rfl (fun _ _ hk => hk) nofun
  | setKilled killed => exact .same ⟨rfl, rfl, rfl⟩ rfl (fun _ _ hk => hk) nofun
  | wait duration => exact .same ⟨rfl, rfl, rfl⟩ rfl (fun _ _ hk => hk) nofun

end DispatchInv

/-! ## Runs -/

/-- An invocation identifier stands for one logical key in the requests of the
history. -/
def Named (acts : List RuntimeAction) : Prop :=
  ∀ k request options k' request' options', .execute k request options ∈ acts →
    .execute k' request' options' ∈ acts → request.invocationId = request'.invocationId →
      request.logicalIdempotencyKey = request'.logicalIdempotencyKey

/-- The key an invocation identifier stands for. -/
theorem Named.exists_keyOf {acts : List RuntimeAction} (h : Named acts) :
    ∃ keyOf : JsString → JsString, ∀ k request options, .execute k request options ∈ acts →
      keyOf request.invocationId = request.logicalIdempotencyKey := by
  have hkey : ∀ id, ∃ key, ∀ k request options, .execute k request options ∈ acts →
      request.invocationId = id → key = request.logicalIdempotencyKey := by
    intro id
    by_cases hid : ∃ k request options, .execute k request options ∈ acts ∧
      request.invocationId = id
    · obtain ⟨k, request, options, hact, rfl⟩ := hid
      exact ⟨_, fun k' request' options' hact' heq => h _ _ _ _ _ _ hact hact' heq.symm⟩
    · exact ⟨[], fun k request options hact heq => absurd ⟨k, request, options, hact, heq⟩ hid⟩
  choose keyOf hkeyOf using hkey
  exact ⟨keyOf, fun k request options hact => hkeyOf _ k request options hact rfl⟩

theorem dispatchInv_initial (keyOf : JsString → JsString)
    (configuration : ModelProviderConfiguration)
    (targetDecision : ModelProviderTargetDecision) (now : ℤ) :
    DispatchInv keyOf (initial configuration targetDecision now) where
  keys := List.nodup_nil
  named := List.forall_mem_nil _
  received := rfl
  reserved := rfl
  records := List.forall_mem_nil _
  known := List.forall_mem_nil _
  frames _ _ hk := by cases hk
  alone _ _ _ _ hk := by cases hk

theorem dispatchInv_after (h : DispatchInv keyOf s) {acts : List RuntimeAction}
    (hname : ∀ k request options, .execute k request options ∈ acts →
      keyOf request.invocationId = request.logicalIdempotencyKey) :
    DispatchInv keyOf (s.after checks acts) := by
  refine Transition.run_invariant_of_eachStep
    (C := fun _ act => ∀ k request options, act = .execute k request options →
      keyOf request.invocationId = request.logicalIdempotencyKey)
    (fun s act hs hact => hs.of_kind (hs.kind act) hact) h ?_
  refine Transition.eachStep_of_forall (fun act hact _ k request options heq => ?_) s
  exact hname k request options (heq ▸ hact)

/-- A generation has moved since the reservation. -/
def IsFenced (r : ProofInvocationRecord) : Prop :=
  1 < r.leaseGeneration ∨ 0 < r.cancellationGeneration ∨ 0 < r.terminalGeneration

theorem IsFenced.not_unfenced {r : ProofInvocationRecord} (h : IsFenced r) : ¬ r.Unfenced := by
  intro hunfenced
  simp only [ProofInvocationRecord.Unfenced, ProofInvocationRecord.generations,
    Generations.mk.injEq] at hunfenced
  rcases h with h | h | h <;> omega

theorem IsFenced.mono {r r' : ProofInvocationRecord} (h : IsFenced r)
    (hlease : r.leaseGeneration ≤ r'.leaseGeneration)
    (hcancellation : r.cancellationGeneration ≤ r'.cancellationGeneration)
    (hterminal : r.terminalGeneration ≤ r'.terminalGeneration) : IsFenced r' := by
  rcases h with h | h | h
  · exact .inl (h.trans_le hlease)
  · exact .inr (.inl (h.trans_le hcancellation))
  · exact .inr (.inr (h.trans_le hterminal))

theorem IsFenced.of_generations_eq {r r' : ProofInvocationRecord} (h : IsFenced r)
    (heq : r'.generations = r.generations) : IsFenced r' := by
  simp only [ProofInvocationRecord.generations, Generations.mk.injEq] at heq
  exact h.mono heq.1.ge heq.2.1.ge heq.2.2.ge

namespace DispatchInv

variable {act : RuntimeAction} {invocationId : JsString} {r : ProofInvocationRecord}

/-- A change of another record keeps the record. -/
theorem byInvocation_of_update (h : DispatchInv keyOf s) (h' : DispatchInv keyOf s')
    {id : JsString} {g : ProofInvocationRecord → ProofInvocationRecord}
    (hupdate : Update id g s.store s'.store) (hne : invocationId ≠ id)
    (hr : s.store.byInvocation invocationId = some r) :
    s'.store.byInvocation invocationId = some r := by
  obtain ⟨hmem, hid⟩ := h.byInvocation_eq_some.mp hr
  refine h'.byInvocation_eq_some.mpr ⟨?_, hid⟩
  rw [hupdate.records]
  refine Table.mem_updateFirst_of_not hmem ?_
  rw [isInvocation_iff, hid]
  exact hne

/-- A reserved record stays, a fence on it stays up, and a fencing call puts one up. -/
theorem stays (h : DispatchInv keyOf s) (h' : DispatchInv keyOf s')
    (hkind : StepKind s s' act) (hr : s.store.byInvocation invocationId = some r) :
    ∃ r', s'.store.byInvocation invocationId = some r' ∧
      (IsFenced r ∨ fences invocationId act = true → IsFenced r') := by
  obtain ⟨hmem, hid⟩ := h.byInvocation_eq_some.mp hr
  cases hkind with
  | same hsame _ _ hmissing =>
      refine ⟨r, ?_, ?_⟩
      · rw [byInvocation, hsame.records]
        exact hr
      · rintro (hfenced | hfence)
        · exact hfenced
        · rw [hmissing invocationId hfence] at hr
          cases hr
  | @settles _ id hsettles _ _ _ _ hact =>
      obtain ⟨g, hupdate, hgenerations⟩ : ∃ g, Update id g s.store s'.store ∧
          ∀ r, (g r).generations = r.generations := by
        rcases hsettles with ⟨g, hupdate, hgenerations, -⟩ | ⟨g, -, -, hupdate, hgenerations, -⟩
        · exact ⟨g, hupdate, hgenerations⟩
        · exact ⟨g, hupdate, hgenerations⟩
      by_cases heq : invocationId = id
      · subst heq
        refine ⟨g r, by rw [hupdate.byInvocation, hr, Option.map_some], ?_⟩
        rintro (hfenced | hfence)
        · exact hfenced.of_generations_eq (hgenerations r)
        · simp [hact] at hfence
      · refine ⟨r, h.byInvocation_of_update h' hupdate heq hr, ?_⟩
        rintro (hfenced | hfence)
        · exact hfenced
        · simp [hact] at hfence
  | @fences _ id hact hfences _ _ =>
      obtain ⟨g, hupdate, -, hgrows, -⟩ := hfences
      obtain ⟨hlease, hcancellation, hterminal, hne⟩ := hgrows r
      by_cases heq : invocationId = id
      · subst heq
        refine ⟨g r, by rw [hupdate.byInvocation, hr, Option.map_some], fun _ => ?_⟩
        have hleased := (h.records r hmem).leased
        simp only [ProofInvocationRecord.generations, ne_eq, Generations.mk.injEq] at hne
        rw [IsFenced]
        omega
      · refine ⟨r, h.byInvocation_of_update h' hupdate heq hr, ?_⟩
        rintro (hfenced | hfence)
        · exact hfenced
        · rw [hact, decide_eq_true_eq] at hfence
          exact absurd hfence.symm heq
  | @notes _ id hnotes _ _ hact =>
      obtain ⟨g, hupdate, hkept, -⟩ := hnotes
      by_cases heq : invocationId = id
      · subst heq
        refine ⟨g r, by rw [hupdate.byInvocation, hr, Option.map_some], ?_⟩
        rintro (hfenced | hfence)
        · exact hfenced.of_generations_eq (hkept r).1
        · simp [hact] at hfence
      · refine ⟨r, h.byInvocation_of_update h' hupdate heq hr, ?_⟩
        rintro (hfenced | hfence)
        · exact hfenced
        · simp [hact] at hfence
  | reserves _ _ hreserves _ _ =>
      obtain ⟨-, -, new, hrecords, -⟩ := hreserves
      refine ⟨r, h'.byInvocation_eq_some.mpr ⟨?_, hid⟩, ?_⟩
      · rw [hrecords]
        exact List.mem_cons_of_mem new hmem
      · rintro (hfenced | hfence)
        · exact hfenced
        · cases hfence

/-- A commit is one of a record at its first generations. -/
theorem unfenced_of_commits_lt (hkind : StepKind s s' act)
    (hlt : s.commits invocationId < s'.commits invocationId) :
    ∃ r, s.store.byInvocation invocationId = some r ∧ r.Unfenced := by
  have hsame (heq : s'.store.committedArtifacts = s.store.committedArtifacts) : False := by
    rw [commits, commits, heq] at hlt
    exact lt_irrefl _ hlt
  cases hkind with
  | same hstore _ _ _ => exact (hsame hstore.committedArtifacts).elim
  | settles hsettles _ _ _ _ _ =>
      rcases hsettles with ⟨-, -, -, hartifacts⟩ | ⟨g, r, digest, -, -, hr, hunfenced, -,
        hartifacts⟩
      · exact (hsame hartifacts).elim
      · rw [commits, commits, hartifacts, List.countP_cons] at hlt
        split at hlt
        · next hid => exact ⟨r, of_decide_eq_true hid ▸ hr, hunfenced⟩
        · exact absurd hlt (lt_irrefl _)
  | fences _ hfences _ _ => exact (hsame hfences.choose_spec.2.2.2).elim
  | notes hnotes _ _ _ => exact (hsame hnotes.choose_spec.2.2).elim
  | reserves _ _ hreserves _ _ => exact (hsame hreserves.2.1).elim

/-- A fence that a call put up since the reservation is up. -/
theorem fenced_after (h : DispatchInv keyOf s) {acts : List RuntimeAction}
    (hname : ∀ k request options, .execute k request options ∈ acts →
      keyOf request.invocationId = request.logicalIdempotencyKey)
    (hr : s.store.byInvocation invocationId = some r) :
    ∃ r', (s.after checks acts).store.byInvocation invocationId = some r' ∧
      (IsFenced r ∨ (∃ act ∈ acts, fences invocationId act = true) → IsFenced r') := by
  induction acts generalizing s r with
  | nil => exact ⟨r, hr, by simp⟩
  | cons act acts ih =>
      have h' : DispatchInv keyOf (s.step checks act) :=
        h.of_kind (h.kind act) fun k request options heq => hname k request options (by simp [heq])
      obtain ⟨r₁, hr₁, hfenced₁⟩ := h.stays h' (h.kind act) hr
      obtain ⟨r', hr', hfenced'⟩ := ih h'
        (fun k request options hact => hname k request options (List.mem_cons_of_mem act hact)) hr₁
      refine ⟨r', hr', ?_⟩
      rintro (hfenced | ⟨act', hact', hfence⟩)
      · exact hfenced' (.inl (hfenced₁ (.inl hfenced)))
      · rcases List.mem_cons.mp hact' with rfl | hact'
        · exact hfenced' (.inl (hfenced₁ (.inr hfence)))
        · exact hfenced' (.inr ⟨act', hact', hfence⟩)

end DispatchInv

def dispatches (s : ProviderRuntime) (key : JsString) : ℕ :=
  s.receivedRequests.countP fun request => request.logicalIdempotencyKey = key

def reservations (s : ProviderRuntime) (key : JsString) : ℕ :=
  s.store.records.countP fun r => r.logicalKey = key

def keyCommits (s : ProviderRuntime) (key : JsString) : ℕ :=
  s.store.committedArtifacts.countP fun a =>
    s.store.records.any fun r => r.invocationId = a.invocationId ∧ r.logicalKey = key

namespace DispatchInv

variable (h : DispatchInv keyOf s)

include h

theorem dispatches_eq (key : JsString) : s.dispatches key = s.reservations key := by
  have hcolumn : s.receivedRequests.map (fun r => r.logicalIdempotencyKey) =
      s.store.records.map fun r => r.logicalKey := by
    have := congrArg (List.map fun i => i.1) h.received
    rwa [List.map_map, List.map_map] at this
  have hcount := congrArg (List.countP fun k => decide (k = key)) hcolumn
  rwa [List.countP_map, List.countP_map] at hcount

theorem reservations_le (key : JsString) : s.reservations key ≤ 1 := by
  have hcount := List.nodup_iff_count_le_one.mp h.keys key
  rw [List.count, List.countP_map] at hcount
  refine le_trans (List.countP_mono_left fun r _ hr => ?_) hcount
  simpa using hr

theorem keyCommits_le (key : JsString) : s.keyCommits key ≤ 1 := by
  by_cases hkey : ∃ r ∈ s.store.records, r.logicalKey = key
  · obtain ⟨r, hr, rfl⟩ := hkey
    refine le_trans (List.countP_mono_left fun a _ ha => ?_) (h.records r hr).once
    obtain ⟨r', hr', hr'key⟩ := List.any_eq_true.mp ha
    simp only [decide_eq_true_eq] at hr'key ⊢
    rw [← Table.eq_of_key_eq h.keys hr' hr hr'key.2]
    exact hr'key.1.symm
  · refine le_of_eq_of_le (List.countP_eq_zero.mpr fun a _ ha => hkey ?_) (Nat.zero_le 1)
    obtain ⟨r, hr, hrkey⟩ := List.any_eq_true.mp ha
    exact ⟨r, hr, (of_decide_eq_true hrkey).2⟩

theorem reservations_eq_sum : s.store.ledger.reservations =
    (s.receivedRequests.map fun request => request.budgetReservations.length).sum := by
  have hcolumn := congrArg (List.map fun i => i.2.2.2.length) h.received
  rw [List.map_map, List.map_map] at hcolumn
  rw [h.reserved]
  exact congrArg List.sum hcolumn.symm

theorem execute_of_taken {k : ℕ} {request : ModelProviderInvocationRequest}
    {options : ProofExecutionOptions}
    (htaken : ∃ request' ∈ s.receivedRequests,
      request'.logicalIdempotencyKey = request.logicalIdempotencyKey) :
    let s' := s.step checks (.execute k request options)
    s'.receivedRequests = s.receivedRequests ∧ s'.store.records = s.store.records ∧
      s'.store.ledger.reservations = s.store.ledger.reservations := by
  obtain ⟨request', hrequest', hkey⟩ := htaken
  have hmem : requestIdentity request' ∈
      s.store.records.map ProofInvocationRecord.identity := by
    rw [← h.received]
    exact List.mem_map_of_mem hrequest'
  obtain ⟨r, hr, hidentity⟩ := List.mem_map.mp hmem
  have hrkey : r.logicalKey = request.logicalIdempotencyKey :=
    (congrArg (·.1) hidentity).trans hkey
  dsimp only [step]
  split
  · unfold startExecute
    dsimp only
    rcases execute_starts s.now s.activeConfiguration
      s.activeTargetDecision request options s.store with ⟨frame, -, -, -, hreserves⟩ |
      ⟨hframe, hsame⟩
    · exact absurd (decide_eq_true hrkey) (List.find?_eq_none.mp hreserves.1 r hr)
    · split
      · next frame heq => exact absurd heq (hframe frame)
      · exact ⟨rfl, hsame.records, hsame.reservations⟩
  · exact ⟨rfl, rfl, rfl⟩

end DispatchInv

/-- Under a logical key the adapter is invoked at most once, budget is reserved exactly
when it is invoked, and at most one candidate is committed. A request under a key that
was invoked with another digest is not dispatched. A commit finds its invocation as it
was reserved: no call has fenced it since. -/
theorem dispatch_exactly_once (checks : RuntimeChecks)
    (configuration : ModelProviderConfiguration)
    (targetDecision : ModelProviderTargetDecision) (now : ℤ) (acts : List RuntimeAction)
    (hnamed : Named acts) :
    let start := initial configuration targetDecision now
    let s := start.after checks acts
    (∀ key, s.dispatches key ≤ 1 ∧ s.reservations key = s.dispatches key ∧
      s.keyCommits key ≤ 1) ∧
    s.store.ledger.reservations =
      (s.receivedRequests.map fun request => request.budgetReservations.length).sum ∧
    (∀ a ∈ s.store.committedArtifacts,
      ∃ r ∈ s.store.records, r.invocationId = a.invocationId) ∧
    (∀ k request options, (∃ request' ∈ s.receivedRequests,
        request'.logicalIdempotencyKey = request.logicalIdempotencyKey ∧
        request'.requestDigest ≠ request.requestDigest) →
      let s' := s.step checks (.execute k request options)
      s'.receivedRequests = s.receivedRequests ∧ s'.store.records = s.store.records ∧
        s'.store.ledger.reservations = s.store.ledger.reservations) ∧
    ∀ before since act rest invocationId, acts = before ++ since ++ act :: rest →
      (start.after checks before).store.byInvocation invocationId ≠ none →
      let committing := start.after checks (before ++ since)
      committing.commits invocationId < (committing.step checks act).commits invocationId →
        ∀ act' ∈ since, fences invocationId act' = false := by
  intro start s
  obtain ⟨keyOf, hname⟩ := hnamed.exists_keyOf
  have hstart : DispatchInv keyOf start :=
    dispatchInv_initial keyOf configuration targetDecision now
  have h : DispatchInv keyOf s := dispatchInv_after hstart hname
  refine ⟨fun key => ?_, h.reservations_eq_sum, h.known, ?_, ?_⟩
  · exact ⟨(h.dispatches_eq key).trans_le (h.reservations_le key), (h.dispatches_eq key).symm,
      h.keyCommits_le key⟩
  · rintro k request options ⟨request', hrequest', hkey, -⟩
    exact h.execute_of_taken ⟨request', hrequest', hkey⟩
  · rintro before since act rest invocationId rfl hreserved committing hlt act' hact'
    obtain ⟨r, hr⟩ := Option.ne_none_iff_exists'.mp hreserved
    have hbefore : DispatchInv keyOf (start.after checks before) :=
      dispatchInv_after hstart fun k request options hact => hname k request options (by simp [hact])
    have hsince (k : ℕ) (request : ModelProviderInvocationRequest)
        (options : ProofExecutionOptions) (hact : .execute k request options ∈ since) :
        keyOf request.invocationId = request.logicalIdempotencyKey :=
      hname k request options (by simp [hact])
    obtain ⟨r', hr', hfenced⟩ := hbefore.fenced_after hsince hr
    have hrun : (start.after checks before).after checks since = committing :=
      (Transition.run_append _ _ _ _).symm
    rw [hrun] at hr'
    have hcommitting : DispatchInv keyOf committing :=
      dispatchInv_after hstart fun k request options hact =>
        hname k request options (List.mem_append_left _ hact)
    obtain ⟨r'', hr'', hunfenced⟩ :=
      DispatchInv.unfenced_of_commits_lt (hcommitting.kind act) hlt
    obtain rfl : r' = r'' := Option.some.inj (hr'.symm.trans hr'')
    by_contra hfence
    rw [Bool.not_eq_false] at hfence
    exact (hfenced (.inr ⟨act', hact', hfence⟩)).not_unfenced hunfenced

/-! ## A run that commits -/

def demoChecks : RuntimeChecks where
  seededBoundarySource := .ok ⟨⟩
  parseDate _ := none
  canonicalDigest _ := []
  assertRequestBindings _ _ _ := true
  assertResultBindings _ _ _ := true
  validateCandidate _ := ⟨true, some .null, .null, []⟩
  requestContainsCanary _ := false
  resultContainsCanary _ := false
  evidenceContainsCanary _ _ _ := false

def demoReference : VersionReference := ⟨[], [], [], [], []⟩

def demoRequest : ModelProviderInvocationRequest where
  attemptId := []
  invocationId := [2]
  logicalIdempotencyKey := [1]
  requestDigest := []
  providerConfiguration := some demoReference
  outputSchema := some demoReference
  environment := js "LOCAL"
  providerKey := js "DETERMINISTIC_FIXTURE"
  deadlineAt := []
  budgetReservations := [[3]]
  privacy := ⟨false, false, false, false, [], .null⟩
  others := .null

/-- The adapter reports a success after the lease was lost. -/
def demoFenced : List RuntimeAction :=
  [.execute 0 demoRequest {}, .loseLease [2], .invoked 0 (some ⟨.succeeded, none, none, .null⟩)]

/-- The outcome is unknown at first, and a reconciliation commits it. -/
def demoActs : List RuntimeAction :=
  [.execute 0 demoRequest {}, .invoked 0 none, .reconcile 0 demoRequest,
    .execute 1 demoRequest {}, .lookedUp 0 (some ⟨.succeeded, none, none, .null⟩)]

def demoStart : ProviderRuntime :=
  initial ⟨[], js "DETERMINISTIC_FIXTURE", .null⟩ .null 0

theorem dispatch_exactly_once_demo :
    (demoStart.after demoChecks demoActs).keyCommits [1] = 1 ∧
      (demoStart.after demoChecks demoActs).dispatches [1] ≤ 1 := by
  refine ⟨by decide, ?_⟩
  refine ((dispatch_exactly_once demoChecks _ _ _ demoActs ?_).1 [1]).1
  rintro k request options k' request' options' hact hact' -
  simp only [demoActs, List.mem_cons, RuntimeAction.execute.injEq, reduceCtorEq, false_or,
    List.not_mem_nil, or_false] at hact hact'
  rcases hact with ⟨-, rfl, -⟩ | ⟨-, rfl, -⟩ <;> rcases hact' with ⟨-, rfl, -⟩ | ⟨-, rfl, -⟩ <;> rfl

example : (demoStart.after demoChecks demoFenced).keyCommits [1] = 0 := by decide

end ProviderRuntime

end Aico
