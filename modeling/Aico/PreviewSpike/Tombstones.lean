import Aico.PreviewSpike.IsolationFrame
import Aico.PreviewSpike.ServingIntegrity

/-!
# Hosts and content that are gone

A preview that is served has its host to itself: no other preview, in whatever state, has it.
The host of a removed preview is retired, and its content is gone; no later call brings
either of them back.
-/

namespace Aico

namespace PreviewProof

open Coroutine PreviewProofService

variable {svc : PreviewProofService} {s s' : PreviewProofState}

/-! ## What a step can do to states, hosts and objects -/

section Ran

variable {request : OperationRequest} {receipt : ProofReceipt}

/-- A preview that a call has written is prepared no more. -/
theorem Ran.state_of_get (hs : Rows s) (h : Ran svc s request receipt s') {id : JsString}
    {q : PreviewAuthority} (hq : s'.previews.get id = some q) :
    s.previews.get id = some q ∨ q.state ≠ .prepared := by
  cases h with
  | settled _ h =>
      rw [h.left_eq] at hq
      exact .inl hq
  | published p =>
      rw [p.left_eq] at hq
      obtain hsame | ⟨-, rfl⟩ := get_set_preview (hs.get_previewId p.previewRead) hq
      · exact .inl hsame
      · right
        unfold Publication.published
        split <;> simp [doubtfulPreview, availablePreview]
  | issued i => exact .inl hq
  | exchanged x =>
      rw [x.left_eq] at hq
      exact .inl hq
  | accessed h =>
      cases h with
      | denied _ => exact .inl hq
      | quarantined v _ _ =>
          obtain hsame | ⟨-, rfl⟩ := get_set_preview (hs.get_previewId v.previewRead) hq
          · exact .inl hsame
          · simp [quarantined]
      | cached _ _ _ => exact .inl hq
      | stored _ _ _ => exact .inl hq
  | @revoked revocation r =>
      obtain hsame | ⟨-, rfl⟩ := get_set_preview (hs.get_previewId r.previewRead) hq
      · exact .inl hsame
      · right
        change (revokedPreview revocation r.preview).state ≠ .prepared
        unfold revokedPreview
        dsimp only
        split <;> simp
  | removed r =>
      rw [r.left_eq] at hq
      dsimp only at hq
      rw [get_set_set] at hq
      obtain hsame | ⟨-, rfl⟩ := get_set_preview (hs.get_previewId r.previewRead) hq
      · exact .inl hsame
      · right
        change (cleanedPreview r.preview r.complete).state ≠ .prepared
        cases r.complete <;> simp [cleanedPreview]
  | reconciled r => exact .inl hq

theorem Ran.retiredHosts_cases (h : Ran svc s request receipt s') :
    s'.retiredHosts = s.retiredHosts ∨
      ∃ (cleanup : CleanupRequest) (r : Removal svc s cleanup), request = .cleanup cleanup ∧
        s' = r.left ∧ s'.retiredHosts = s.retiredHosts ++ [r.preview.host] := by
  cases h with
  | settled _ h =>
      rw [h.left_eq]
      exact .inl rfl
  | published p =>
      rw [p.left_eq]
      exact .inl rfl
  | issued i => exact .inl rfl
  | exchanged x =>
      rw [x.left_eq]
      exact .inl rfl
  | accessed h => cases h <;> exact .inl rfl
  | revoked r => exact .inl rfl
  | removed r =>
      have hretired : r.left.retiredHosts =
          (retireHost r.preview r.complete r.emptied).retiredHosts := by
        rw [r.left_eq]
      rw [hretired]
      unfold retireHost
      split
      · next hcomplete =>
          refine .inr ⟨_, r, rfl, rfl, rfl⟩
      · exact .inl rfl
  | reconciled r => exact .inl rfl

end Ran

theorem Restated.host_eq {p q : PreviewAuthority} (h : Restated p q) : q.host = p.host := by
  rw [h]

/-! ## Hosts -/

/-- A preview that is available has its host to itself, and the host is not retired. -/
structure Exclusive (s : PreviewProofState) : Prop where
  sole : ∀ id p id' q, s.previews.get id = some p → p.state = .available →
    s.previews.get id' = some q → id' ≠ id → q.host ≠ p.host
  unretired : ∀ id p, s.previews.get id = some p → p.state = .available →
    p.host ∉ s.retiredHosts

theorem Initial.exclusive (h : Initial s) : Exclusive s where
  sole id p id' q hp hstate _ _ := by
    rw [(h.previews id p hp).2] at hstate
    cases hstate
  unretired id p hp hstate := by
    rw [(h.previews id p hp).2] at hstate
    cases hstate

theorem Publication.host_ne {request : PublicationRequest} (b : Publication svc s request)
    (hs : Rows s) {id : JsString} {q : PreviewAuthority} (hq : s.previews.get id = some q)
    (hid : id ≠ b.preview.previewId) : q.host ≠ b.preview.host := by
  apply b.others q (JsMap.mem_values.mpr ⟨id, hq⟩)
  rw [hs.previews id q hq]
  exact hid

theorem Exclusive.ran (h : Exclusive s) (hs : Rows s) {request : OperationRequest}
    {receipt : ProofReceipt} (hran : Ran svc s request receipt s') : Exclusive s' where
  sole id p id' q hp hstate hq hne := by
    obtain ⟨p₀, hp₀, hrestated₀, havailable⟩ := hran.preview_of_get hs hp
    obtain ⟨q₀, hq₀, hrestated, -⟩ := hran.preview_of_get hs hq
    rw [hrestated.host_eq]
    obtain rfl | ⟨_, b, -, -, -, -, rfl⟩ := havailable hstate
    · exact h.sole id p id' q₀ hp₀ hstate hq₀ hne
    · rw [hrestated₀.host_eq]
      apply b.host_ne hs hq₀
      rw [hs.previews id _ hp₀]
      exact hne
  unretired id p hp hstate := by
    obtain ⟨p₀, hp₀, hrestated, havailable⟩ := hran.preview_of_get hs hp
    obtain hsame | ⟨_, r, rfl, rfl, hretired⟩ := hran.retiredHosts_cases
    · rw [hsame]
      obtain rfl | ⟨_, b, -, -, -, -, rfl⟩ := havailable hstate
      · exact h.unretired id p hp₀ hstate
      · rw [hrestated.host_eq]
        exact b.host
    · obtain rfl | ⟨_, _, hrequest, -⟩ := havailable hstate
      · have hne : r.preview.previewId ≠ id := by
          rintro rfl
          have hcleaned : r.left.previews.get r.preview.previewId = some r.cleaned := by
            rw [r.left_eq]
            exact JsMap.get_set_self
          obtain rfl := Option.some.inj (hcleaned.symm.trans hp)
          exact state_cleanedPreview_ne _ _ hstate
        have hother := h.sole id p _ _ hp₀ hstate (hs.get_previewId r.previewRead) hne
        rw [hretired, List.mem_append, List.mem_singleton]
        exact not_or.mpr ⟨h.unretired id p hp₀ hstate, hother.symm⟩
      · cases hrequest

theorem Exclusive.environs (h : Exclusive s) (e : Environs) : Exclusive (svc.environs e s) := by
  rw [environs_eq]
  exact ⟨h.sole, h.unretired⟩

theorem exclusive_after {s₀ : PreviewProofState} (hs₀ : Initial s₀) (acts : List Happening) :
    Exclusive (Transition.run (serviceStep svc) s₀ acts) := by
  have hinv : Rows (Transition.run (serviceStep svc) s₀ acts) ∧
      Exclusive (Transition.run (serviceStep svc) s₀ acts) := by
    refine Transition.run_invariant (P := fun s => Rows s ∧ Exclusive s) ?_
      ⟨hs₀.rows, hs₀.exclusive⟩ acts
    apply serviceStep_keeps
    · intro s s' request receipt hs hran
      exact ⟨hs.1.ran hran, hs.2.ran hs.1 hran⟩
    · intro s e hs
      exact ⟨hs.1.environs e, hs.2.environs e⟩
  exact hinv.2

/-! ## Content -/

def Unowned (previewId : JsString) (objects : JsMap JsString ObjectRecord) : Prop :=
  ∀ key object, objects.get key = some object → object.previewId ≠ previewId

section Unowned

variable {previewId : JsString} {objects : JsMap JsString ObjectRecord}

theorem Unowned.stageCopy (h : Unowned previewId objects) {preview : PreviewAuthority}
    (hne : preview.previewId ≠ previewId) (copy : VerifiedBuildCopy) :
    Unowned previewId (stageCopy preview objects copy) := by
  intro key object hobject
  unfold PreviewProofService.stageCopy at hobject
  rw [JsMap.get_set] at hobject
  split at hobject
  · obtain rfl := Option.some.inj hobject
    exact hne
  · exact h key object hobject

theorem Unowned.activateObject (h : Unowned previewId objects) (key : JsString) :
    Unowned previewId (activateObject objects key) := by
  intro key' object hobject
  unfold PreviewProofService.activateObject at hobject
  rw [JsMap.get_update] at hobject
  split at hobject
  · obtain ⟨stored, hstored, rfl⟩ := Option.map_eq_some_iff.mp hobject
    exact h key stored hstored
  · exact h key' object hobject

theorem Unowned.delete (h : Unowned previewId objects) (key : JsString) :
    Unowned previewId (objects.delete key) := by
  intro key' object hobject
  rw [JsMap.get_delete] at hobject
  split at hobject
  · cases hobject
  · exact h key' object hobject

theorem Unowned.published (h : Unowned previewId s.objects) {request : PublicationRequest}
    (p : Publication svc s request) (hne : p.preview.previewId ≠ previewId) :
    Unowned previewId p.left.objects := by
  have hstaged : Unowned previewId (p.verified.foldl (PreviewProofService.stageCopy p.preview)
      s.objects) :=
    List.foldlRecOn p.verified _ h fun _ hobjects copy _ => hobjects.stageCopy hne copy
  rw [p.left_eq]
  unfold Publication.copied
  split
  · exact hstaged
  · exact List.foldlRecOn _ _ hstaged fun _ hobjects key _ => hobjects.activateObject key

theorem Unowned.ran (h : Unowned previewId s.objects) {request : OperationRequest}
    {receipt : ProofReceipt} (hran : Ran svc s request receipt s')
    (hne : ∀ (publication : PublicationRequest) (p : Publication svc s publication),
      p.preview.previewId ≠ previewId) : Unowned previewId s'.objects := by
  cases hran with
  | settled _ hsettled =>
      rw [hsettled.left_eq]
      exact h
  | published p => exact h.published p (hne _ p)
  | issued i => exact h
  | exchanged x =>
      rw [x.left_eq]
      exact h
  | accessed haccessed => cases haccessed <;> exact h
  | revoked r => exact h
  | removed r =>
      rw [r.left_eq]
      exact List.foldlRecOn _ _ h fun _ hobjects key _ => hobjects.delete key
  | reconciled r => exact h

end Unowned

/-- The preview is neither available nor will it be, and it has no object. -/
structure Gone (previewId : JsString) (s : PreviewProofState) : Prop where
  withdrawn : ∀ q, s.previews.get previewId = some q →
    q.state ≠ .prepared ∧ q.state ≠ .available
  unowned : Unowned previewId s.objects

namespace Gone

variable {previewId : JsString}

theorem ran (h : Gone previewId s) (hs : Rows s) {request : OperationRequest}
    {receipt : ProofReceipt} (hran : Ran svc s request receipt s') : Gone previewId s' where
  withdrawn q hq := by
    obtain ⟨p, hp, -, havailable⟩ := hran.preview_of_get hs hq
    obtain ⟨hprepared, hwithdrawn⟩ := h.withdrawn p hp
    constructor
    · obtain hsame | hne := hran.state_of_get hs hq
      · exact (h.withdrawn q hsame).1
      · exact hne
    · intro hstate
      obtain rfl | ⟨_, b, -, -, -, -, rfl⟩ := havailable hstate
      · exact hwithdrawn hstate
      · exact hprepared b.prepared
  unowned := by
    refine h.unowned.ran hran fun _ p => ?_
    rintro rfl
    exact (h.withdrawn p.preview (hs.get_previewId p.previewRead)).1 p.prepared

theorem environs (h : Gone previewId s) (e : Environs) : Gone previewId (svc.environs e s) := by
  rw [environs_eq]
  exact ⟨h.withdrawn, h.unowned⟩

theorem after (h : Gone previewId s) (hs : Rows s) (acts : List Happening) :
    Gone previewId (Transition.run (serviceStep svc) s acts) := by
  have hinv : Rows (Transition.run (serviceStep svc) s acts) ∧
      Gone previewId (Transition.run (serviceStep svc) s acts) := by
    refine Transition.run_invariant (P := fun s => Rows s ∧ Gone previewId s) ?_ ⟨hs, h⟩ acts
    apply serviceStep_keeps
    · intro s s' request receipt hs hran
      exact ⟨hs.1.ran hran, hs.2.ran hs.1 hran⟩
    · intro s e hs
      exact ⟨hs.1.environs e, hs.2.environs e⟩
  exact hinv.2

end Gone

theorem Removal.gone {request : CleanupRequest} (r : Removal svc s request)
    (hcomplete : r.complete = true) : Gone r.preview.previewId r.left where
  withdrawn q hq := by
    rw [r.left_eq] at hq
    obtain rfl := Option.some.inj (JsMap.get_set_self.symm.trans hq)
    unfold Removal.cleaned
    rw [hcomplete]
    simp [cleanedPreview]
  unowned := by
    intro key object hobject howned
    rw [r.left_eq] at hobject
    have hkey : key ∈ ownedKeys r.emptied.objects r.preview.previewId :=
      mem_ownedKeys.mpr ⟨object, hobject, howned⟩
    unfold Removal.complete cleanupComplete at hcomplete
    simp only [Bool.and_eq_true, List.isEmpty_iff] at hcomplete
    rw [hcomplete.1.2] at hkey
    cases hkey

/-! ## Over a run -/

/-- The access was answered with the content of an entry of this preview, on a session of it. -/
structure ServedFrom (svc : PreviewProofService) (s : PreviewProofState)
    (request : AccessRequest) (receipt : ProofReceipt) (session : SessionAuthority)
    (preview : PreviewAuthority) : Prop where
  presented : svc.sessionOf s request.cookiePresentation = some session
  previewRead : s.previews.get session.previewId = some preview
  available : preview.state = .available
  host : preview.host = request.host
  content : ∃ build entry body response cacheResult pathDigest,
    s.builds.get preview.buildId = some build ∧ entry ∈ build.entries ∧
      svc.platform.bodyDigest body = entry.contentSha256 ∧
      receipt.detail = .access response cacheResult pathDigest ∧
      response.body = if request.method = .head then [] else body

/-- What a run keeps of hosts. -/
structure HostsKept (svc : PreviewProofService) (s₀ : PreviewProofState)
    (acts : List Happening) : Prop where
  served : ∀ request receipt s',
    completes (svc.access request) (Transition.run (serviceStep svc) s₀ acts) =
      (.ok receipt, s') →
    receipt.outcome = .allowed →
    ∃ session preview,
      ServedFrom svc (Transition.run (serviceStep svc) s₀ acts) request receipt session preview ∧
      ∀ id q, (Transition.run (serviceStep svc) s₀ acts).previews.get id = some q →
        id ≠ session.previewId → q.host ≠ request.host
  retired : ∀ host ∈ (Transition.run (serviceStep svc) s₀ acts).retiredHosts,
    ∀ later request receipt s',
      completes (svc.access request) (Transition.run (serviceStep svc) s₀ (acts ++ later)) =
        (.ok receipt, s') →
      receipt.outcome = .allowed → request.host ≠ host

theorem retired_mono {host : JsString} (h : host ∈ s.retiredHosts) (acts : List Happening) :
    host ∈ (Transition.run (serviceStep svc) s acts).retiredHosts := by
  refine Transition.run_invariant
    (P := fun s : PreviewProofState => host ∈ s.retiredHosts) ?_ h acts
  apply serviceStep_keeps
  · intro s s' request receipt hs hran
    obtain hsame | ⟨_, _, -, -, hretired⟩ := hran.retiredHosts_cases
    · rw [hsame]
      exact hs
    · rw [hretired]
      exact List.mem_append_left _ hs
  · intro s e hs
    rw [environs_eq]
    exact hs

/-- Whoever is served, is served by the only preview of the host, and never from a host that
was retired. -/
theorem hostsKept_after {s₀ : PreviewProofState} (hs₀ : Initial s₀) (acts : List Happening) :
    HostsKept svc s₀ acts where
  served := by
    intro request receipt s' hrun hallowed
    obtain ⟨v, content, rfl, hdigest⟩ := (access_cases hrun).allowed hallowed
    obtain ⟨grant, h⟩ := v.authorised
    refine ⟨v.session, v.preview, ?_, ?_⟩
    · exact
        { presented := v.presented
          previewRead := v.previewRead
          available := h.available
          host := h.hosts.2.2
          content := ⟨v.build, v.entry, content.1, _, content.2, _, v.buildRead,
            List.mem_of_find?_eq_some v.listed, hdigest, rfl, rfl⟩ }
    · rw [← h.hosts.2.2]
      exact fun id' q => (exclusive_after hs₀ acts).sole _ _ id' q v.previewRead h.available
  retired := by
    intro host hhost later request receipt s' hrun hallowed heq
    obtain ⟨v, _, -, -⟩ := (access_cases hrun).allowed hallowed
    obtain ⟨grant, h⟩ := v.authorised
    have hexclusive : Exclusive (Transition.run (serviceStep svc) s₀ (acts ++ later)) :=
      exclusive_after hs₀ _
    apply hexclusive.unretired _ _ v.previewRead h.available
    rw [h.hosts.2.2, heq, Transition.run_append]
    exact retired_mono hhost later

section Cleaned

theorem servable_cleaned :
    Servable Runtime.foldDigest (js "other") (js "pp_2") (js "other-host") sampleRemoval.left := by
  have hids : js "other" ≠ js "preview" := by decide
  have h := servable_uncleanState Runtime.foldDigest
  rw [sampleRemoval.left_eq]
  exact
    { toGrounded := ⟨h.companies, h.builds, h.now⟩
      sessionRead := h.sessionRead
      grantRead := h.grantRead
      previewRead := ((JsMap.get_set_of_ne hids).trans (JsMap.get_set_of_ne hids)).trans
        h.previewRead }

theorem cached_cleaned :
    sampleRemoval.left.cache.get
        (fileKey Runtime.foldDigest (otherPreview Runtime.foldDigest)) =
      (uncleanState Runtime.foldDigest).cache.get
        (fileKey Runtime.foldDigest (otherPreview Runtime.foldDigest)) := by
  have hrows : Rows (uncleanState Runtime.foldDigest) := by
    rw [← run_sampleHistory]
    exact rows_after (initial_sampleState _) _
  have hids : js "other" ≠ js "preview" := by decide
  have hother := servable_uncleanState Runtime.foldDigest
  have hkey : KeyOf cleaningService (uncleanState Runtime.foldDigest) (js "other")
      (fileKey Runtime.foldDigest (otherPreview Runtime.foldDigest)) :=
    ⟨_, _, _, hother.previewRead, hother.buildRead, List.mem_singleton_self _, rfl⟩
  refine sampleRemoval.get_cache fun hpurged => ?_
  have hmatching := List.mem_filter.mp (mem_of_mem_deletedKeys hpurged)
  exact (distinguished_sample underscore_notMem_foldDigest).not_infix_key hrows hids hkey
    (of_decide_eq_true hmatching.2)

theorem run_cleaned :
    Transition.run (serviceStep cleaningService) (sampleState Runtime.foldDigest)
      (sampleHistory Runtime.foldDigest ++ [.request (.cleanup sampleCleanup)]) =
      sampleRemoval.left := by
  rw [Transition.run_append, Transition.run_cons, Transition.run_nil, serviceStep_sampleCleanup]

theorem retired_cleaned : js "host" ∈ sampleRemoval.left.retiredHosts := by
  rw [sampleRemoval.left_eq, complete_sampleRemoval]
  exact List.mem_append_right _ (List.mem_singleton_self _)

end Cleaned

/-- The other preview is served after the cleanup of the first, whose host is retired. -/
theorem hostsKept_demo :
    HostsKept cleaningService (sampleState Runtime.foldDigest)
        (sampleHistory Runtime.foldDigest ++ [.request (.cleanup sampleCleanup)]) ∧
      js "host" ∈ sampleRemoval.left.retiredHosts ∧
      ∃ receipt session preview, receipt.outcome = .allowed ∧
        ServedFrom cleaningService sampleRemoval.left (accessRequestOf Runtime.foldDigest
          (otherPreview Runtime.foldDigest) (js "/a")) receipt session preview := by
  have hkept : HostsKept cleaningService (sampleState Runtime.foldDigest)
      (sampleHistory Runtime.foldDigest ++ [.request (.cleanup sampleCleanup)]) :=
    hostsKept_after (initial_sampleState _) _
  have hcached := cached_cleaned.trans (cached_uncleanState Runtime.foldDigest)
  obtain ⟨receipt, hrun, hallowed⟩ : ∃ receipt, completes
      (cleaningService.perform (.access (accessRequestOf Runtime.foldDigest
        (otherPreview Runtime.foldDigest) (js "/a")))) sampleRemoval.left =
      (.ok receipt, sampleRemoval.left) ∧ receipt.outcome = .allowed :=
    ⟨_, servable_cleaned.performs_cached hcached, rfl⟩
  have hserved := hkept.served (accessRequestOf Runtime.foldDigest
    (otherPreview Runtime.foldDigest) (js "/a")) receipt sampleRemoval.left
  rw [run_cleaned] at hserved
  obtain ⟨session, preview, hserved, -⟩ := hserved hrun hallowed
  exact ⟨hkept, retired_cleaned, receipt, session, preview, hallowed, hserved⟩

/-- After a cleanup that succeeded the preview is gone for good. -/
def PurgedForGood (svc : PreviewProofService) (s₀ : PreviewProofState)
    (acts : List Happening) : Prop :=
  ∀ request receipt s',
    completes (svc.cleanup request) (Transition.run (serviceStep svc) s₀ acts) =
      (.ok receipt, s') →
    receipt.outcome = .succeeded → receipt.replayed = false →
    ∀ later, Gone request.previewId (Transition.run (serviceStep svc) s' later)

theorem purgedForGood_after {s₀ : PreviewProofState} (hs₀ : Initial s₀)
    (acts : List Happening) : PurgedForGood svc s₀ acts := by
  intro request receipt s' hrun hsucceeded hfresh later
  have hs : Rows (Transition.run (serviceStep svc) s₀ acts) := rows_after hs₀ acts
  have hran : Ran svc (Transition.run (serviceStep svc) s₀ acts) (.cleanup request) receipt s' :=
    perform_cases hrun
  have hs' : Rows s' := hs.ran hran
  obtain hsettled | ⟨r, rfl, rfl⟩ := cleanup_cases hrun
  · cases hsettled with
    | refused hrefusal =>
        obtain hdenied | hconflict := hrefusal.outcome
        · cases hsucceeded.symm.trans hdenied
        · cases hsucceeded.symm.trans hconflict
    | replayed _ _ => cases hfresh
  · have hcomplete : r.complete = true := by
      by_contra hincomplete
      unfold Removal.receipt at hsucceeded
      rw [if_neg hincomplete] at hsucceeded
      cases hsucceeded
    rw [← hs.previews _ _ r.previewRead]
    exact (r.gone hcomplete).after hs' later

/-- The cleaned preview stays gone when its publication is sent again. -/
theorem purgedForGood_demo :
    PurgedForGood cleaningService (sampleState Runtime.foldDigest)
        (sampleHistory Runtime.foldDigest) ∧
      Gone (js "preview") (Transition.run (serviceStep cleaningService) sampleRemoval.left
        (publishes Runtime.foldDigest (samplePreview Runtime.foldDigest))) := by
  have hpurged : PurgedForGood cleaningService (sampleState Runtime.foldDigest)
      (sampleHistory Runtime.foldDigest) := purgedForGood_after (initial_sampleState _) _
  have hrun : Transition.run (serviceStep cleaningService) (sampleState Runtime.foldDigest)
      (sampleHistory Runtime.foldDigest) = uncleanState Runtime.foldDigest :=
    run_sampleHistory Runtime.foldDigest
  have hgone := hpurged sampleCleanup sampleRemoval.receipt sampleRemoval.left
  rw [hrun] at hgone
  exact ⟨hpurged, hgone sampleRemoval.performs outcome_sampleRemoval rfl _⟩

end PreviewProof

end Aico
