import Mathlib.Data.Bool.AllAny
import Aico.Json.Words
import Aico.PreviewSpike.PreviewSample

/-!
# What a call leaves alone

A request is about one preview, and it should leave every row of the others as it was. It
does where it `Spares` them: an issue whose identifier no grant has yet, an exchange whose
session no other preview has, and a cleanup of a preview whose public identifier stands in no
text of another. A cleanup purges the keys of the cache that mention the public identifier, and
a key is the text of an object, so that needs an argument about printed values: a word that
stands in the text of an object stands in one of its texts.
-/

namespace Aico

namespace PreviewProof

open Coroutine PreviewProofService

variable {svc : PreviewProofService} {s s' : PreviewProofState}

/-! ## Maps that a list of keys changes -/

section Folds

variable {β : Type} {m : JsMap JsString β} {k : JsString}

theorem get_foldl_delete_of_notMem {keys : List JsString} (h : k ∉ keys) :
    (keys.foldl JsMap.delete m).get k = m.get k := by
  induction keys generalizing m with
  | nil => rfl
  | cons key keys ih =>
      rw [List.foldl_cons, ih (List.not_mem_of_not_mem_cons h)]
      exact JsMap.get_delete_of_ne (List.ne_of_not_mem_cons h)

theorem get_foldl_delete_of_mem {keys : List JsString} (h : k ∈ keys) :
    (keys.foldl JsMap.delete m).get k = none := by
  induction keys generalizing m with
  | nil => cases h
  | cons key keys ih =>
      rw [List.foldl_cons]
      by_cases hkey : k ∈ keys
      · exact ih hkey
      · rw [get_foldl_delete_of_notMem hkey, JsMap.get_delete]
        exact if_pos ((List.mem_cons.mp h).resolve_right hkey)

theorem get_of_get_foldl_delete {keys : List JsString} {v : β}
    (h : (keys.foldl JsMap.delete m).get k = some v) : m.get k = some v := by
  induction keys generalizing m with
  | nil => exact h
  | cons key keys ih =>
      have hdeleted := ih h
      rw [JsMap.get_delete] at hdeleted
      split at hdeleted
      · cases hdeleted
      · exact hdeleted

theorem notMem_of_get_foldl_delete {keys : List JsString} {v : β}
    (h : (keys.foldl JsMap.delete m).get k = some v) : k ∉ keys := by
  intro hmem
  rw [get_foldl_delete_of_mem hmem] at h
  cases h

end Folds

section Copies

variable {preview : PreviewAuthority} {copies : List VerifiedBuildCopy}
  {objects : JsMap JsString ObjectRecord} {key : JsString}

theorem get_stageCopies_of_ne (h : ∀ copy ∈ copies, copy.destinationKey ≠ key) :
    (copies.foldl (stageCopy preview) objects).get key = objects.get key := by
  induction copies generalizing objects with
  | nil => rfl
  | cons copy copies ih =>
      obtain ⟨hcopy, hcopies⟩ := List.forall_mem_cons.mp h
      rw [List.foldl_cons, ih hcopies]
      exact JsMap.get_set_of_ne hcopy.symm

theorem get_activateCopies_of_ne {keys : List JsString} (h : key ∉ keys) :
    (keys.foldl activateObject objects).get key = objects.get key := by
  induction keys generalizing objects with
  | nil => rfl
  | cons key' keys ih =>
      rw [List.foldl_cons, ih (List.not_mem_of_not_mem_cons h), activateObject, JsMap.get_update,
        if_neg (List.ne_of_not_mem_cons h)]

end Copies

/-- A publication writes to keys that are free. -/
theorem Publication.get_objects {request : PublicationRequest} (p : Publication svc s request)
    {key : JsString} {object : ObjectRecord} (h : s.objects.get key = some object) :
    p.left.objects.get key = some object := by
  have hfree : ∀ copy ∈ p.verified, copy.destinationKey ≠ key := by
    rintro copy hcopy rfl
    obtain ⟨entry, -, hentry⟩ := Except.exists_mem_of_mem_mapM p.copies hcopy
    have hnone := (verifyCopy_eq_ok hentry).2.2.2
    rw [JsMap.has_eq_false, h] at hnone
    cases hnone
  have hstaged : (p.verified.foldl (stageCopy p.preview) s.objects).get key = some object :=
    (get_stageCopies_of_ne hfree).trans h
  rw [p.left_eq]
  unfold copied
  split
  · exact hstaged
  · refine (get_activateCopies_of_ne ?_).trans hstaged
    rw [List.mem_map]
    rintro ⟨copy, hcopy, heq⟩
    exact hfree copy hcopy heq

theorem mem_ownedKeys {objects : JsMap JsString ObjectRecord} {previewId key : JsString} :
    key ∈ ownedKeys objects previewId ↔
      ∃ object, objects.get key = some object ∧ object.previewId = previewId := by
  unfold ownedKeys
  simp only [List.mem_map, List.mem_filter, decide_eq_true_eq, JsMap.get_eq_some_iff]
  constructor
  · rintro ⟨⟨key, object⟩, ⟨hmem, hid⟩, rfl⟩
    exact ⟨object, hmem, hid⟩
  · rintro ⟨object, hmem, hid⟩
    exact ⟨(key, object), ⟨hmem, hid⟩, rfl⟩

theorem mem_of_mem_deletedKeys {keys : List JsString} {key : JsString}
    (h : key ∈ svc.deletedKeys keys) : key ∈ keys := by
  unfold deletedKeys at h
  split at h
  · exact List.mem_of_mem_take h
  · exact h

namespace Removal

variable {request : CleanupRequest}

theorem get_objects (r : Removal svc s request) {key : JsString} {object : ObjectRecord}
    (h : s.objects.get key = some object) (hother : object.previewId ≠ r.preview.previewId) :
    r.left.objects.get key = some object := by
  rw [r.left_eq]
  refine (get_foldl_delete_of_notMem fun hdeleted => ?_).trans h
  obtain ⟨owned, howned, hid⟩ := mem_ownedKeys.mp (mem_of_mem_deletedKeys hdeleted)
  obtain rfl := Option.some.inj (h.symm.trans howned)
  exact hother hid

theorem get_cache (r : Removal svc s request) {key : JsString}
    (h : key ∉ svc.purgedKeys s r.preview) : r.left.cache.get key = s.cache.get key := by
  rw [r.left_eq]
  exact get_foldl_delete_of_notMem h

end Removal

/-! ## The frame of a call -/

/-- The preview that a request is about. A reconciliation is about none, and so is an exchange
of a capability without a grant. -/
def Concerns (svc : PreviewProofService) (s : PreviewProofState) (previewId : JsString) :
    OperationRequest → Prop
  | .publish request => request.preview.previewId = previewId
  | .issueGrant request => request.previewId = previewId
  | .exchange request => ∀ claims grant, svc.verifyGrant request.capability = some claims →
      claimedGrant s claims = some grant → grant.previewId = previewId
  | .access _ => False
  | .revoke request => request.previewId = previewId
  | .cleanup request => request.previewId = previewId
  | .reconcile _ => True

def Presents (svc : PreviewProofService) (s : PreviewProofState) (grant : GrantAuthority) :
    OperationRequest → Prop
  | .exchange request => ∃ claims, svc.verifyGrant request.capability = some claims ∧
      claimedGrant s claims = some grant
  | _ => False

/-- The key of the cache is that of the preview and an entry of its build. -/
def KeyOf (svc : PreviewProofService) (s : PreviewProofState) (id key : JsString) : Prop :=
  ∃ preview build entry, s.previews.get id = some preview ∧
    s.builds.get preview.buildId = some build ∧ entry ∈ build.entries ∧
      key = svc.cacheKey preview entry

/-- The rows that are not the preview's are as they were. -/
structure Framed (svc : PreviewProofService) (s s' : PreviewProofState)
    (request : OperationRequest) (previewId : JsString) : Prop where
  previews : ∀ id, id ≠ previewId → s'.previews.get id = s.previews.get id
  grants : ∀ id grant, s.grants.get id = some grant → ¬ Presents svc s grant request →
    s'.grants.get id = some grant
  sessions : ∀ id session, s.sessions.get id = some session → session.previewId ≠ previewId →
    s'.sessions.get id = some session
  objects : ∀ key object, s.objects.get key = some object → object.previewId ≠ previewId →
    s'.objects.get key = some object
  cache : ∀ key cached, s.cache.get key = some cached →
    (∃ id, id ≠ previewId ∧ KeyOf svc s id key) → s'.cache.get key = some cached

def keyTexts (preview : PreviewAuthority) (entry : ManifestEntry) : List JsString :=
  [preview.publicPreviewId, preview.previewId, preview.outputManifestDigest, entry.path,
    entry.objectVersionId, entry.contentSha256, preview.headerProfileDigest]

/-- The public identifier starts as such identifiers do, has no unit that quotes or separates,
and stands in no text of another preview. -/
structure Distinguished (s : PreviewProofState) (preview : PreviewAuthority) : Prop where
  prefixed : js "pp_" <+: preview.publicPreviewId
  plain : ∀ u ∈ preview.publicPreviewId, u ∉ JsString.structural
  apart : ∀ other ∈ s.previews.values, other.previewId ≠ preview.previewId →
    ∀ build ∈ s.builds.get other.buildId, ∀ entry ∈ build.entries,
      ∀ text ∈ keyTexts other entry, ¬ preview.publicPreviewId <:+: text

/-- The call writes over no grant and over no session of another preview, and it cleans up
after a preview whose public identifier tells it from the others. -/
def Spares (svc : PreviewProofService) (s : PreviewProofState) : OperationRequest → Prop
  | .issueGrant request => ∀ i : Issuance svc s request, s.grants.get i.grant.grantId = none
  | .exchange request => ∀ x : Exchange svc s request,
      svc.faults.exchangeUnknownAfterNonce = false → ∀ session,
        s.sessions.get x.session.sessionId = some session →
          session.previewId = x.grant.previewId
  | .cleanup request => ∀ preview, s.previews.get request.previewId = some preview →
      Distinguished s preview
  | _ => True

namespace Distinguished

variable {preview : PreviewAuthority}

theorem isWord (h : Distinguished s preview) : JsString.IsWord preview.publicPreviewId where
  plain := h.plain
  initial := by
    obtain ⟨rest, hrest⟩ := h.prefixed
    rw [← hrest]
    exact ⟨0x70, rfl, by decide, by decide⟩

/-- No field and no environment is named like a public identifier. -/
theorem not_infix_literal (h : Distinguished s preview) {text : JsString}
    (htext : ¬ js "pp_" <:+: text) : ¬ preview.publicPreviewId <:+: text :=
  fun hin => htext (h.prefixed.isInfix.trans hin)

theorem not_infix_cacheKey (h : Distinguished s preview) {other : PreviewAuthority}
    {entry : ManifestEntry}
    (hapart : ∀ text ∈ keyTexts other entry, ¬ preview.publicPreviewId <:+: text) :
    ¬ preview.publicPreviewId <:+: svc.cacheKey other entry := by
  intro hin
  simp only [keyTexts, List.forall_mem_cons, List.not_mem_nil, false_implies, implies_true,
    and_true] at hapart
  obtain ⟨hpublicId, hid, hmanifest, hpath, hversion, hcontent, hheaders⟩ := hapart
  obtain ⟨field, hfield, hname | hvalue⟩ := Json.infix_sortJson_object h.isWord hin
  · have hliteral : js "pp_" <:+: js field.1 := h.prefixed.isInfix.trans hname
    clear hname hpublicId hid hmanifest hpath hversion hcontent hheaders
    revert field
    simp only [List.forall_mem_cons, List.not_mem_nil, false_implies, implies_true]
    decide
  · have environment (e : Environment) : ¬ preview.publicPreviewId <:+: js e.text :=
      h.not_infix_literal (by cases e <;> decide)
    simp only [List.mem_cons, List.not_mem_nil, or_false] at hfield
    obtain rfl | rfl | rfl | rfl | rfl | rfl | rfl | rfl | rfl := hfield
    · exact environment _ (Json.infix_str h.isWord hvalue)
    · exact hpublicId (Json.infix_str h.isWord hvalue)
    · exact hid (Json.infix_str h.isWord hvalue)
    · exact Json.not_infix_nat h.isWord _ hvalue
    · exact hmanifest (Json.infix_str h.isWord hvalue)
    · exact hpath (Json.infix_str h.isWord hvalue)
    · exact hversion (Json.infix_str h.isWord hvalue)
    · exact hcontent (Json.infix_str h.isWord hvalue)
    · exact hheaders (Json.infix_str h.isWord hvalue)

theorem not_infix_key (h : Distinguished s preview) (hs : Rows s) {id key : JsString}
    (hid : id ≠ preview.previewId) (hkey : KeyOf svc s id key) :
    ¬ preview.publicPreviewId <:+: key := by
  obtain ⟨other, build, entry, hother, hbuild, hentry, rfl⟩ := hkey
  have hne : other.previewId ≠ preview.previewId := by
    rw [hs.previews id other hother]
    exact hid
  exact h.not_infix_cacheKey
    (h.apart other (JsMap.mem_values.mpr ⟨id, hother⟩) hne build hbuild entry hentry)

end Distinguished

theorem Framed.of_eq {request : OperationRequest} {previewId : JsString}
    (hpreviews : s'.previews = s.previews) (hgrants : s'.grants = s.grants)
    (hsessions : s'.sessions = s.sessions) (hobjects : s'.objects = s.objects)
    (hcache : s'.cache = s.cache) : Framed svc s s' request previewId where
  previews id _ := by rw [hpreviews]
  grants id grant h _ := by rw [hgrants, h]
  sessions id session h _ := by rw [hsessions, h]
  objects key object h _ := by rw [hobjects, h]
  cache key cached h _ := by rw [hcache, h]

section Calls

variable {previewId : JsString}

theorem Publication.framed {request : PublicationRequest} (p : Publication svc s request)
    (hs : Rows s) (hconcerns : request.preview.previewId = previewId) :
    Framed svc s p.left (.publish request) previewId where
  previews id hid := by
    have hkeyed : p.preview.previewId = previewId :=
      (hs.previews _ _ p.previewRead).trans hconcerns
    rw [p.left_eq]
    apply JsMap.get_set_of_ne
    rw [hkeyed]
    exact hid
  grants id grant h _ := by
    rw [p.left_eq]
    exact h
  sessions id session h _ := by
    rw [p.left_eq]
    exact h
  objects key object h _ := p.get_objects h
  cache key cached h _ := by
    rw [p.left_eq]
    exact h

theorem Issuance.framed {request : GrantIssueRequest} (i : Issuance svc s request)
    (hfree : s.grants.get i.grant.grantId = none) :
    Framed svc s i.left (.issueGrant request) previewId where
  previews _ _ := rfl
  grants id grant h _ := by
    have hne : id ≠ i.grant.grantId := by
      rintro rfl
      rw [hfree] at h
      cases h
    exact (JsMap.get_set_of_ne hne).trans h
  sessions _ _ h _ := h
  objects _ _ h _ := h
  cache _ _ h _ := h

/-- The grant whose nonce is consumed is the presented one. -/
theorem Exchange.grant_eq {request : ExchangeRequest} (x : Exchange svc s request)
    (hs : Rows s) : x.grant = x.read.grant := by
  obtain ⟨id, hid⟩ := JsMap.mem_values.mp (List.mem_of_find?_eq_some x.reads.claimed)
  have hread : s.grants.get x.read.grant.grantId = some x.read.grant := by
    rw [hs.grants id _ hid]
    exact hid
  exact Option.some.inj (x.current.symm.trans hread)

theorem Exchange.framed {request : ExchangeRequest} (x : Exchange svc s request) (hs : Rows s)
    (hspares : svc.faults.exchangeUnknownAfterNonce = false → ∀ session,
      s.sessions.get x.session.sessionId = some session →
        session.previewId = x.grant.previewId)
    (hconcerns : Concerns svc s previewId (.exchange request)) :
    Framed svc s x.left (.exchange request) previewId where
  previews id _ := by
    rw [x.left_eq]
  grants id grant h hpresents := by
    have hne : id ≠ x.grant.grantId := by
      rintro rfl
      obtain rfl := Option.some.inj (h.symm.trans ((hs.grants _ _ x.current).symm ▸ x.current))
      apply hpresents
      rw [x.grant_eq hs]
      exact ⟨x.read.claims, x.reads.capability, x.reads.claimed⟩
    rw [x.left_eq]
    exact (JsMap.get_set_of_ne hne).trans h
  sessions id session h hother := by
    rw [x.left_eq]
    cases hfault : svc.faults.exchangeUnknownAfterNonce with
    | true => exact h
    | false =>
        have hne : id ≠ x.session.sessionId := by
          rintro rfl
          apply hother
          rw [hspares hfault session h, x.grant_eq hs]
          exact hconcerns _ _ x.reads.capability x.reads.claimed
        exact (JsMap.get_set_of_ne hne).trans h
  objects key object h _ := by
    rw [x.left_eq]
    exact h
  cache key cached h _ := by
    rw [x.left_eq]
    exact h

theorem Revocation.framed {request : RevocationRequest} (r : Revocation svc s request)
    (hs : Rows s) (hconcerns : request.previewId = previewId) :
    Framed svc s r.left (.revoke request) previewId where
  previews id hid := by
    have hne : id ≠ r.preview.previewId := by
      rw [hs.previews _ _ r.previewRead, hconcerns]
      exact hid
    exact JsMap.get_set_of_ne hne
  grants _ _ h _ := h
  sessions id session h hother := by
    have hne : session.previewId ≠ r.preview.previewId := by
      rw [hs.previews _ _ r.previewRead, hconcerns]
      exact hother
    rw [r.left_eq]
    unfold revokeSessions
    dsimp only
    rw [JsMap.get_mapValues, h, Option.map_some, if_neg hne]
  objects _ _ h _ := h
  cache _ _ h _ := h

theorem Removal.infix_of_purged {request : CleanupRequest} (r : Removal svc s request)
    {key : JsString} (h : key ∈ svc.purgedKeys s r.preview) :
    r.preview.publicPreviewId <:+: key := by
  have hmatch : key ∈ matchingKeys s.cache r.preview.publicPreviewId := mem_of_mem_deletedKeys h
  exact of_decide_eq_true (List.mem_filter.mp hmatch).2

theorem Removal.framed {request : CleanupRequest} (r : Removal svc s request) (hs : Rows s)
    (hspares : Distinguished s r.preview) (hconcerns : request.previewId = previewId) :
    Framed svc s r.left (.cleanup request) previewId where
  previews id hid := by
    have hne : id ≠ r.preview.previewId := by
      rw [hs.previews _ _ r.previewRead, hconcerns]
      exact hid
    rw [r.left_eq]
    dsimp only
    rw [JsMap.get_set_of_ne hne, JsMap.get_set_of_ne hne]
  grants id grant h _ := by
    rw [r.left_eq]
    exact h
  sessions id session h _ := by
    rw [r.left_eq]
    exact h
  objects key object h hother := by
    apply r.get_objects h
    rw [hs.previews _ _ r.previewRead, hconcerns]
    exact hother
  cache key cached h hother := by
    obtain ⟨id, hid, hkey⟩ := hother
    have hne : id ≠ r.preview.previewId := by
      rw [hs.previews _ _ r.previewRead, hconcerns]
      exact hid
    refine (r.get_cache fun hpurged => ?_).trans h
    exact hspares.not_infix_key hs hne hkey (r.infix_of_purged hpurged)

/-- A call that spares the others leaves them as they were. -/
theorem Ran.framed (hs : Rows s) {request : OperationRequest} {receipt : ProofReceipt}
    (h : Ran svc s request receipt s') (hspares : Spares svc s request)
    (hconcerns : Concerns svc s previewId request) : Framed svc s s' request previewId := by
  cases h with
  | settled _ h =>
      rw [h.left_eq]
      exact .of_eq rfl rfl rfl rfl rfl
  | published p => exact p.framed hs hconcerns
  | issued i => exact i.framed (hspares i)
  | exchanged x => exact x.framed hs (hspares x) hconcerns
  | accessed _ => exact hconcerns.elim
  | revoked r => exact r.framed hs hconcerns
  | removed r => exact r.framed hs (hspares _ r.previewRead) hconcerns
  | reconciled r => exact .of_eq rfl rfl rfl rfl rfl

end Calls

/-- Whatever has happened before, a request that spares the other previews leaves every row of
theirs, and every grant that it does not present, as it was. -/
theorem framed_after {s₀ : PreviewProofState} (hs₀ : Initial s₀) (acts : List Happening)
    {request : OperationRequest} {previewId : JsString}
    (hconcerns : Concerns svc (Transition.run (serviceStep svc) s₀ acts) previewId request)
    (hspares : Spares svc (Transition.run (serviceStep svc) s₀ acts) request) :
    Framed svc (Transition.run (serviceStep svc) s₀ acts)
      (serviceStep svc (Transition.run (serviceStep svc) s₀ acts) (.request request)) request
      previewId := by
  have hs : Rows (Transition.run (serviceStep svc) s₀ acts) := rows_after hs₀ acts
  obtain hsame | ⟨_, receipt, hrequest, hrun⟩ | ⟨_, henvirons, -⟩ :=
    serviceStep_cases svc (Transition.run (serviceStep svc) s₀ acts) (.request request)
  · rw [hsame]
    exact .of_eq rfl rfl rfl rfl rfl
  · obtain rfl := Happening.request.inj hrequest
    exact (perform_cases hrun).framed hs hspares hconcerns
  · cases henvirons

/-! ## Whose a cached body is -/

theorem Restated.cacheKey_eq {p q : PreviewAuthority} (h : Restated p q) (entry : ManifestEntry) :
    svc.cacheKey q entry = svc.cacheKey p entry := by
  rw [h]
  rfl

theorem KeyOf.ran (hs : Rows s) {request : OperationRequest} {receipt : ProofReceipt}
    (h : Ran svc s request receipt s') {id key : JsString} (hkey : KeyOf svc s id key) :
    KeyOf svc s' id key := by
  obtain ⟨p, build, entry, hp, hbuild, hentry, rfl⟩ := hkey
  obtain ⟨q, hq, hrestated⟩ := h.get_preview hs hp
  refine ⟨q, build, entry, hq, ?_, hentry, (hrestated.cacheKey_eq entry).symm⟩
  rw [h.builds, hrestated]
  exact hbuild

def Owned (svc : PreviewProofService) (s : PreviewProofState) : Prop :=
  ∀ key cached, s.cache.get key = some cached → ∃ id, KeyOf svc s id key

theorem Owned.ran (h : Owned svc s) (hs : Rows s) {request : OperationRequest}
    {receipt : ProofReceipt} (hran : Ran svc s request receipt s') : Owned svc s' := by
  intro key cached hcached
  have kept (hbefore : s.cache.get key = some cached) : ∃ id, KeyOf svc s' id key := by
    obtain ⟨id, hkey⟩ := h key cached hbefore
    exact ⟨id, hkey.ran hs hran⟩
  have hran' := hran
  cases hran with
  | settled _ hsettled =>
      rw [hsettled.left_eq] at hcached
      exact kept hcached
  | published p =>
      rw [p.left_eq] at hcached
      exact kept hcached
  | issued i => exact kept hcached
  | exchanged x =>
      rw [x.left_eq] at hcached
      exact kept hcached
  | accessed haccessed =>
      cases haccessed with
      | denied _ => exact kept hcached
      | quarantined _ _ _ => exact kept hcached
      | cached _ _ _ => exact kept hcached
      | stored v _ _ =>
          unfold cacheBody at hcached
          dsimp only at hcached
          rw [JsMap.get_set] at hcached
          split at hcached
          · next hkey =>
              refine ⟨v.session.previewId, KeyOf.ran hs hran' ?_⟩
              exact ⟨v.preview, v.build, v.entry, v.previewRead, v.buildRead,
                List.mem_of_find?_eq_some v.listed, hkey⟩
          · exact kept hcached
  | revoked r => exact kept hcached
  | removed r =>
      rw [r.left_eq] at hcached
      exact kept (get_of_get_foldl_delete hcached)
  | reconciled r => exact kept hcached

theorem owned_after {s₀ : PreviewProofState} (hs₀ : Initial s₀) (acts : List Happening) :
    Owned svc (Transition.run (serviceStep svc) s₀ acts) := by
  have hinitial : Owned svc s₀ := by
    intro key cached hcached
    rw [hs₀.cache] at hcached
    cases hcached
  refine (Transition.run_invariant (P := fun s => Rows s ∧ Owned svc s) ?_
    ⟨hs₀.rows, hinitial⟩ acts).2
  apply serviceStep_keeps
  · exact fun s s' request receipt hs hran => ⟨hs.1.ran hran, hs.2.ran hs.1 hran⟩
  · intro s e hs
    refine ⟨hs.1.environs e, ?_⟩
    rw [environs_eq]
    exact hs.2

/-! ## A cleanup -/

theorem Removal.complete_of_faults {request : CleanupRequest} (r : Removal svc s request)
    (hwhole : svc.faults.cleanupPartial = false) (hknown : svc.faults.cleanupUnknown = false) :
    r.complete = true := by
  have hdeletes (keys : List JsString) : svc.deletedKeys keys = keys := by
    unfold deletedKeys
    rw [hwhole]
    rfl
  have hobjects : ownedKeys r.emptied.objects r.preview.previewId = [] := by
    refine List.eq_nil_iff_forall_not_mem.mpr fun key hkey => ?_
    obtain ⟨object, hobject, hid⟩ := mem_ownedKeys.mp hkey
    have hkept : key ∉ svc.deletedObjectKeys s r.preview := notMem_of_get_foldl_delete hobject
    rw [deletedObjectKeys, hdeletes] at hkept
    exact hkept (mem_ownedKeys.mpr ⟨object, get_of_get_foldl_delete hobject, hid⟩)
  have hcache : matchingKeys r.emptied.cache r.preview.publicPreviewId = [] := by
    refine List.eq_nil_iff_forall_not_mem.mpr fun key hkey => ?_
    unfold matchingKeys at hkey
    rw [List.mem_filter] at hkey
    obtain ⟨cached, hcached⟩ := JsMap.mem_keys.mp hkey.1
    have hkept : key ∉ svc.purgedKeys s r.preview := notMem_of_get_foldl_delete hcached
    rw [purgedKeys, hdeletes] at hkept
    exact hkept (List.mem_filter.mpr
      ⟨JsMap.mem_keys.mpr ⟨cached, get_of_get_foldl_delete hcached⟩, hkey.2⟩)
  unfold complete cleanupComplete
  rw [hwhole, hknown, hobjects, hcache]
  rfl

section Cleanup

variable {sha256 : JsString → Digest}

theorem not_infix_digest (hplain : ∀ text, 0x5F ∉ sha256 text) (value : Json) :
    ¬ js "pp_1" <:+: (samplePlatform sha256).canonicalDigest value := by
  intro hin
  have hunderscore : (0x5F : UInt16) ∈ js "pp_1" := by decide
  have hprefix : (0x5F : UInt16) ∉ js "sha256:" := by decide
  obtain hlabel | hdigest := List.mem_append.mp (hin.subset hunderscore)
  · exact hprefix hlabel
  · exact hplain _ hdigest

/-- Where no digest has an underscore, the first preview of the sample is told from the other. -/
theorem distinguished_sample (hplain : ∀ text, 0x5F ∉ sha256 text) :
    Distinguished (uncleanState sha256) (withdrawnPreview sha256 (samplePreview sha256)) := by
  have hprefixed : js "pp_" <+: js "pp_1" := by decide
  have hunits : ((js "pp_1").all fun u => u ∉ JsString.structural) = true := by decide
  refine ⟨hprefixed, List.all_iff_forall_prop.mp hunits, ?_⟩
  intro other hother hne build hbuild entry hentry
  change other ∈ [withdrawnPreview sha256 (samplePreview sha256),
    (sampleService sha256).availablePreview (otherPreview sha256)] at hother
  simp only [List.mem_cons, List.not_mem_nil, or_false] at hother
  obtain rfl | rfl := hother
  · exact absurd rfl hne
  obtain rfl := Option.some.inj ((servable_uncleanState sha256).buildRead.symm.trans hbuild)
  obtain rfl := List.mem_singleton.mp hentry
  have hpublicId : ¬ js "pp_1" <:+: js "pp_2" := by decide
  have hid : ¬ js "pp_1" <:+: js "other" := by decide
  have hpath : ¬ js "pp_1" <:+: js "a" := by decide
  have hversion : ¬ js "pp_1" <:+: ([] : JsString) := by decide
  have hcontent : ¬ js "pp_1" <:+: js "sha256:" ++ [0x41] := by decide
  refine List.forall_mem_cons.mpr ⟨hpublicId, List.forall_mem_cons.mpr ⟨hid,
    List.forall_mem_cons.mpr ⟨not_infix_digest hplain _, List.forall_mem_cons.mpr ⟨hpath,
      List.forall_mem_cons.mpr ⟨hversion, List.forall_mem_cons.mpr ⟨hcontent,
        List.forall_mem_singleton.mpr (not_infix_digest hplain _)⟩⟩⟩⟩⟩⟩

theorem underscore_notMem_foldDigest (text : JsString) : 0x5F ∉ Runtime.foldDigest text := by
  intro h
  obtain ⟨i, -, hunit⟩ := List.mem_map.mp h
  have hdigit : ∀ d < 16, JsString.hexUnit d ≠ 0x5F := by decide
  exact hdigit _ (Nat.mod_lt _ (by decide)) hunit

def cleaningService : PreviewProofService := sampleService Runtime.foldDigest

def sampleCleanup : CleanupRequest :=
  cleanupOf Runtime.foldDigest (samplePreview Runtime.foldDigest)

def sampleRemoval : Removal cleaningService (uncleanState Runtime.foldDigest) sampleCleanup :=
  (removable_sample Runtime.foldDigest).removal

theorem complete_sampleRemoval : sampleRemoval.complete = true :=
  sampleRemoval.complete_of_faults rfl rfl

theorem outcome_sampleRemoval : sampleRemoval.receipt.outcome = .succeeded := by
  unfold Removal.receipt
  rw [complete_sampleRemoval]
  rfl

theorem serviceStep_sampleCleanup :
    serviceStep cleaningService
        (Transition.run (serviceStep cleaningService) (sampleState Runtime.foldDigest)
          (sampleHistory Runtime.foldDigest)) (.request (.cleanup sampleCleanup)) =
      sampleRemoval.left := by
  have hrun : Transition.run (serviceStep cleaningService) (sampleState Runtime.foldDigest)
      (sampleHistory Runtime.foldDigest) = uncleanState Runtime.foldDigest :=
    run_sampleHistory Runtime.foldDigest
  rw [hrun]
  exact serviceStep_of_run sampleRemoval.performs

end Cleanup

/-- The cleanup succeeds. The other preview is available at that point, and a body of it is
cached. -/
theorem framed_demo :
    completes (cleaningService.perform (.cleanup sampleCleanup))
        (uncleanState Runtime.foldDigest) = (.ok sampleRemoval.receipt, sampleRemoval.left) ∧
      sampleRemoval.receipt.outcome = .succeeded ∧
      ((uncleanState Runtime.foldDigest).cache.get
        (fileKey Runtime.foldDigest (otherPreview Runtime.foldDigest))).isSome = true ∧
      Framed cleaningService (uncleanState Runtime.foldDigest) sampleRemoval.left
        (.cleanup sampleCleanup) (js "preview") := by
  have hrun : Transition.run (serviceStep cleaningService) (sampleState Runtime.foldDigest)
      (sampleHistory Runtime.foldDigest) = uncleanState Runtime.foldDigest :=
    run_sampleHistory Runtime.foldDigest
  have hspares : Spares cleaningService (Transition.run (serviceStep cleaningService)
      (sampleState Runtime.foldDigest) (sampleHistory Runtime.foldDigest))
      (.cleanup sampleCleanup) := by
    rw [hrun]
    intro preview hpreview
    obtain rfl := Option.some.inj ((removable_sample Runtime.foldDigest).previewRead.symm.trans
      hpreview)
    exact distinguished_sample underscore_notMem_foldDigest
  have hconcerns : Concerns cleaningService (Transition.run (serviceStep cleaningService)
      (sampleState Runtime.foldDigest) (sampleHistory Runtime.foldDigest)) (js "preview")
      (.cleanup sampleCleanup) := rfl
  have hframed := framed_after (initial_sampleState Runtime.foldDigest)
    (sampleHistory Runtime.foldDigest) hconcerns hspares
  rw [serviceStep_sampleCleanup, hrun] at hframed
  refine ⟨sampleRemoval.performs, outcome_sampleRemoval, ?_, hframed⟩
  rw [cached_uncleanState]
  rfl

end PreviewProof

end Aico
