import Aico.Attachments.Base64
import Aico.Objects.ObjectAccess

/-!
# Records and bytes

A `READY` record agrees with the store where the bytes under its key have its
digest and its length (`Agreement`). The record of an upload is committed after
its bytes are stored and keeps the agreement. The record of `put` is `READY` before
its bytes are stored, the bytes of `delete` are gone before its record is marked,
and a crash takes the bytes of all records with it: these are the steps after
which a `READY` record has no bytes, for a moment or, where the call is lost there,
for good. They are the only ones (`agreement_iff`).
-/

namespace Aico

namespace ObjectSys

variable {platform : ObjectPlatform} {s : ObjectSys platform}

/-- The bytes under the key of the record are those the record describes. -/
def Stored (parts : ValidatorParts) (store : MemoryObjectStore) (r : ObjectRecordRow) : Prop :=
  ∃ body, MemoryObjectStore.get r.objectKey store = some body ∧
    parts.sha256 body = r.checksumSha256 ∧ body.length = r.sizeBytes

/-- Every `READY` record has its bytes. -/
def Agreement (s : ObjectSys platform) : Prop :=
  ∀ r ∈ s.objectRecords, r.lifecycleState = .ready → Stored platform.parts s.store r

/-- The action does not insert a record before its bytes are stored, nor remove the
bytes of a `READY` record. -/
def Keeps (s : ObjectSys platform) : ObjectAction → Prop
  | .next k =>
      match s.calls k with
      | .putting companyId body =>
          s.insertable (ObjectAccess.fixtureRow platform.parts companyId s.nextId body) = false
      | .loaded _ row =>
          ∀ r ∈ s.objectRecords, r.lifecycleState = .ready → r.objectKey ≠ row.objectKey
      | _ => True
  | .crash => ∀ r ∈ s.objectRecords, r.lifecycleState ≠ .ready
  | _ => True

instance Keeps.decidable (s : ObjectSys platform) : ∀ act, Decidable (s.Keeps act)
  | .next k =>
      match hplace : s.calls k with
      | .putting companyId body => decidable_of_iff
          (s.insertable (ObjectAccess.fixtureRow platform.parts companyId s.nextId body) = false)
          (by rw [Keeps, hplace])
      | .loaded _ row => decidable_of_iff
          (∀ r ∈ s.objectRecords, r.lifecycleState = .ready → r.objectKey ≠ row.objectKey)
          (by rw [Keeps, hplace])
      | .idle | .inserted .. | .deleting .. | .removed .. | .ingesting .. | .reserved ..
      | .recorded .. | .stored .. | .appended .. => isTrue (by rw [Keeps, hplace]; trivial)
  | .crash => inferInstanceAs (Decidable (∀ r ∈ s.objectRecords, r.lifecycleState ≠ .ready))
  | .put .. | .delete .. | .ingest .. | .lost _ => isTrue trivial

/-! ## The invariant -/

def IsKeyed (r : ObjectRecordRow) : Prop :=
  r.objectKey = buildObjectKey r.companyId r.purpose r.id r.version

theorem id_eq_of_objectKey_eq {r r' : ObjectRecordRow} (hr : IsKeyed r) (hr' : IsKeyed r')
    (h : r.objectKey = r'.objectKey) : r.id = r'.id := by
  rw [hr, hr'] at h
  exact objectId_eq_of_buildObjectKey_eq h

theorem isKeyed_row (call : IngestCall platform) (objectId : Uuid) :
    IsKeyed (call.row objectId) := rfl

/-- The identifier of an upload that is not committed yet. -/
def pending : ObjectPlace platform → Option Uuid
  | .recorded _ _ objectId | .stored _ _ objectId | .appended _ _ objectId => some objectId
  | _ => none

def uploaded : ObjectPlace platform → Option ObjectRecordRow
  | .stored call _ objectId | .appended call _ objectId => some (call.row objectId)
  | _ => none

def loaded : ObjectPlace platform → Option ObjectRecordRow
  | .loaded _ row => some row
  | _ => none

/-- Whether a `put` has inserted its record and not stored its bytes. -/
def isInserted : ObjectPlace platform → Bool
  | .inserted _ _ => true
  | _ => false

/-- What holds while every step keeps the agreement. -/
structure Inv (s : ObjectSys platform) : Prop where
  agreement : s.Agreement
  keyed : ∀ r ∈ s.objectRecords, IsKeyed r ∧ r.id < s.nextId
  fresh : ∀ companyId purpose objectId version, s.nextId ≤ objectId →
    MemoryObjectStore.get (buildObjectKey companyId purpose objectId version) s.store = none
  loaded : ∀ k row, loaded (s.calls k) = some row →
    IsKeyed row ∧ row.id ∈ s.objectRecords.map ObjectRecordRow.id
  pending : ∀ k objectId, pending (s.calls k) = some objectId →
    objectId < s.nextId ∧ objectId ∉ s.objectRecords.map ObjectRecordRow.id
  distinct : ∀ i j objectId, ObjectSys.pending (s.calls i) = some objectId →
    ObjectSys.pending (s.calls j) = some objectId → i = j
  uploaded : ∀ k row, uploaded (s.calls k) = some row → Stored platform.parts s.store row
  inserted : ∀ k, isInserted (s.calls k) = false

theorem pending_of_uploaded {p : ObjectPlace platform} {row : ObjectRecordRow}
    (h : uploaded p = some row) : pending p = some row.id ∧ IsKeyed row := by
  cases p with
  | stored call recordId objectId | appended call recordId objectId =>
      obtain rfl := Option.some.inj h
      exact ⟨rfl, rfl⟩
  | _ => cases h

namespace Inv

variable {k : ℕ} {p : ObjectPlace platform} {nextId : Uuid}
  {keyLocks : Uuid × Uuid → Option ℕ}

/-- A call moves to a place where it has drawn and read what the invariant asks
for. -/
theorem moved (h : Inv s) (hid : s.nextId ≤ nextId)
    (hloaded : ∀ row, ObjectSys.loaded p = some row →
      IsKeyed row ∧ row.id ∈ s.objectRecords.map ObjectRecordRow.id)
    (hpending : ∀ objectId, ObjectSys.pending p = some objectId →
      ObjectSys.pending (s.calls k) = some objectId ∨ s.nextId ≤ objectId ∧ objectId < nextId)
    (huploaded : ∀ row, ObjectSys.uploaded p = some row → Stored platform.parts s.store row)
    (hinserted : isInserted p = false) :
    Inv { s with nextId := nextId, keyLocks := keyLocks, calls := Function.update s.calls k p } where
  agreement := h.agreement
  keyed r hr := ⟨(h.keyed r hr).1, Nat.lt_of_lt_of_le (h.keyed r hr).2 hid⟩
  fresh companyId purpose objectId version hle :=
    h.fresh companyId purpose objectId version (Nat.le_trans hid hle)
  loaded j row hrow := by
    by_cases hj : j = k
    · subst hj
      exact hloaded row (by simpa using hrow)
    · exact h.loaded j row (by simpa [hj] using hrow)
  pending j objectId hobject := by
    by_cases hj : j = k
    · subst hj
      rcases hpending objectId (by simpa using hobject) with hold | ⟨hle, hlt⟩
      · obtain ⟨hlt, hnot⟩ := h.pending j objectId hold
        exact ⟨Nat.lt_of_lt_of_le hlt hid, hnot⟩
      · refine ⟨hlt, fun hmem => ?_⟩
        obtain ⟨r, hr, rfl⟩ := List.mem_map.mp hmem
        exact absurd (h.keyed r hr).2 (Nat.not_lt.mpr hle)
    · obtain ⟨hlt, hnot⟩ := h.pending j objectId (by simpa [hj] using hobject)
      exact ⟨Nat.lt_of_lt_of_le hlt hid, hnot⟩
  distinct := by
    have hself : ∀ j objectId, j ≠ k → ObjectSys.pending p = some objectId →
        ObjectSys.pending (s.calls j) ≠ some objectId := by
      intro j objectId hj hp hother
      rcases hpending objectId hp with hold | ⟨hle, -⟩
      · exact hj (h.distinct j k objectId hother hold)
      · exact absurd (h.pending j objectId hother).1 (Nat.not_lt.mpr hle)
    intro i j objectId hi hj
    by_cases hik : i = k <;> by_cases hjk : j = k
    · rw [hik, hjk]
    · subst hik
      exact absurd (by simpa [hjk] using hj) (hself j objectId hjk (by simpa using hi))
    · subst hjk
      exact absurd (by simpa [hik] using hi) (hself i objectId hik (by simpa using hj))
    · exact h.distinct i j objectId (by simpa [hik] using hi) (by simpa [hjk] using hj)
  uploaded j row hrow := by
    by_cases hj : j = k
    · subst hj
      exact huploaded row (by simpa using hrow)
    · exact h.uploaded j row (by simpa [hj] using hrow)
  inserted j := by
    by_cases hj : j = k
    · subst hj
      simpa using hinserted
    · simpa [hj] using h.inserted j

/-- A call moves to a place where it has nothing in hand. -/
theorem moved_plain (h : Inv s) (hid : s.nextId ≤ nextId) (hloaded : ObjectSys.loaded p = none)
    (hpending : ObjectSys.pending p = none) (huploaded : ObjectSys.uploaded p = none)
    (hinserted : isInserted p = false) :
    Inv { s with nextId := nextId, keyLocks := keyLocks, calls := Function.update s.calls k p } :=
  h.moved hid (fun row hrow => by rw [hloaded] at hrow; cases hrow)
    (fun objectId hobject => by rw [hpending] at hobject; cases hobject)
    (fun row hrow => by rw [huploaded] at hrow; cases hrow) hinserted

theorem ended (h : Inv s) (hid : s.nextId ≤ nextId) :
    Inv { s.ended k with nextId := nextId } :=
  h.moved_plain hid rfl rfl rfl rfl

theorem stored {store : MemoryObjectStore} {key : JsString} (h : Inv s)
    (hframe : ∀ key', key' ≠ key →
      MemoryObjectStore.get key' store = MemoryObjectStore.get key' s.store)
    (hready : ∀ r ∈ s.objectRecords, r.lifecycleState = .ready → r.objectKey ≠ key)
    (hupload : ∀ j row, ObjectSys.uploaded (s.calls j) = some row → row.objectKey ≠ key)
    (hfresh : ∀ companyId purpose objectId version, s.nextId ≤ objectId →
      buildObjectKey companyId purpose objectId version ≠ key) :
    Inv { s with store := store } := by
  have hkeep : ∀ r : ObjectRecordRow, r.objectKey ≠ key → Stored platform.parts s.store r →
      Stored platform.parts store r := by
    rintro r hr ⟨body, hbody, hsum⟩
    exact ⟨body, by rw [hframe _ hr, hbody], hsum⟩
  exact
    { agreement := fun r hr hstate => hkeep r (hready r hr hstate) (h.agreement r hr hstate)
      keyed := h.keyed
      fresh := fun companyId purpose objectId version hle => by
        rw [hframe _ (hfresh companyId purpose objectId version hle)]
        exact h.fresh companyId purpose objectId version hle
      loaded := h.loaded
      pending := h.pending
      distinct := h.distinct
      uploaded := fun j row hrow => hkeep row (hupload j row hrow) (h.uploaded j row hrow)
      inserted := h.inserted }

/-- A keyed record with a drawn identifier has no key of an identifier that is not
drawn yet. -/
theorem fresh_key {row : ObjectRecordRow} (hkeyed : IsKeyed row) (hid : row.id < s.nextId)
    (companyId : Uuid) (purpose : ObjectPurpose) (objectId : Uuid) (version : ℕ)
    (hle : s.nextId ≤ objectId) :
    buildObjectKey companyId purpose objectId version ≠ row.objectKey := by
  intro heq
  rw [hkeyed] at heq
  have hobject := objectId_eq_of_buildObjectKey_eq heq
  exact absurd hid (Nat.not_lt.mpr (hobject ▸ hle))

theorem upload (h : Inv s) {call : IngestCall platform} {recordId objectId : Uuid}
    (hplace : s.calls k = .recorded call recordId objectId) :
    Inv { s.moved k (.stored call recordId objectId) with
      store := MemoryObjectStore.put (call.row objectId).objectKey call.body s.store } := by
  have hk : ObjectSys.pending (s.calls k) = some objectId := by rw [hplace]; rfl
  obtain ⟨hid, hnot⟩ := h.pending k objectId hk
  have hbytes : Inv { s with
      store := MemoryObjectStore.put (call.row objectId).objectKey call.body s.store } := by
    refine h.stored (fun key' hne => MemoryObjectStore.get_put_of_ne hne) ?_ ?_
      (fresh_key (isKeyed_row call objectId) hid)
    · intro r hr _ hkey
      have heq : r.id = objectId := id_eq_of_objectKey_eq (h.keyed r hr).1 (isKeyed_row _ _) hkey
      exact hnot (heq ▸ List.mem_map_of_mem hr)
    · intro j row hrow hkey
      obtain ⟨hpending, hkeyed⟩ := pending_of_uploaded hrow
      have heq : row.id = objectId := id_eq_of_objectKey_eq hkeyed (isKeyed_row _ _) hkey
      have hj : j = k := h.distinct j k objectId (heq ▸ hpending) hk
      rw [hj, hplace] at hrow
      cases hrow
  refine hbytes.moved le_rfl (fun row hrow => by cases hrow) ?_ ?_ rfl
  · intro objectId' hobject
    obtain rfl := Option.some.inj hobject
    exact .inl hk
  · intro row hrow
    obtain rfl := Option.some.inj hrow
    obtain ⟨hsum, hsize⟩ := AttachmentValidator.measured call.valid
    exact ⟨call.body, MemoryObjectStore.get_put_self, hsum.symm, hsize.symm⟩

theorem delete (h : Inv s) {companyId : Uuid} {row : ObjectRecordRow}
    (hplace : s.calls k = .loaded companyId row)
    (hready : ∀ r ∈ s.objectRecords, r.lifecycleState = .ready → r.objectKey ≠ row.objectKey) :
    Inv { s.moved k (.removed companyId row) with
      store := MemoryObjectStore.delete row.objectKey s.store } := by
  obtain ⟨hkeyed, hmem⟩ := h.loaded k row (by rw [hplace]; rfl)
  obtain ⟨r, hr, hrow⟩ := List.mem_map.mp hmem
  have hid : row.id < s.nextId := hrow ▸ (h.keyed r hr).2
  have hbytes : Inv { s with store := MemoryObjectStore.delete row.objectKey s.store } := by
    refine h.stored (fun key' hne => MemoryObjectStore.get_delete_of_ne hne) hready ?_
      (fresh_key hkeyed hid)
    intro j row' hrow' hkey
    obtain ⟨hpending, hkeyed'⟩ := pending_of_uploaded hrow'
    have heq := id_eq_of_objectKey_eq hkeyed' hkeyed hkey
    exact (h.pending j row'.id hpending).2 (heq ▸ hmem)
  exact hbytes.moved_plain le_rfl rfl rfl rfl rfl

theorem markDeleted (h : Inv s) (companyId objectId : Uuid) :
    Inv { s.ended k with
      objectRecords := ObjectAccess.markDeleted companyId objectId s.objectRecords } := by
  have hids : (ObjectAccess.markDeleted companyId objectId s.objectRecords).map
      ObjectRecordRow.id = s.objectRecords.map ObjectRecordRow.id :=
    Table.map_updateWhere (fun _ => by rfl) _
  have hended : Inv (s.ended k) := h.ended le_rfl
  refine
    { agreement := ?_
      keyed := ?_
      fresh := hended.fresh
      loaded := fun j row hrow => ?_
      pending := fun j objectId' hobject => ?_
      distinct := hended.distinct
      uploaded := hended.uploaded
      inserted := hended.inserted }
  · refine Table.forall_mem_updateWhere.mpr fun r hr => ?_
    by_cases hp : ObjectAccess.isOwnReady companyId objectId r
    · rw [if_pos hp]
      exact nofun
    · rw [if_neg hp]
      exact h.agreement r hr
  · refine Table.forall_mem_updateWhere.mpr fun r hr => ?_
    by_cases hp : ObjectAccess.isOwnReady companyId objectId r
    · rw [if_pos hp]
      exact h.keyed r hr
    · rw [if_neg hp]
      exact h.keyed r hr
  · rw [hids]
    exact hended.loaded j row hrow
  · rw [hids]
    exact hended.pending j objectId' hobject

theorem commit (h : Inv s) {call : IngestCall platform} {recordId objectId : Uuid}
    (hplace : s.calls k = .appended call recordId objectId) :
    Inv (s.commitIngest k call recordId objectId) := by
  have hk : ObjectSys.pending (s.calls k) = some objectId := by rw [hplace]; rfl
  have hstored : Stored platform.parts s.store (call.row objectId) :=
    h.uploaded k _ (by rw [hplace]; rfl)
  have hended : Inv (s.ended k) := h.ended le_rfl
  have hmap : (s.objectRecords ++ [call.row objectId]).map ObjectRecordRow.id =
      s.objectRecords.map ObjectRecordRow.id ++ [objectId] := List.map_append
  refine
    { agreement := ?_
      keyed := ?_
      fresh := hended.fresh
      loaded := fun j row hrow => ?_
      pending := fun j objectId' hobject => ?_
      distinct := hended.distinct
      uploaded := hended.uploaded
      inserted := hended.inserted }
  · intro r hr hstate
    rcases List.mem_append.mp hr with hr | hr
    · exact h.agreement r hr hstate
    · obtain rfl := List.mem_singleton.mp hr
      exact hstored
  · intro r hr
    rcases List.mem_append.mp hr with hr | hr
    · exact h.keyed r hr
    · obtain rfl := List.mem_singleton.mp hr
      exact ⟨isKeyed_row _ _, (h.pending k objectId hk).1⟩
  · obtain ⟨hkeyed, hmem⟩ := hended.loaded j row hrow
    refine ⟨hkeyed, ?_⟩
    rw [ObjectSys.commitIngest, hmap]
    exact List.mem_append_left _ hmem
  · obtain ⟨hlt, hnot⟩ := hended.pending j objectId' hobject
    refine ⟨hlt, fun hmem => ?_⟩
    rw [ObjectSys.commitIngest, hmap] at hmem
    rcases List.mem_append.mp hmem with hmem | hmem
    · exact hnot hmem
    · obtain rfl := List.mem_singleton.mp hmem
      have hplaces : ObjectSys.pending ((s.ended k).calls j) = some objectId' := hobject
      have hjk : j ≠ k := by
        rintro rfl
        simp [ObjectSys.ended, ObjectSys.pending] at hplaces
      exact hjk (h.distinct j k objectId' (by simpa [ObjectSys.ended, hjk] using hplaces) hk)

/-- Every object is gone. -/
theorem crash (h : Inv s) (hready : ∀ r ∈ s.objectRecords, r.lifecycleState ≠ .ready) :
    Inv (s.step .crash) where
  agreement r hr hstate := absurd hstate (hready r hr)
  keyed := h.keyed
  fresh _ _ _ _ _ := rfl
  loaded _ _ hrow := by cases hrow
  pending _ _ hobject := by cases hobject
  distinct _ _ _ hobject := by cases hobject
  uploaded _ _ hrow := by cases hrow
  inserted _ := rfl

/-- The next statement of a call. -/
theorem next (h : Inv s) (hkeeps : s.Keeps (.next k)) : Inv (s.next k) := by
  cases hplace : s.calls k with
  | idle => rwa [ObjectSys.next, hplace]
  | putting companyId body =>
      rw [Keeps, hplace] at hkeeps
      simp only [ObjectSys.next, hplace, hkeeps, Bool.false_eq_true, if_false]
      exact h.ended (Nat.le_succ _)
  | inserted row body =>
      have hfalse := h.inserted k
      rw [hplace] at hfalse
      cases hfalse
  | deleting companyId objectId =>
      rw [ObjectSys.next, hplace]
      cases hfind : s.objectRecords.find? (ObjectAccess.isOwnReady companyId objectId) with
      | none =>
          simp only [hfind]
          exact h.ended le_rfl
      | some row =>
          simp only [hfind]
          have hrow : row ∈ s.objectRecords := List.mem_of_find?_eq_some hfind
          refine h.moved le_rfl ?_ (fun _ hobject => by cases hobject)
            (fun _ hrow' => by cases hrow') rfl
          intro row' hrow'
          obtain rfl := Option.some.inj hrow'
          exact ⟨(h.keyed row hrow).1, List.mem_map_of_mem hrow⟩
  | loaded companyId row =>
      rw [Keeps, hplace] at hkeeps
      rw [ObjectSys.next, hplace]
      exact h.delete hplace hkeeps
  | removed companyId row =>
      rw [ObjectSys.next, hplace]
      exact h.markDeleted companyId row.id
  | ingesting call =>
      simp only [ObjectSys.next, hplace, reserve]
      split
      · split
        · split
          · exact h.moved_plain (Nat.le_succ _) rfl rfl rfl rfl
          · exact h.ended le_rfl
        · split
          · exact h.moved_plain (Nat.le_succ _) rfl rfl rfl rfl
          · exact h.ended le_rfl
      · exact h
  | reserved call recordId =>
      by_cases hinsert : s.insertable (call.row s.nextId)
      · simp only [ObjectSys.next, hplace, hinsert, if_true]
        refine h.moved (Nat.le_succ _) (fun _ hrow => by cases hrow) ?_
          (fun _ hrow => by cases hrow) rfl
        intro objectId hobject
        obtain rfl := Option.some.inj hobject
        exact .inr ⟨le_rfl, Nat.lt_succ_self _⟩
      · simp only [ObjectSys.next, hplace, hinsert, Bool.false_eq_true, if_false]
        exact h.ended (Nat.le_succ _)
  | recorded call recordId objectId =>
      rw [ObjectSys.next, hplace]
      exact h.upload hplace
  | stored call recordId objectId =>
      rw [ObjectSys.next, hplace]
      have hk : ObjectSys.pending (s.calls k) = some objectId := by rw [hplace]; rfl
      refine h.moved (Nat.le_add_right _ 2) (fun _ hrow => by cases hrow) ?_ ?_ rfl
      · intro objectId' hobject
        obtain rfl := Option.some.inj hobject
        exact .inl hk
      · intro row hrow
        exact h.uploaded k row (by rw [hplace]; exact hrow)
  | appended call recordId objectId =>
      rw [ObjectSys.next, hplace]
      exact h.commit hplace

theorem call (h : Inv s) (hloaded : ObjectSys.loaded p = none)
    (hpending : ObjectSys.pending p = none) (huploaded : ObjectSys.uploaded p = none)
    (hinserted : isInserted p = false) : Inv (s.call k p) := by
  unfold ObjectSys.call
  split
  · exact h.moved_plain le_rfl hloaded hpending huploaded hinserted
  · exact h

theorem step (h : Inv s) (act : ObjectAction) (hkeeps : s.Keeps act) : Inv (s.step act) := by
  cases act with
  | put k companyId body => exact h.call rfl rfl rfl rfl
  | delete k companyId objectId => exact h.call rfl rfl rfl rfl
  | ingest k actor idempotencyKey correlationId dto =>
      rw [ObjectSys.step, ingest]
      split
      · split
        · exact h.call rfl rfl rfl rfl
        · exact h
      · exact h
  | next k => exact h.next hkeeps
  | lost k => exact h.ended le_rfl
  | crash => exact h.crash hkeeps

/-- After another step some `READY` record has no bytes. -/
theorem keeps_of_agreement (h : Inv s) (act : ObjectAction) (hgood : (s.step act).Agreement) :
    s.Keeps act := by
  have hmissing : ∀ {r : ObjectRecordRow} {store : MemoryObjectStore},
      MemoryObjectStore.get r.objectKey store = none → ¬ Stored platform.parts store r := by
    rintro r store hnone ⟨body, hbody, -⟩
    rw [hnone] at hbody
    cases hbody
  cases act with
  | put k companyId body => trivial
  | delete k companyId objectId => trivial
  | ingest k actor idempotencyKey correlationId dto => trivial
  | lost k => trivial
  | crash =>
      intro r hr hstate
      exact hmissing rfl (hgood r hr hstate)
  | next k =>
      cases hplace : s.calls k with
      | putting companyId body =>
          rw [Keeps, hplace]
          cases hinsert : s.insertable
              (ObjectAccess.fixtureRow platform.parts companyId s.nextId body) with
          | false => exact hinsert
          | true =>
              simp only [ObjectSys.step, ObjectSys.next, hplace, hinsert, if_true] at hgood
              have hrow := hgood (ObjectAccess.fixtureRow platform.parts companyId s.nextId body)
                (List.mem_append_right _ (List.mem_singleton_self _)) rfl
              exact absurd hrow (hmissing (h.fresh companyId _ s.nextId 1 le_rfl))
      | loaded companyId row =>
          rw [Keeps, hplace]
          intro r hr hstate hkey
          rw [ObjectSys.step, ObjectSys.next, hplace] at hgood
          refine hmissing ?_ (hgood r hr hstate)
          rw [hkey]
          exact MemoryObjectStore.get_delete_self
      | _ => simp only [Keeps, hplace]

end Inv

theorem inv_initial (founders : List FounderRow) (companies : List CompanyRow)
    (nextId : Uuid) : Inv (initial platform founders companies nextId) where
  agreement _ hr := absurd hr List.not_mem_nil
  keyed _ hr := absurd hr List.not_mem_nil
  fresh _ _ _ _ _ := rfl
  loaded _ _ hrow := by cases hrow
  pending _ _ hobject := by cases hobject
  distinct _ _ _ hobject := by cases hobject
  uploaded _ _ hrow := by cases hrow
  inserted _ := rfl

/-- The records agree with the store in every state of a history if and only if no
`put` inserts its record, no `delete` removes the bytes of a record that is still
`READY`, and the process does not crash while there are `READY` records. -/
theorem agreement_iff (platform : ObjectPlatform) (founders : List FounderRow)
    (companies : List CompanyRow) (nextId : Uuid) (acts : List ObjectAction) :
    (∀ acts₁ acts₂, acts = acts₁ ++ acts₂ →
      ((initial platform founders companies nextId).after acts₁).Agreement) ↔
    Transition.EachStep step Keeps (initial platform founders companies nextId) acts := by
  have hinv : Inv (initial platform founders companies nextId) :=
    inv_initial founders companies nextId
  constructor
  · intro hgood
    exact Transition.eachStep_of_seen (P := Inv) (fun s act h hkeeps => Inv.step h act hkeeps)
      (fun s act h hgood => Inv.keeps_of_agreement h act hgood) hinv hgood
  · rintro hkeeps acts₁ acts₂ rfl
    have hhistory := ((Transition.eachStep_append step Keeps _ acts₁ acts₂).mp hkeeps).1
    exact (Transition.run_invariant_of_eachStep (P := Inv) (fun s act h hC => Inv.step h act hC)
      hinv hhistory).agreement

/-! ## Sample histories -/

def demoPlatform : ObjectPlatform where
  rt := .sample id
  decodeBody _ := .ok []
  parts :=
    { sha256 := fun body => (body.map fun b => b.toUInt16) ++ List.replicate (64 - body.length) 0x30
      toLowerCase := id
      sanitizeAttachmentFilename := .ok
      detectMediaType := fun _ => "unknown"
      deniedClass := fun _ _ => none
      pdfPageCount := fun _ => 1
      pngPixels := fun _ => none
      jpegPixels := fun _ => none
      webpPixels := fun _ => none }

def demoCompany : CompanyRow where
  id := 0
  founderId := 1
  name := js "Demo"
  status := .active
  currentProfileVersionId := none
  rowVersion := 1
  createdAt := 0
  updatedAt := 0

def uploadPlatform : ObjectPlatform :=
  { demoPlatform with
    decodeBody := Attachments.decodeBody
    parts := { demoPlatform.parts with detectMediaType := fun _ => "text/plain" } }

def demoUpload : ObjectAction :=
  .ingest 0 ⟨1, some 0⟩ 5 (.ofUuid 6)
    { declaredMediaType := "text/plain"
      filename := js "a.txt"
      contentSha256 := uploadPlatform.parts.sha256 [0x41]
      contentBase64 := js "QQ==" }

/-- An upload that stops after its bytes are stored, a crash, and the upload again. -/
def demoUploads : List ObjectAction :=
  [demoUpload, .next 0, .next 0, .next 0, .lost 0, .crash, demoUpload, .next 0, .next 0, .next 0,
    .next 0, .next 0]

/-- The records agree with the store throughout, and the second upload has its record. -/
theorem agreement_iff_demo :
    (∀ acts₁ acts₂, demoUploads = acts₁ ++ acts₂ →
      ((initial uploadPlatform [⟨1⟩] [demoCompany] 2).after acts₁).Agreement) ∧
      ((initial uploadPlatform [⟨1⟩] [demoCompany] 2).after demoUploads).objectRecords.map
        (fun r => (r.id, r.lifecycleState)) = [(5, .ready)] := by
  refine ⟨(agreement_iff uploadPlatform [⟨1⟩] [demoCompany] 2 demoUploads).mpr ?_, ?_⟩
  · decide +kernel
  · decide +kernel
/-- `put` inserts its record and the store fails: the record stays `READY` without
bytes. -/
theorem agreement_fails :
    ¬ ((initial demoPlatform [] [demoCompany] 2).after
      [.put 0 0 [0x61], .next 0, .lost 0]).Agreement := by
  intro hgood
  have hrecord : ((initial demoPlatform [] [demoCompany] 2).after
      [.put 0 0 [0x61], .next 0, .lost 0]).objectRecords =
        [ObjectAccess.fixtureRow demoPlatform.parts 0 2 [0x61]] := rfl
  obtain ⟨body, hbody, -⟩ := hgood (ObjectAccess.fixtureRow demoPlatform.parts 0 2 [0x61])
    (hrecord ▸ List.mem_singleton_self _) rfl
  cases hbody

end ObjectSys

end Aico
