import Aico.GateSpike.ConsumerProbe

/-!
# What the transactions of a consumer do

The first transaction of a call applies the event that is next in its run, applies an
event outside of every run, or changes no receipt, no offset and no projection. An
offset row that is inserted for a new run stands at zero, which is what a missing row
is read as.
-/

namespace Aico

namespace GateProof

open Gate01OutboxConsumerProbe

variable {platform : ConsumerPlatform} {consumerKey : String} {w w' : ProofWorld}

def Applied (consumerKey : String) (eventId : Uuid) (c : ConsumerDb) : Prop :=
  ∃ r ∈ c.projectionInbox, r.consumerKey = consumerKey ∧ r.eventId = eventId

theorem inboxRow_eq_none {eventId : Uuid} {c : ConsumerDb} :
    inboxRow consumerKey eventId c = none ↔ ¬ Applied consumerKey eventId c := by
  simp [inboxRow, Applied]

theorem applied_of_inboxRow {eventId : Uuid} {c : ConsumerDb} {row : ProjectionInboxRow}
    (h : inboxRow consumerKey eventId c = some row) : Applied consumerKey eventId c := by
  by_contra hnot
  rw [inboxRow_eq_none.mpr hnot] at h
  cases h

/-! ## Offsets -/

theorem find?_insertOffset (key : String) (companyId runId companyId' runId' : Uuid)
    (observedAt : Timestamp) (rows : List ConsumerRunOffsetRow) :
    (((insertOffset consumerKey companyId runId observedAt rows).find?
        (isOffset key companyId' runId')).map ConsumerRunOffsetRow.lastSequence).getD 0 =
      ((rows.find? (isOffset key companyId' runId')).map
        ConsumerRunOffsetRow.lastSequence).getD 0 := by
  unfold insertOffset
  split
  · rfl
  · rw [List.find?_append]
    cases rows.find? (isOffset key companyId' runId') with
    | some row => rfl
    | none =>
        simp only [Option.none_or, List.find?_singleton]
        split <;> rfl

def withOffset (consumerKey : String) (companyId runId : Uuid) (observedAt : Timestamp)
    (c : ConsumerDb) : ConsumerDb :=
  { c with
    consumerRunOffsets := insertOffset consumerKey companyId runId observedAt c.consumerRunOffsets }

theorem lastSequence_withOffset (key : String) (companyId runId companyId' runId' : Uuid)
    (observedAt : Timestamp) (c : ConsumerDb) :
    lastSequence key companyId' runId' (withOffset consumerKey companyId runId observedAt c) =
      lastSequence key companyId' runId' c :=
  find?_insertOffset key companyId runId companyId' runId' observedAt c.consumerRunOffsets

theorem any_insertOffset (companyId runId : Uuid) (observedAt : Timestamp)
    (rows : List ConsumerRunOffsetRow) :
    (insertOffset consumerKey companyId runId observedAt rows).any
      (isOffset consumerKey companyId runId) = true := by
  unfold insertOffset
  split
  · assumption
  · simp [isOffset]

theorem lastSequence_applyNext {delivery : ValidatedDelivery} {runId : Uuid} {runSequence : ℕ}
    {observedAt : Timestamp} {c : ConsumerDb}
    (hrow : c.consumerRunOffsets.any (isOffset consumerKey delivery.event.companyId runId) = true)
    (key : String) (companyId' runId' : Uuid) :
    lastSequence key companyId' runId' (applyNext consumerKey delivery runId runSequence
        (lastSequence consumerKey delivery.event.companyId runId c) observedAt c) =
      if key = consumerKey ∧ companyId' = delivery.event.companyId ∧ runId' = runId then runSequence
      else lastSequence key companyId' runId' c := by
  generalize hlast : lastSequence consumerKey delivery.event.companyId runId c = last
  have hfind (o : ConsumerRunOffsetRow) : isOffset key companyId' runId'
      (if (isOffset consumerKey delivery.event.companyId runId o ∧ o.lastSequence = last : Bool)
        then { o with lastSequence := runSequence, updatedAt := observedAt } else o) =
      isOffset key companyId' runId' o := by
    split <;> rfl
  have hmap : (applyNext consumerKey delivery runId runSequence last observedAt
      c).consumerRunOffsets.find? (isOffset key companyId' runId') =
      (c.consumerRunOffsets.find? (isOffset key companyId' runId')).map fun o =>
        if (isOffset consumerKey delivery.event.companyId runId o ∧ o.lastSequence = last : Bool)
          then { o with lastSequence := runSequence, updatedAt := observedAt } else o := by
    rw [applyNext, Table.updateWhere, List.find?_map]
    congr 2
    funext o
    exact hfind o
  rw [lastSequence, hmap]
  by_cases hkey : key = consumerKey ∧ companyId' = delivery.event.companyId ∧ runId' = runId
  · obtain ⟨rfl, rfl, rfl⟩ := hkey
    obtain ⟨o, ho⟩ := Option.isSome_iff_exists.mp (List.find?_isSome.mpr (List.any_eq_true.mp hrow))
    have hisOffset := List.find?_some ho
    have holast : o.lastSequence = last := by
      rw [← hlast, lastSequence, ho]
      rfl
    simp [ho, hisOffset, holast]
  · rw [if_neg hkey, lastSequence]
    cases hfound : c.consumerRunOffsets.find? (isOffset key companyId' runId') with
    | none => rfl
    | some o =>
        have hisOffset := List.find?_some hfound
        have hother : isOffset consumerKey delivery.event.companyId runId o = false := by
          by_contra hne
          simp only [isOffset, decide_eq_true_eq, Bool.not_eq_false] at hisOffset hne
          exact hkey ⟨hisOffset.1.symm.trans hne.1, hisOffset.2.1.symm.trans hne.2.1,
            hisOffset.2.2.symm.trans hne.2.2⟩
        simp [hother]

/-! ## Transactions -/

/-- No receipt, no offset, no projection and no acknowledgement has changed. -/
structure SameProgress (c c' : ConsumerDb) : Prop where
  inbox : c'.projectionInbox = c.projectionInbox
  offset : ∀ key companyId runId, lastSequence key companyId runId c' =
    lastSequence key companyId runId c
  offsetRows : ∀ o' ∈ c'.consumerRunOffsets, o' ∈ c.consumerRunOffsets ∨
    o'.lastSequence = 0 ∧ lastSequence o'.consumerKey o'.companyId o'.runId c = 0
  offsetRowsKept : ∀ o ∈ c.consumerRunOffsets, o ∈ c'.consumerRunOffsets
  projection : c'.gate01Projection = c.gate01Projection
  acknowledgements : c'.consumerOutboxAcknowledgements = c.consumerOutboxAcknowledgements

theorem SameProgress.refl (c : ConsumerDb) : SameProgress c c :=
  ⟨rfl, fun _ _ _ => rfl, fun _ h => .inl h, fun _ h => h, rfl, rfl⟩

theorem mem_insertOffset {companyId runId : Uuid} {observedAt : Timestamp} {c : ConsumerDb}
    {o : ConsumerRunOffsetRow}
    (h : o ∈ insertOffset consumerKey companyId runId observedAt c.consumerRunOffsets) :
    o ∈ c.consumerRunOffsets ∨
      o.lastSequence = 0 ∧ lastSequence o.consumerKey o.companyId o.runId c = 0 := by
  unfold insertOffset at h
  split at h
  · exact .inl h
  · next hnone =>
      rcases List.mem_append.mp h with h | h
      · exact .inl h
      · obtain rfl := List.mem_singleton.mp h
        have hfind : c.consumerRunOffsets.find? (isOffset consumerKey companyId runId) = none := by
          simpa using hnone
        refine .inr ⟨rfl, ?_⟩
        rw [lastSequence, hfind]
        rfl

theorem mem_insertOffset_of_mem {companyId runId : Uuid} {observedAt : Timestamp}
    {rows : List ConsumerRunOffsetRow} {o : ConsumerRunOffsetRow} (h : o ∈ rows) :
    o ∈ insertOffset consumerKey companyId runId observedAt rows := by
  unfold insertOffset
  split
  · exact h
  · exact List.mem_append_left _ h

theorem sameProgress_withOffset (consumerKey : String) (companyId runId : Uuid)
    (observedAt : Timestamp) (c : ConsumerDb) : SameProgress c (withOffset consumerKey companyId runId observedAt c) where
  inbox := rfl
  offset key companyId' runId' := lastSequence_withOffset key companyId runId companyId' runId' _ c
  offsetRows _ h := mem_insertOffset h
  offsetRowsKept _ h := mem_insertOffset_of_mem h
  projection := rfl
  acknowledgements := rfl

structure Delivers (db : ProofDb) (delivery : ValidatedDelivery) : Prop where
  outbox : delivery.outbox ∈ db.outboxMessages
  event : delivery.event ∈ db.domainEvents
  id : delivery.event.id = delivery.outbox.eventId

/-- What the first transaction of a call does. -/
inductive Transacts (consumerKey : String) (w : ProofWorld) :
    ConsumerProbeResult → ProofWorld → Prop
  | quiet {result : ConsumerProbeResult} {w' : ProofWorld} (hdb : w'.db = w.db)
      (hsame : SameProgress w.consumer w'.consumer)
      (happlied : ∀ delivery, result ≠ .applied delivery)
      (hdeduped : ∀ delivery, result = .deduped delivery →
        Delivers w.db delivery ∧ Applied consumerKey delivery.event.id w.consumer) :
      Transacts consumerKey w result w'
  | next {delivery : ValidatedDelivery} {runId : Uuid} {last : ℕ} {observedAt : Timestamp}
      (hlast : lastSequence consumerKey delivery.event.companyId runId w.consumer = last)
      (hdelivers : Delivers w.db delivery)
      (hplace : delivery.event.place = some (delivery.event.companyId, runId, last + 1))
      (hnew : ¬ Applied consumerKey delivery.event.id w.consumer) :
      Transacts consumerKey w (.applied delivery)
        (write (fun c => applyNext consumerKey delivery runId (last + 1) last observedAt
          (withOffset consumerKey delivery.event.companyId runId observedAt c)) w)
  | company {delivery : ValidatedDelivery} {observedAt : Timestamp}
      (hdelivers : Delivers w.db delivery) (hplace : delivery.event.place = none)
      (hnew : ¬ Applied consumerKey delivery.event.id w.consumer) :
      Transacts consumerKey w (.applied delivery)
        (write (fun c => { c with
          projectionInbox := c.projectionInbox ++
            [⟨consumerKey, delivery.event.id, delivery.event.payloadDigest, observedAt⟩] }) w)

theorem quarantine_transacts {candidate : ConsumerDelivery} {outbox : Option OutboxMessageRow}
    {reason : QuarantineReason} {observedAt : Timestamp} {event : Option DomainEventRow}
    (hdb : w'.db = w.db) (hsame : SameProgress w.consumer w'.consumer) :
    Transacts consumerKey w
      (quarantine platform consumerKey candidate outbox reason observedAt event w').1
      (quarantine platform consumerKey candidate outbox reason observedAt event w').2 :=
  .quiet hdb ⟨hsame.inbox, hsame.offset, hsame.offsetRows, hsame.offsetRowsKept, hsame.projection,
    hsame.acknowledgements⟩ (fun _ h => by cases h) fun _ h => by cases h

theorem applyInOrder_transacts {delivery : ValidatedDelivery} {runId : Uuid} {runSequence : ℕ}
    (observedAt : Timestamp) (hdelivers : Delivers w.db delivery)
    (hplace : delivery.event.place = some (delivery.event.companyId, runId, runSequence)) :
    Transacts consumerKey w
      (applyInOrder platform consumerKey delivery runId runSequence observedAt w).1
      (applyInOrder platform consumerKey delivery runId runSequence observedAt w).2 := by
  have hoffset := sameProgress_withOffset consumerKey delivery.event.companyId runId observedAt
    w.consumer
  have hlast : lastSequence consumerKey delivery.event.companyId runId
      (withOffset consumerKey delivery.event.companyId runId observedAt w.consumer) =
      lastSequence consumerKey delivery.event.companyId runId w.consumer :=
    hoffset.offset consumerKey delivery.event.companyId runId
  unfold applyInOrder
  dsimp only
  split
  · next inbox hinbox =>
      split
      · exact quarantine_transacts rfl hoffset
      · split
        · exact quarantine_transacts rfl hoffset
        · refine .quiet rfl hoffset (fun _ h => by cases h) fun delivery' h => ?_
          obtain rfl := ConsumerProbeResult.deduped.inj h
          exact ⟨hdelivers, applied_of_inboxRow hinbox⟩
  · next hinbox =>
      split
      · exact .quiet rfl ⟨rfl, hoffset.offset, hoffset.offsetRows, hoffset.offsetRowsKept, rfl, rfl⟩
          (fun _ h => by cases h) fun _ h => by cases h
      · next hgap =>
          split
          · exact quarantine_transacts rfl hoffset
          · next hregression =>
              have hnext := Nat.le_antisymm (not_lt.mp hgap) (not_lt.mp hregression)
              rw [hnext] at hplace ⊢
              exact .next hlast.symm hdelivers hplace (inboxRow_eq_none.mp hinbox)

theorem applyInOrder_of_gap {delivery : ValidatedDelivery} {runId : Uuid} {runSequence : ℕ}
    (observedAt : Timestamp) (hnew : ¬ Applied consumerKey delivery.event.id w.consumer)
    (hgap : lastSequence consumerKey delivery.event.companyId runId w.consumer + 1 < runSequence) :
    SameProgress w.consumer
      (applyInOrder platform consumerKey delivery runId runSequence observedAt w).2.consumer := by
  have hoffset := sameProgress_withOffset consumerKey delivery.event.companyId runId observedAt
    w.consumer
  have hlast := hoffset.offset consumerKey delivery.event.companyId runId
  unfold applyInOrder
  dsimp only
  split
  · next inbox hinbox => exact absurd (applied_of_inboxRow hinbox) hnew
  · split
    · exact ⟨rfl, hoffset.offset, hoffset.offsetRows, hoffset.offsetRowsKept, rfl, rfl⟩
    · next hnot => exact absurd (hlast ▸ hgap) hnot

theorem applyCompanyScoped_transacts {delivery : ValidatedDelivery} (observedAt : Timestamp)
    (hdelivers : Delivers w.db delivery) (hplace : delivery.event.place = none) :
    Transacts consumerKey w
      (applyCompanyScoped platform consumerKey delivery observedAt w).1
      (applyCompanyScoped platform consumerKey delivery observedAt w).2 := by
  unfold applyCompanyScoped
  dsimp only
  split
  · next inbox hinbox =>
      split
      · exact quarantine_transacts rfl (.refl _)
      · refine .quiet rfl (.refl _) (fun _ h => by cases h) fun delivery' h => ?_
        obtain rfl := ConsumerProbeResult.deduped.inj h
        exact ⟨hdelivers, applied_of_inboxRow hinbox⟩
  · next hinbox => exact .company hdelivers hplace (inboxRow_eq_none.mp hinbox)

/-- A check sequence that passes has passed its first part. -/
theorem exists_of_bind_eq_ok {ε α β : Type} {x : Except ε α} {f : α → Except ε β} {b : β}
    (h : x >>= f = .ok b) : ∃ a, x = .ok a ∧ f a = .ok b := by
  cases x with
  | error e => cases h
  | ok a => exact ⟨a, rfl, h⟩

theorem validateDelivery_eq_ok {db : ProofDb} {candidate : ConsumerDelivery}
    {outbox : OutboxMessageRow} {delivery : ValidatedDelivery}
    (h : validateDelivery platform db candidate outbox = .ok delivery) :
    delivery.outbox = outbox ∧ delivery.event ∈ db.domainEvents ∧
      delivery.event.companyId = outbox.companyId ∧ delivery.event.id = outbox.eventId := by
  unfold validateDelivery at h
  dsimp only at h
  obtain ⟨-, -, h⟩ := exists_of_bind_eq_ok h
  split at h
  · cases h
  · next event hevent =>
      obtain ⟨-, -, h⟩ := exists_of_bind_eq_ok h
      obtain ⟨-, -, h⟩ := exists_of_bind_eq_ok h
      obtain ⟨-, -, h⟩ := exists_of_bind_eq_ok h
      have hdelivery : delivery = ⟨outbox, event⟩ := by
        split at h
        all_goals
          obtain ⟨-, -, h⟩ := exists_of_bind_eq_ok h
          exact (Except.ok.inj h).symm
      subst hdelivery
      have hfound := List.find?_some hevent
      simp only [decide_eq_true_eq] at hfound
      exact ⟨rfl, List.mem_of_find?_eq_some hevent, hfound⟩

theorem lockOutbox_mem {db : ProofDb} {outboxMessageId : JsString} {outbox : OutboxMessageRow}
    (h : lockOutbox platform db outboxMessageId = some outbox) : outbox ∈ db.outboxMessages := by
  obtain ⟨id, -, hfind⟩ := Option.bind_eq_some_iff.mp h
  exact List.mem_of_find?_eq_some hfind

theorem validateAndApply_transacts (platform : ConsumerPlatform) (consumerKey : String)
    (w : ProofWorld) (candidate : ConsumerDelivery) (observedAt : Timestamp) :
    Transacts consumerKey w (validateAndApply platform consumerKey candidate observedAt w).1
      (validateAndApply platform consumerKey candidate observedAt w).2 := by
  unfold validateAndApply
  split
  · exact quarantine_transacts rfl (.refl _)
  · next outbox houtbox =>
      split
      · exact quarantine_transacts rfl (.refl _)
      · next delivery hdelivery =>
          obtain ⟨rfl, hevent, -, hid⟩ := validateDelivery_eq_ok hdelivery
          have hdelivers : Delivers w.db delivery := ⟨lockOutbox_mem houtbox, hevent, hid⟩
          split
          · next runId runSequence hrun hsequence =>
              refine applyInOrder_transacts observedAt hdelivers ?_
              simp [DomainEventRow.place, hrun, hsequence]
          · next hnone =>
              refine applyCompanyScoped_transacts observedAt hdelivers ?_
              unfold DomainEventRow.place
              split
              · next runId sequence hrun hsequence => exact absurd hsequence (hnone _ _ hrun)
              · rfl

end GateProof

end Aico
