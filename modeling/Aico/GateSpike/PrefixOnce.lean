import Aico.Foundation.Transition
import Aico.GateSpike.ConsumerSteps

/-!
# Each consumer applies a prefix of each run once

Calls of consumers with any keys interleave between their two transactions and crash
between them, while events and messages are appended. The events of a run that a
consumer has applied are those numbered up to its offset. The projection of a run is
kept once for all consumers, so it shows the last approval in the longest prefix that
one of them has applied.
-/

namespace Aico

namespace GateProof

open Gate01OutboxConsumerProbe

/-- A call between its two transactions. -/
structure PendingAcknowledgement where
  consumerKey : String
  delivery : ValidatedDelivery
  observedAt : Timestamp

structure ConsumerSystem where
  world : ProofWorld
  pending : List PendingAcknowledgement

/-- What is committed beside the consumers: rows of other tables, and events and messages
added to those there are. -/
structure ProducerWrite where
  tables : ProofDb
  events : List DomainEventRow
  messages : List OutboxMessageRow

inductive ConsumerAction where
  | validateAndApply (consumerKey : String) (candidate : ConsumerDelivery)
      (observedAt : Timestamp)
  | acknowledge (call : ℕ)
  | crash (call : ℕ)
  | produce (write : ProducerWrite)

def ProducerWrite.apply (write : ProducerWrite) (db : ProofDb) : ProofDb :=
  { write.tables with
    domainEvents := db.domainEvents ++ write.events
    outboxMessages := db.outboxMessages ++ write.messages }

/-- The keys of the events and the messages are unique, and new messages are not
published. -/
def ProducerWrite.allowed (write : ProducerWrite) (db : ProofDb) : Prop :=
  (((write.apply db).domainEvents.map DomainEventRow.id).Nodup ∧
    ((write.apply db).domainEvents.filterMap DomainEventRow.place).Nodup) ∧
    ((write.apply db).outboxMessages.map OutboxMessageRow.id).Nodup ∧
    ∀ m ∈ write.messages, m.publishedAt = none

instance (write : ProducerWrite) (db : ProofDb) : Decidable (write.allowed db) :=
  inferInstanceAs (Decidable ((_ ∧ _) ∧ _ ∧ _))

namespace ConsumerSystem

variable (platform : ConsumerPlatform)

/-- The call of an applied or known event goes on to acknowledge its message. -/
def pendingOf (consumerKey : String) (observedAt : Timestamp) :
    ConsumerProbeResult → List PendingAcknowledgement
  | .applied delivery | .deduped delivery => [⟨consumerKey, delivery, observedAt⟩]
  | _ => []

def step (s : ConsumerSystem) : ConsumerAction → ConsumerSystem
  | .validateAndApply consumerKey candidate observedAt =>
      let r := Gate01OutboxConsumerProbe.validateAndApply platform consumerKey candidate observedAt
        s.world
      ⟨r.2, s.pending ++ pendingOf consumerKey observedAt r.1⟩
  | .acknowledge call =>
      match s.pending[call]? with
      | none => s
      | some p =>
          ⟨Gate01OutboxConsumerProbe.acknowledge p.consumerKey p.delivery p.observedAt s.world,
            s.pending.eraseIdx call⟩
  | .crash call => { s with pending := s.pending.eraseIdx call }
  | .produce write =>
      if write.allowed s.world.db then
        { s with world := { s.world with db := write.apply s.world.db } }
      else s

/-- Nothing has happened. -/
def initial : ConsumerSystem where
  world :=
    { db := ProofDb.empty
      consumer := ⟨[], [], [], [], [], []⟩
      nextId := 0 }
  pending := []

def after (acts : List ConsumerAction) : ConsumerSystem :=
  Transition.run (step platform) initial acts

end ConsumerSystem

/-! ## What the tables say -/

def longestPrefix (companyId runId : Uuid) (c : ConsumerDb) : ℕ :=
  ((c.consumerRunOffsets.filter fun o => o.companyId = companyId ∧ o.runId = runId).map
    ConsumerRunOffsetRow.lastSequence).foldr max 0

/-- The event is an approval of the run with that number, counted from one. -/
structure IsApproval (db : ProofDb) (companyId runId : Uuid) (sequence : ℕ)
    (event : DomainEventRow) : Prop where
  pos : 1 ≤ sequence
  mem : event ∈ db.domainEvents
  approval : event.eventType = .approvalDecided
  place : event.place = some (companyId, runId, sequence)

/-- The row shows the event. -/
structure Shows (row : Gate01ProjectionRow) (sequence : ℕ) (event : DomainEventRow) : Prop where
  lastSequence : row.lastSequence = sequence
  gateStatus : row.gateStatus = gateStatus event
  decisionRecordId : row.decisionRecordId = event.payload.textField "decision_record_id"

/-- The projection of a run shows the last approval among its first `n` events, and there
is none when none of them is an approval. -/
structure ProjectsPrefix (w : ProofWorld) (companyId runId : Uuid) (n : ℕ) : Prop where
  shown : ∀ row ∈ w.consumer.gate01Projection, isProjection companyId runId row = true →
    ∃ sequence event, sequence ≤ n ∧ IsApproval w.db companyId runId sequence event ∧
      Shows row sequence event ∧
      ∀ sequence' event', sequence' ≤ n → IsApproval w.db companyId runId sequence' event' →
        sequence' ≤ sequence
  covered : ∀ sequence event, sequence ≤ n → IsApproval w.db companyId runId sequence event →
    ∃ row ∈ w.consumer.gate01Projection, isProjection companyId runId row = true

/-- The events of a run that a consumer has applied are those up to its offset. -/
structure AppliesPrefix (w : ProofWorld) (consumerKey : String) (companyId runId : Uuid) :
    Prop where
  applied : ∀ event ∈ w.db.domainEvents, ∀ sequence,
    event.place = some (companyId, runId, sequence) →
      (Applied consumerKey event.id w.consumer ↔
        1 ≤ sequence ∧ sequence ≤ lastSequence consumerKey companyId runId w.consumer)
  complete : ∀ sequence, 1 ≤ sequence →
    sequence ≤ lastSequence consumerKey companyId runId w.consumer →
      ∃ event ∈ w.db.domainEvents, event.place = some (companyId, runId, sequence)

/-! ## The invariant -/

variable {w w' : ProofWorld} {consumerKey : String}

def Sent (db : ProofDb) (outboxMessageId eventId : Uuid) : Prop :=
  ∃ m ∈ db.outboxMessages, m.id = outboxMessageId ∧ m.eventId = eventId

/-- What holds between the events and the tables of the consumers. -/
structure ConsumerInv (w : ProofWorld) : Prop where
  ids : (w.db.domainEvents.map DomainEventRow.id).Nodup
  places : (w.db.domainEvents.filterMap DomainEventRow.place).Nodup
  messages : (w.db.outboxMessages.map OutboxMessageRow.id).Nodup
  inboxOnce : (w.consumer.projectionInbox.map fun r => (r.consumerKey, r.eventId)).Nodup
  inboxEvents : ∀ r ∈ w.consumer.projectionInbox, ∃ event ∈ w.db.domainEvents,
    event.id = r.eventId
  offsets : ∀ o ∈ w.consumer.consumerRunOffsets,
    lastSequence o.consumerKey o.companyId o.runId w.consumer = o.lastSequence
  prefixes : ∀ key companyId runId, AppliesPrefix w key companyId runId
  projectionOnce : (w.consumer.gate01Projection.map fun r => (r.companyId, r.runId)).Nodup
  projected : ∀ companyId runId,
    ProjectsPrefix w companyId runId (longestPrefix companyId runId w.consumer)
  acknowledged : ∀ a ∈ w.consumer.consumerOutboxAcknowledgements,
    Applied a.consumerKey a.eventId w.consumer ∧ Sent w.db a.outboxMessageId a.eventId
  published : ∀ m ∈ w.db.outboxMessages, m.publishedAt.isSome →
    ∃ key, Applied key m.eventId w.consumer

theorem longestPrefix_le_iff {companyId runId : Uuid} {c : ConsumerDb} {n : ℕ} :
    longestPrefix companyId runId c ≤ n ↔ ∀ o ∈ c.consumerRunOffsets,
      o.companyId = companyId → o.runId = runId → o.lastSequence ≤ n := by
  unfold longestPrefix
  induction c.consumerRunOffsets with
  | nil => simp
  | cons o rows ih =>
      rw [List.filter_cons, List.forall_mem_cons, ← ih]
      split
      · next ho =>
          simp only [decide_eq_true_eq] at ho
          simp [ho]
      · next ho =>
          simp only [decide_eq_true_eq] at ho
          constructor
          · exact fun h => ⟨fun hcompany hrun => absurd ⟨hcompany, hrun⟩ ho, h⟩
          · exact fun h => h.2

theorem exists_longestPrefix (companyId runId : Uuid) (c : ConsumerDb) :
    longestPrefix companyId runId c = 0 ∨ ∃ o ∈ c.consumerRunOffsets, o.companyId = companyId ∧
      o.runId = runId ∧ o.lastSequence = longestPrefix companyId runId c := by
  by_contra hnot
  obtain ⟨hpos, hnone⟩ := not_or.mp hnot
  have hle : longestPrefix companyId runId c ≤ longestPrefix companyId runId c - 1 := by
    refine longestPrefix_le_iff.mpr fun o ho hcompany hrun => ?_
    have hlt : o.lastSequence ≤ longestPrefix companyId runId c :=
      longestPrefix_le_iff.mp (Nat.le_refl _) o ho hcompany hrun
    have hne : o.lastSequence ≠ longestPrefix companyId runId c :=
      fun heq => hnone ⟨o, ho, hcompany, hrun, heq⟩
    omega
  omega

theorem longestPrefix_of_single (hinv : ConsumerInv w) {companyId runId : Uuid}
    (h : ∀ o ∈ w.consumer.consumerRunOffsets, o.companyId = companyId → o.runId = runId →
      o.consumerKey = consumerKey) :
    longestPrefix companyId runId w.consumer =
      lastSequence consumerKey companyId runId w.consumer := by
  apply Nat.le_antisymm
  · refine longestPrefix_le_iff.mpr fun o ho hcompany hrun => ?_
    rw [← hinv.offsets o ho, h o ho hcompany hrun, hcompany, hrun]
  · rw [lastSequence]
    cases hfind : w.consumer.consumerRunOffsets.find? (isOffset consumerKey companyId runId) with
    | none => exact Nat.zero_le _
    | some o =>
        have hisOffset := List.find?_some hfind
        simp only [isOffset, decide_eq_true_eq] at hisOffset
        exact longestPrefix_le_iff.mp (Nat.le_refl _) o (List.mem_of_find?_eq_some hfind)
          hisOffset.2.1 hisOffset.2.2

theorem SameProgress.longestPrefix {c c' : ConsumerDb} (h : SameProgress c c')
    (companyId runId : Uuid) :
    longestPrefix companyId runId c' = longestPrefix companyId runId c := by
  apply Nat.le_antisymm
  · refine longestPrefix_le_iff.mpr fun o ho hcompany hrun => ?_
    rcases h.offsetRows o ho with ho | ⟨hzero, -⟩
    · exact longestPrefix_le_iff.mp (Nat.le_refl _) o ho hcompany hrun
    · omega
  · refine longestPrefix_le_iff.mpr fun o ho hcompany hrun => ?_
    exact longestPrefix_le_iff.mp (Nat.le_refl _) o (h.offsetRowsKept o ho) hcompany hrun

theorem SameProgress.applied {c c' : ConsumerDb} (h : SameProgress c c') (key : String)
    (eventId : Uuid) : Applied key eventId c' ↔ Applied key eventId c := by
  rw [Applied, Applied, h.inbox]

/-- A transaction that applies nothing. -/
theorem ConsumerInv.quiet (hinv : ConsumerInv w) (hdb : w'.db = w.db)
    (hsame : SameProgress w.consumer w'.consumer) : ConsumerInv w' where
  ids := hdb ▸ hinv.ids
  places := hdb ▸ hinv.places
  messages := hdb ▸ hinv.messages
  inboxOnce := hsame.inbox ▸ hinv.inboxOnce
  inboxEvents := by
    rw [hsame.inbox, hdb]
    exact hinv.inboxEvents
  offsets o ho := by
    rw [hsame.offset]
    rcases hsame.offsetRows o ho with ho | ⟨hzero, hlast⟩
    · exact hinv.offsets o ho
    · rw [hzero, hlast]
  prefixes key companyId runId := by
    have hhistory := hinv.prefixes key companyId runId
    constructor
    · intro event hevent sequence hplace
      rw [hsame.applied, hsame.offset]
      exact hhistory.applied event (hdb ▸ hevent) sequence hplace
    · intro sequence hpos hle
      rw [hdb]
      exact hhistory.complete sequence hpos (hsame.offset key companyId runId ▸ hle)
  projectionOnce := hsame.projection ▸ hinv.projectionOnce
  projected companyId runId := by
    have hprojected := hinv.projected companyId runId
    rw [hsame.longestPrefix]
    constructor
    · rw [hsame.projection, hdb]
      exact hprojected.shown
    · rw [hsame.projection, hdb]
      exact hprojected.covered
  acknowledged a ha := by
    rw [hsame.applied, hdb]
    exact hinv.acknowledged a (hsame.acknowledgements ▸ ha)
  published m hm hpublished := by
    obtain ⟨key, hkey⟩ := hinv.published m (hdb ▸ hm) hpublished
    exact ⟨key, (hsame.applied key m.eventId).mpr hkey⟩

/-! ## Applying an event -/

/-- A value that a list without repetitions has once comes from one element. -/
theorem eq_of_nodup_filterMap {α β : Type} {f : α → Option β} {l : List α}
    (h : (l.filterMap f).Nodup) {a b : α} (ha : a ∈ l) (hb : b ∈ l) {x : β} (hfa : f a = some x)
    (hfb : f b = some x) : a = b := by
  induction l with
  | nil => cases ha
  | cons c l ih =>
      have hmem {d : α} (hd : d ∈ l) (hfd : f d = some x) : x ∈ l.filterMap f :=
        List.mem_filterMap.mpr ⟨d, hd, hfd⟩
      cases hfc : f c with
      | none =>
          rw [List.filterMap_cons_none hfc] at h
          rcases List.mem_cons.mp ha with rfl | ha
          · rw [hfc] at hfa
            cases hfa
          · rcases List.mem_cons.mp hb with rfl | hb
            · rw [hfc] at hfb
              cases hfb
            · exact ih h ha hb
      | some y =>
          rw [List.filterMap_cons_some hfc, List.nodup_cons] at h
          rcases List.mem_cons.mp ha with rfl | ha' <;> rcases List.mem_cons.mp hb with rfl | hb'
          · rfl
          · exact absurd (hmem hb' hfb) (Option.some.inj (hfc.symm.trans hfa) ▸ h.1)
          · exact absurd (hmem ha' hfa) (Option.some.inj (hfc.symm.trans hfb) ▸ h.1)
          · exact ih h.2 ha' hb'

theorem applied_append {key : String} {eventId : Uuid} {row : ProjectionInboxRow}
    {c c' : ConsumerDb} (h : c'.projectionInbox = c.projectionInbox ++ [row]) :
    Applied key eventId c' ↔
      Applied key eventId c ∨ (row.consumerKey = key ∧ row.eventId = eventId) := by
  simp only [Applied, h, List.mem_append, List.mem_singleton]
  constructor
  · rintro ⟨r, hr | rfl, hkey⟩
    · exact .inl ⟨r, hr, hkey⟩
    · exact .inr hkey
  · rintro (⟨r, hr, hkey⟩ | hkey)
    · exact ⟨r, .inl hr, hkey⟩
    · exact ⟨row, .inr rfl, hkey⟩

theorem inboxOnce_append (hinv : ConsumerInv w) {row : ProjectionInboxRow}
    (hnew : ¬ Applied row.consumerKey row.eventId w.consumer) :
    ((w.consumer.projectionInbox ++ [row]).map fun r => (r.consumerKey, r.eventId)).Nodup := by
  rw [List.map_append, List.map_singleton]
  refine List.Nodup.append hinv.inboxOnce (List.nodup_singleton _) ?_
  intro key hkey hmem
  rw [List.mem_singleton.mp hmem] at hkey
  obtain ⟨r, hr, heq⟩ := List.mem_map.mp hkey
  obtain ⟨hconsumer, hevent⟩ := Prod.mk.inj heq
  exact hnew ⟨r, hr, hconsumer, hevent⟩

theorem inboxEvents_append (hinv : ConsumerInv w) {row : ProjectionInboxRow}
    {event : DomainEventRow} (hevent : event ∈ w.db.domainEvents) (hid : event.id = row.eventId) :
    ∀ r ∈ w.consumer.projectionInbox ++ [row], ∃ event ∈ w.db.domainEvents,
      event.id = r.eventId := by
  intro r hr
  rcases List.mem_append.mp hr with hr | hr
  · exact hinv.inboxEvents r hr
  · obtain rfl := List.mem_singleton.mp hr
    exact ⟨event, hevent, hid⟩

/-- A receipt more keeps the acknowledgements in order. -/
theorem acknowledged_append (hinv : ConsumerInv w) {row : ProjectionInboxRow} {c' : ConsumerDb}
    (hinbox : c'.projectionInbox = w.consumer.projectionInbox ++ [row])
    (hacknowledgements : c'.consumerOutboxAcknowledgements =
      w.consumer.consumerOutboxAcknowledgements) :
    ∀ a ∈ c'.consumerOutboxAcknowledgements,
      Applied a.consumerKey a.eventId c' ∧ Sent w.db a.outboxMessageId a.eventId := by
  intro a ha
  rw [hacknowledgements] at ha
  obtain ⟨happlied, hsent⟩ := hinv.acknowledged a ha
  exact ⟨(applied_append hinbox).mpr (.inl happlied), hsent⟩

theorem published_append (hinv : ConsumerInv w) {row : ProjectionInboxRow} {c' : ConsumerDb}
    (hinbox : c'.projectionInbox = w.consumer.projectionInbox ++ [row]) :
    ∀ m ∈ w.db.outboxMessages, m.publishedAt.isSome → ∃ key, Applied key m.eventId c' := by
  intro m hm hpublished
  obtain ⟨key, hkey⟩ := hinv.published m hm hpublished
  exact ⟨key, (applied_append hinbox).mpr (.inl hkey)⟩

theorem ConsumerInv.company (hinv : ConsumerInv w) {row : ProjectionInboxRow}
    {event : DomainEventRow} (hevent : event ∈ w.db.domainEvents) (hid : event.id = row.eventId)
    (hplace : event.place = none) (hnew : ¬ Applied row.consumerKey row.eventId w.consumer) :
    ConsumerInv (write (fun c => { c with projectionInbox := c.projectionInbox ++ [row] }) w) where
  ids := hinv.ids
  places := hinv.places
  messages := hinv.messages
  inboxOnce := inboxOnce_append hinv hnew
  inboxEvents := inboxEvents_append hinv hevent hid
  offsets := hinv.offsets
  prefixes key companyId runId := by
    refine ⟨fun event' hevent' sequence hplace' => ?_, (hinv.prefixes key companyId runId).complete⟩
    rw [applied_append rfl, (hinv.prefixes key companyId runId).applied event' hevent' sequence
      hplace']
    have hother : event'.id ≠ row.eventId := by
      intro heq
      have hsame := List.inj_on_of_nodup_map hinv.ids hevent' hevent (heq.trans hid.symm)
      rw [hsame, hplace] at hplace'
      cases hplace'
    exact ⟨fun h => h.resolve_right fun hrow => hother hrow.2.symm, .inl⟩
  projectionOnce := hinv.projectionOnce
  projected companyId runId :=
    ⟨(hinv.projected companyId runId).shown, (hinv.projected companyId runId).covered⟩
  acknowledged := acknowledged_append hinv rfl rfl
  published := published_append hinv rfl

/-! ### Offsets of the next event -/

section Next

variable {delivery : ValidatedDelivery} {runId : Uuid} {last : ℕ} {observedAt : Timestamp}

/-- A row of the consumer stands where it is read. -/
theorem lastSequence_of_isOffset (hinv : ConsumerInv w)
    (hlast : lastSequence consumerKey delivery.event.companyId runId w.consumer = last)
    {o : ConsumerRunOffsetRow} (ho : o ∈ w.consumer.consumerRunOffsets)
    (hisOffset : isOffset consumerKey delivery.event.companyId runId o = true) :
    o.lastSequence = last := by
  have hread := hinv.offsets o ho
  simp only [isOffset, decide_eq_true_eq] at hisOffset
  obtain ⟨hkey, hcompany, hrun⟩ := hisOffset
  rw [← hread, hkey, hcompany, hrun, hlast]

theorem mem_offsets_applyNext (hinv : ConsumerInv w)
    (hlast : lastSequence consumerKey delivery.event.companyId runId w.consumer = last)
    {o : ConsumerRunOffsetRow} :
    o ∈ (applyNext consumerKey delivery runId (last + 1) last observedAt
        w.consumer).consumerRunOffsets ↔
      (o ∈ w.consumer.consumerRunOffsets ∧
        isOffset consumerKey delivery.event.companyId runId o = false) ∨
      ∃ o₀ ∈ w.consumer.consumerRunOffsets,
        isOffset consumerKey delivery.event.companyId runId o₀ = true ∧
        o = { o₀ with lastSequence := last + 1, updatedAt := observedAt } := by
  have hselect {o₀ : ConsumerRunOffsetRow} (ho₀ : o₀ ∈ w.consumer.consumerRunOffsets) :
      (isOffset consumerKey delivery.event.companyId runId o₀ ∧ o₀.lastSequence = last : Bool) =
        isOffset consumerKey delivery.event.companyId runId o₀ := by
    cases hisOffset : isOffset consumerKey delivery.event.companyId runId o₀ with
    | false => simp
    | true => simp [lastSequence_of_isOffset hinv hlast ho₀ hisOffset]
  rw [applyNext, Table.mem_updateWhere]
  constructor
  · rintro ⟨o₀, ho₀, rfl⟩
    rw [hselect ho₀]
    cases hisOffset : isOffset consumerKey delivery.event.companyId runId o₀ with
    | false => exact .inl ⟨ho₀, hisOffset⟩
    | true => exact .inr ⟨o₀, ho₀, hisOffset, rfl⟩
  · rintro (⟨ho, hisOffset⟩ | ⟨o₀, ho₀, hisOffset, rfl⟩)
    · exact ⟨o, ho, by rw [hselect ho, hisOffset]; rfl⟩
    · exact ⟨o₀, ho₀, by rw [hselect ho₀, hisOffset]; rfl⟩

theorem longestPrefix_applyNext (hinv : ConsumerInv w)
    (hrow : w.consumer.consumerRunOffsets.any
      (isOffset consumerKey delivery.event.companyId runId) = true)
    (hlast : lastSequence consumerKey delivery.event.companyId runId w.consumer = last) :
    longestPrefix delivery.event.companyId runId
        (applyNext consumerKey delivery runId (last + 1) last observedAt w.consumer) =
      max (longestPrefix delivery.event.companyId runId w.consumer) (last + 1) := by
  apply Nat.le_antisymm
  · refine longestPrefix_le_iff.mpr fun o ho hcompany hrun => ?_
    rcases (mem_offsets_applyNext hinv hlast).mp ho with ⟨ho, -⟩ | ⟨o₀, -, -, rfl⟩
    · exact le_max_of_le_left (longestPrefix_le_iff.mp (Nat.le_refl _) o ho hcompany hrun)
    · exact le_max_right _ _
  · obtain ⟨o₁, ho₁, hisOffset₁⟩ := List.any_eq_true.mp hrow
    have hadvanced : last + 1 ≤ longestPrefix delivery.event.companyId runId
        (applyNext consumerKey delivery runId (last + 1) last observedAt w.consumer) := by
      have hmatches := hisOffset₁
      simp only [isOffset, decide_eq_true_eq] at hmatches
      exact longestPrefix_le_iff.mp (Nat.le_refl _) _
        ((mem_offsets_applyNext hinv hlast).mpr (.inr ⟨o₁, ho₁, hisOffset₁, rfl⟩))
        hmatches.2.1 hmatches.2.2
    refine max_le (longestPrefix_le_iff.mpr fun o ho hcompany hrun => ?_) hadvanced
    cases hisOffset : isOffset consumerKey delivery.event.companyId runId o with
    | false =>
        exact longestPrefix_le_iff.mp (Nat.le_refl _) o
          ((mem_offsets_applyNext hinv hlast).mpr (.inl ⟨ho, hisOffset⟩)) hcompany hrun
    | true =>
        have := lastSequence_of_isOffset hinv hlast ho hisOffset
        omega

theorem longestPrefix_applyNext_of_ne (hinv : ConsumerInv w)
    (hlast : lastSequence consumerKey delivery.event.companyId runId w.consumer = last)
    {companyId' runId' : Uuid} (hne : ¬ (companyId' = delivery.event.companyId ∧ runId' = runId)) :
    longestPrefix companyId' runId'
        (applyNext consumerKey delivery runId (last + 1) last observedAt w.consumer) =
      longestPrefix companyId' runId' w.consumer := by
  have hother {o : ConsumerRunOffsetRow} (hcompany : o.companyId = companyId')
      (hrun : o.runId = runId') :
      isOffset consumerKey delivery.event.companyId runId o = false := by
    by_contra hisOffset
    simp only [isOffset, decide_eq_true_eq, Bool.not_eq_false] at hisOffset
    exact hne ⟨hcompany.symm.trans hisOffset.2.1, hrun.symm.trans hisOffset.2.2⟩
  apply Nat.le_antisymm
  · refine longestPrefix_le_iff.mpr fun o ho hcompany hrun => ?_
    rcases (mem_offsets_applyNext hinv hlast).mp ho with ⟨ho, -⟩ | ⟨o₀, -, hisOffset, rfl⟩
    · exact longestPrefix_le_iff.mp (Nat.le_refl _) o ho hcompany hrun
    · exact absurd hisOffset (by rw [hother (o := o₀) hcompany hrun]; decide)
  · refine longestPrefix_le_iff.mpr fun o ho hcompany hrun => ?_
    exact longestPrefix_le_iff.mp (Nat.le_refl _) o
      ((mem_offsets_applyNext hinv hlast).mpr (.inl ⟨ho, hother hcompany hrun⟩)) hcompany hrun

end Next

/-! ### The projection of the next event -/

/-- The row of the run is written, unless the one there is newer. -/
theorem mem_upsertProjection {row r : Gate01ProjectionRow} {rows : List Gate01ProjectionRow}
    (h : r ∈ upsertProjection row rows) :
    (r ∈ rows ∧ (isProjection row.companyId row.runId r = true →
        row.lastSequence ≤ r.lastSequence)) ∨
      (r = row ∧ ((∀ r₀ ∈ rows, isProjection row.companyId row.runId r₀ = false) ∨
        ∃ r₀ ∈ rows, isProjection row.companyId row.runId r₀ = true ∧
          r₀.lastSequence < row.lastSequence)) := by
  unfold upsertProjection at h
  split at h
  · obtain ⟨r₀, hr₀, rfl⟩ := Table.mem_updateWhere.mp h
    split
    · next hselected =>
        simp only [decide_eq_true_eq] at hselected
        exact .inr ⟨rfl, .inr ⟨r₀, hr₀, hselected⟩⟩
    · next hselected =>
        simp only [decide_eq_true_eq, not_and, not_lt] at hselected
        exact .inl ⟨hr₀, hselected⟩
  · next hnone =>
      have hfree : ∀ r₀ ∈ rows, isProjection row.companyId row.runId r₀ = false := by
        simpa using hnone
      rcases List.mem_append.mp h with hr | hr
      · exact .inl ⟨hr, fun hkey => absurd hkey (by rw [hfree r hr]; decide)⟩
      · exact .inr ⟨List.mem_singleton.mp hr, .inl hfree⟩

theorem mem_upsertProjection_of_ne {row r : Gate01ProjectionRow} {rows : List Gate01ProjectionRow}
    (hr : r ∈ rows) (hne : isProjection row.companyId row.runId r = false) :
    r ∈ upsertProjection row rows := by
  unfold upsertProjection
  split
  · exact Table.mem_updateWhere.mpr ⟨r, hr, by simp [hne]⟩
  · exact List.mem_append_left _ hr

theorem exists_mem_upsertProjection (row : Gate01ProjectionRow)
    (rows : List Gate01ProjectionRow) :
    ∃ r ∈ upsertProjection row rows, isProjection row.companyId row.runId r = true := by
  unfold upsertProjection
  split
  · next hsome =>
      obtain ⟨r₀, hr₀, hkey⟩ := List.any_eq_true.mp hsome
      refine ⟨_, Table.mem_updateWhere.mpr ⟨r₀, hr₀, rfl⟩, ?_⟩
      split
      · simp [isProjection]
      · exact hkey
  · exact ⟨row, List.mem_append_right _ List.mem_cons_self, by simp [isProjection]⟩

theorem nodup_upsertProjection {row : Gate01ProjectionRow} {rows : List Gate01ProjectionRow}
    (h : (rows.map fun r => (r.companyId, r.runId)).Nodup) :
    ((upsertProjection row rows).map fun r => (r.companyId, r.runId)).Nodup := by
  unfold upsertProjection
  split
  · have hkeys : (Table.updateWhere
        (fun r => isProjection row.companyId row.runId r ∧ r.lastSequence < row.lastSequence)
        (fun _ => row) rows).map (fun r => (r.companyId, r.runId)) =
          rows.map fun r => (r.companyId, r.runId) := by
      rw [Table.updateWhere, List.map_map]
      refine List.map_congr_left fun r _ => ?_
      rw [Function.comp_apply]
      split
      · next hselected =>
          simp only [isProjection, decide_eq_true_eq] at hselected
          rw [hselected.1.1, hselected.1.2]
      · rfl
    exact hkeys ▸ h
  · next hnone =>
      rw [List.map_append, List.map_singleton]
      refine List.Nodup.append h (List.nodup_singleton _) fun key hkey hmem => ?_
      rw [List.mem_singleton.mp hmem] at hkey
      obtain ⟨r, hr, heq⟩ := List.mem_map.mp hkey
      obtain ⟨hcompany, hrun⟩ := Prod.mk.inj heq
      exact hnone (List.any_eq_true.mpr ⟨r, hr, by simp [isProjection, hcompany, hrun]⟩)

/-- No approval stands between the longest prefix and the prefix with the next event,
where the next event is none. -/
theorem ProjectsPrefix.next_other {companyId runId : Uuid} {n m : ℕ}
    (h : ProjectsPrefix w companyId runId n) (hdb : w'.db = w.db) (hnm : n ≤ m)
    (hprojection : ∀ r, isProjection companyId runId r = true →
      (r ∈ w'.consumer.gate01Projection ↔ r ∈ w.consumer.gate01Projection))
    (hnone : ∀ sequence event, n < sequence → sequence ≤ m →
      ¬ IsApproval w.db companyId runId sequence event) :
    ProjectsPrefix w' companyId runId m := by
  have hwithin {sequence : ℕ} {event : DomainEventRow} (hle : sequence ≤ m)
      (happroval : IsApproval w.db companyId runId sequence event) : sequence ≤ n := by
    by_contra hgt
    exact hnone sequence event (not_le.mp hgt) hle happroval
  constructor
  · intro row hrow hkey
    obtain ⟨sequence, event, hle, happroval, hshows, hlast⟩ :=
      h.shown row ((hprojection row hkey).mp hrow) hkey
    rw [hdb]
    exact ⟨sequence, event, hle.trans hnm, happroval, hshows, fun sequence' event' hle' happroval' =>
      hlast sequence' event' (hwithin hle' happroval') happroval'⟩
  · intro sequence event hle happroval
    rw [hdb] at happroval
    obtain ⟨row, hrow, hkey⟩ := h.covered sequence event (hwithin hle happroval) happroval
    exact ⟨row, (hprojection row hkey).mpr hrow, hkey⟩

theorem ProjectsPrefix.next_approval {companyId runId : Uuid} {n sequence : ℕ}
    {event : DomainEventRow} {row : Gate01ProjectionRow} (h : ProjectsPrefix w companyId runId n)
    (hdb : w'.db = w.db) (happroval : IsApproval w.db companyId runId sequence event)
    (hshows : Shows row sequence event)
    (hkey : row.companyId = companyId ∧ row.runId = runId)
    (hprojection : w'.consumer.gate01Projection =
      upsertProjection row w.consumer.gate01Projection) :
    ProjectsPrefix w' companyId runId (max n sequence) := by
  obtain ⟨rfl, rfl⟩ := hkey
  constructor
  · intro r hr hkey
    rw [hprojection] at hr
    rcases mem_upsertProjection hr with ⟨hr, hnewer⟩ | ⟨rfl, hold⟩
    · obtain ⟨sequence₀, event₀, hle, happroval₀, hshows₀, hlast⟩ := h.shown r hr hkey
      have hge : sequence ≤ sequence₀ := by
        rw [← hshows₀.lastSequence, ← hshows.lastSequence]
        exact hnewer hkey
      rw [max_eq_left (hge.trans hle), hdb]
      exact ⟨sequence₀, event₀, hle, happroval₀, hshows₀, hlast⟩
    · rw [hdb]
      refine ⟨sequence, event, le_max_right _ _, happroval, hshows, ?_⟩
      intro sequence' event' hle' happroval'
      by_cases hwithin : sequence' ≤ n
      · rcases hold with hnone | ⟨r₀, hr₀, hkey₀, holder⟩
        · obtain ⟨r₀, hr₀, hkey₀⟩ := h.covered sequence' event' hwithin happroval'
          exact absurd hkey₀ (by rw [hnone r₀ hr₀]; decide)
        · obtain ⟨sequence₀, _, -, -, hshows₀, hlast⟩ := h.shown r₀ hr₀ hkey₀
          have := hlast sequence' event' hwithin happroval'
          rw [hshows₀.lastSequence, hshows.lastSequence] at holder
          omega
      · omega
  · intro _ _ _ _
    rw [hprojection]
    exact exists_mem_upsertProjection row _

theorem AppliesPrefix.next (hinv : ConsumerInv w) {delivery : ValidatedDelivery} {runId : Uuid}
    {last : ℕ} {observedAt : Timestamp}
    (hrow : w.consumer.consumerRunOffsets.any
      (isOffset consumerKey delivery.event.companyId runId) = true)
    (hlast : lastSequence consumerKey delivery.event.companyId runId w.consumer = last)
    (hevent : delivery.event ∈ w.db.domainEvents)
    (hplace : delivery.event.place = some (delivery.event.companyId, runId, last + 1))
    (key : String) (companyId' runId' : Uuid) :
    AppliesPrefix (write (applyNext consumerKey delivery runId (last + 1) last observedAt) w) key
      companyId' runId' := by
  have hhistory := hinv.prefixes key companyId' runId'
  have hoffset : lastSequence key companyId' runId'
      (applyNext consumerKey delivery runId (last + 1) last observedAt w.consumer) =
        if key = consumerKey ∧ companyId' = delivery.event.companyId ∧ runId' = runId then last + 1
        else lastSequence key companyId' runId' w.consumer := by
    rw [← lastSequence_applyNext hrow, hlast]
  constructor
  · intro event hevent' sequence hplace'
    have hsame : event.id = delivery.event.id ↔ event = delivery.event :=
      ⟨List.inj_on_of_nodup_map hinv.ids hevent' hevent, fun heq => by rw [heq]⟩
    change Applied key event.id (applyNext consumerKey delivery runId (last + 1) last observedAt
      w.consumer) ↔ 1 ≤ sequence ∧ sequence ≤ lastSequence key companyId' runId'
        (applyNext consumerKey delivery runId (last + 1) last observedAt w.consumer)
    rw [applied_append rfl, hhistory.applied event hevent' sequence hplace', hoffset]
    by_cases hkey : key = consumerKey ∧ companyId' = delivery.event.companyId ∧ runId' = runId
    · obtain ⟨rfl, rfl, rfl⟩ := hkey
      rw [if_pos ⟨rfl, rfl, rfl⟩, hlast]
      constructor
      · rintro (⟨hpos, hle⟩ | ⟨-, hid⟩)
        · exact ⟨hpos, Nat.le_succ_of_le hle⟩
        · rw [hsame.mp hid.symm, hplace] at hplace'
          obtain ⟨-, -, rfl⟩ := Prod.mk.inj (Option.some.inj hplace')
          exact ⟨Nat.succ_pos _, Nat.le_refl _⟩
      · rintro ⟨hpos, hle⟩
        rcases Nat.le_succ_iff.mp hle with hle | rfl
        · exact .inl ⟨hpos, hle⟩
        · have heq := eq_of_nodup_filterMap hinv.places hevent' hevent hplace' hplace
          exact .inr ⟨rfl, by rw [heq]⟩
    · rw [if_neg hkey]
      refine ⟨fun h => h.resolve_right ?_, .inl⟩
      rintro ⟨rfl, hid⟩
      rw [hsame.mp hid.symm, hplace] at hplace'
      obtain ⟨rfl, hrest⟩ := Prod.mk.inj (Option.some.inj hplace')
      exact hkey ⟨rfl, rfl, (Prod.mk.inj hrest).1.symm⟩
  · intro sequence hpos hle
    change sequence ≤ lastSequence key companyId' runId'
      (applyNext consumerKey delivery runId (last + 1) last observedAt w.consumer) at hle
    rw [hoffset] at hle
    split at hle
    · next hkey =>
        obtain ⟨rfl, rfl, rfl⟩ := hkey
        rcases Nat.le_succ_iff.mp hle with hle | rfl
        · exact hhistory.complete sequence hpos (hlast ▸ hle)
        · exact ⟨delivery.event, hevent, hplace⟩
    · exact hhistory.complete sequence hpos hle

theorem ProjectsPrefix.next (hinv : ConsumerInv w) {delivery : ValidatedDelivery} {runId : Uuid}
    {last : ℕ} {observedAt : Timestamp}
    (hrow : w.consumer.consumerRunOffsets.any
      (isOffset consumerKey delivery.event.companyId runId) = true)
    (hlast : lastSequence consumerKey delivery.event.companyId runId w.consumer = last)
    (hevent : delivery.event ∈ w.db.domainEvents)
    (hplace : delivery.event.place = some (delivery.event.companyId, runId, last + 1))
    (companyId' runId' : Uuid) :
    ProjectsPrefix (write (applyNext consumerKey delivery runId (last + 1) last observedAt) w)
      companyId' runId' (longestPrefix companyId' runId'
        (applyNext consumerKey delivery runId (last + 1) last observedAt w.consumer)) := by
  have hprojected := hinv.projected companyId' runId'
  by_cases hkey : companyId' = delivery.event.companyId ∧ runId' = runId
  · obtain ⟨rfl, rfl⟩ := hkey
    rw [longestPrefix_applyNext hinv hrow hlast]
    by_cases happroval : delivery.event.eventType = .approvalDecided
    · have hshows : Shows (projectionRow delivery.event runId' (last + 1) observedAt) (last + 1)
          delivery.event := ⟨rfl, rfl, rfl⟩
      refine hprojected.next_approval rfl ⟨Nat.succ_pos _, hevent, happroval, hplace⟩ hshows
        ⟨rfl, rfl⟩ ?_
      exact if_pos happroval
    · refine hprojected.next_other rfl (le_max_left _ _) (fun r _ => ?_) ?_
      · change r ∈ (if delivery.event.eventType = .approvalDecided then _ else _) ↔ _
        rw [if_neg happroval]
      · intro sequence event hgt hle hisApproval
        have hlastLe : last ≤ longestPrefix delivery.event.companyId runId' w.consumer := by
          obtain ⟨o, ho, hisOffset⟩ := List.any_eq_true.mp hrow
          rw [← lastSequence_of_isOffset hinv hlast ho hisOffset]
          simp only [isOffset, decide_eq_true_eq] at hisOffset
          exact longestPrefix_le_iff.mp (Nat.le_refl _) o ho hisOffset.2.1 hisOffset.2.2
        obtain rfl : sequence = last + 1 := by omega
        have heq := eq_of_nodup_filterMap hinv.places hisApproval.mem hevent hisApproval.place
          hplace
        exact happroval (heq ▸ hisApproval.approval)
  · rw [longestPrefix_applyNext_of_ne hinv hlast hkey]
    refine hprojected.next_other rfl (Nat.le_refl _) (fun r hr => ?_)
      fun sequence event hgt hle _ => absurd hle (not_le.mpr hgt)
    have hother : isProjection delivery.event.companyId runId r = false := by
      by_contra hsame
      simp only [isProjection, decide_eq_true_eq, Bool.not_eq_false] at hr hsame
      exact hkey ⟨hr.1.symm.trans hsame.1, hr.2.symm.trans hsame.2⟩
    change r ∈ (if delivery.event.eventType = .approvalDecided then
      upsertProjection (projectionRow delivery.event runId (last + 1) observedAt)
        w.consumer.gate01Projection else w.consumer.gate01Projection) ↔ _
    split
    · constructor
      · intro hmem
        rcases mem_upsertProjection hmem with ⟨hr', -⟩ | ⟨rfl, -⟩
        · exact hr'
        · simp [isProjection, projectionRow] at hother
      · exact fun hr' => mem_upsertProjection_of_ne hr' hother
    · rfl

theorem ConsumerInv.next (hinv : ConsumerInv w) {delivery : ValidatedDelivery} {runId : Uuid}
    {last : ℕ} {observedAt : Timestamp}
    (hrow : w.consumer.consumerRunOffsets.any
      (isOffset consumerKey delivery.event.companyId runId) = true)
    (hlast : lastSequence consumerKey delivery.event.companyId runId w.consumer = last)
    (hevent : delivery.event ∈ w.db.domainEvents)
    (hplace : delivery.event.place = some (delivery.event.companyId, runId, last + 1))
    (hnew : ¬ Applied consumerKey delivery.event.id w.consumer) :
    ConsumerInv (write (applyNext consumerKey delivery runId (last + 1) last observedAt) w) where
  ids := hinv.ids
  places := hinv.places
  messages := hinv.messages
  inboxOnce := inboxOnce_append hinv hnew
  inboxEvents := inboxEvents_append hinv hevent rfl
  offsets o ho := by
    change lastSequence o.consumerKey o.companyId o.runId
      (applyNext consumerKey delivery runId (last + 1) last observedAt w.consumer) = _
    rw [← hlast, lastSequence_applyNext hrow, hlast]
    rcases (mem_offsets_applyNext hinv hlast).mp ho with ⟨ho, hisOffset⟩ | ⟨o₀, -, hisOffset, rfl⟩
    · rw [if_neg, hinv.offsets o ho]
      simpa [isOffset] using hisOffset
    · rw [if_pos]
      simpa [isOffset] using hisOffset
  prefixes := AppliesPrefix.next hinv hrow hlast hevent hplace
  projectionOnce := by
    change ((if delivery.event.eventType = .approvalDecided then _ else _ :
      List Gate01ProjectionRow).map _).Nodup
    split
    · exact nodup_upsertProjection hinv.projectionOnce
    · exact hinv.projectionOnce
  projected := ProjectsPrefix.next hinv hrow hlast hevent hplace
  acknowledged := acknowledged_append hinv rfl rfl
  published := published_append hinv rfl

/-! ## Steps -/

theorem ConsumerInv.transacts (hinv : ConsumerInv w) {result : ConsumerProbeResult}
    (h : Transacts consumerKey w result w') : ConsumerInv w' := by
  cases h with
  | quiet hdb hsame happlied hdeduped => exact hinv.quiet hdb hsame
  | @next delivery runId last observedAt hlast hdelivers hplace hnew =>
      have hoffset := sameProgress_withOffset consumerKey delivery.event.companyId runId
        observedAt w.consumer
      have hinv₁ : ConsumerInv
          (write (withOffset consumerKey delivery.event.companyId runId observedAt) w) :=
        hinv.quiet rfl hoffset
      exact hinv₁.next (any_insertOffset _ _ _ _) ((hoffset.offset _ _ _).trans hlast)
        hdelivers.event hplace (fun h => hnew ((hoffset.applied _ _).mp h))
  | company hdelivers hplace hnew => exact hinv.company hdelivers.event rfl hplace hnew

theorem Transacts.applied_mono {result : ConsumerProbeResult}
    (h : Transacts consumerKey w result w') {key : String} {eventId : Uuid}
    (happlied : Applied key eventId w.consumer) : Applied key eventId w'.consumer := by
  cases h with
  | quiet hdb hsame hnot hdeduped => exact (hsame.applied key eventId).mpr happlied
  | next hlast hdelivers hplace hnew => exact (applied_append rfl).mpr (.inl happlied)
  | company hdelivers hplace hnew => exact (applied_append rfl).mpr (.inl happlied)

/-- What holds of a call that goes on to acknowledge its message. -/
def PendingAcknowledgement.Holds (w : ProofWorld) (p : PendingAcknowledgement) : Prop :=
  Applied p.consumerKey p.delivery.event.id w.consumer ∧
    Sent w.db p.delivery.outbox.id p.delivery.event.id

theorem Delivers.sent {delivery : ValidatedDelivery} (h : Delivers w.db delivery) :
    Sent w.db delivery.outbox.id delivery.event.id :=
  ⟨delivery.outbox, h.outbox, rfl, h.id.symm⟩

/-- The event of a call that goes on is applied. -/
theorem Transacts.pending {result : ConsumerProbeResult} {observedAt : Timestamp}
    (h : Transacts consumerKey w result w') {p : PendingAcknowledgement}
    (hp : p ∈ ConsumerSystem.pendingOf consumerKey observedAt result) : p.Holds w' := by
  cases h with
  | quiet hdb hsame happlied hdeduped =>
      cases result with
      | applied delivery => exact absurd rfl (happlied delivery)
      | deduped delivery =>
          obtain rfl := List.mem_singleton.mp hp
          obtain ⟨hdelivers, hknown⟩ := hdeduped delivery rfl
          exact ⟨(hsame.applied _ _).mpr hknown, hdb ▸ hdelivers.sent⟩
      | deferred => cases hp
      | quarantined => cases hp
  | next hlast hdelivers hplace hnew =>
      obtain rfl := List.mem_singleton.mp hp
      exact ⟨(applied_append rfl).mpr (.inr ⟨rfl, rfl⟩), hdelivers.sent⟩
  | company hdelivers hplace hnew =>
      obtain rfl := List.mem_singleton.mp hp
      exact ⟨(applied_append rfl).mpr (.inr ⟨rfl, rfl⟩), hdelivers.sent⟩

theorem Transacts.db_eq {result : ConsumerProbeResult} (h : Transacts consumerKey w result w') :
    w'.db = w.db := by
  cases h with
  | quiet hdb => exact hdb
  | next => rfl
  | company => rfl

/-- Publishing keeps what the messages carry. -/
theorem sent_publish {db : ProofDb} {messageId eventId messageId' eventId' : Uuid}
    {observedAt : Timestamp} (h : Sent db messageId eventId) :
    Sent { db with outboxMessages := publish messageId' eventId' observedAt db.outboxMessages }
      messageId eventId := by
  obtain ⟨m, hm, hid, hevent⟩ := h
  refine ⟨_, Table.mem_updateWhere.mpr ⟨m, hm, rfl⟩, ?_⟩
  split
  · exact ⟨hid, hevent⟩
  · exact ⟨hid, hevent⟩

theorem ConsumerInv.acknowledge (hinv : ConsumerInv w) {delivery : ValidatedDelivery}
    (observedAt : Timestamp) (happlied : Applied consumerKey delivery.event.id w.consumer)
    (hsent : Sent w.db delivery.outbox.id delivery.event.id) :
    ConsumerInv (acknowledge consumerKey delivery observedAt w) where
  ids := hinv.ids
  places := hinv.places
  messages := by
    change ((publish delivery.outbox.id delivery.event.id observedAt w.db.outboxMessages).map
      OutboxMessageRow.id).Nodup
    rw [publish, Table.map_updateWhere]
    · exact hinv.messages
    · exact fun _ => rfl
  inboxOnce := hinv.inboxOnce
  inboxEvents := hinv.inboxEvents
  offsets := hinv.offsets
  prefixes key companyId runId :=
    ⟨(hinv.prefixes key companyId runId).applied, (hinv.prefixes key companyId runId).complete⟩
  projectionOnce := hinv.projectionOnce
  projected companyId runId := by
    have hprojected := hinv.projected companyId runId
    have happroval {sequence : ℕ} {event : DomainEventRow} (h : IsApproval w.db companyId runId
        sequence event) : IsApproval (Gate01OutboxConsumerProbe.acknowledge consumerKey delivery
          observedAt w).db companyId runId sequence event := ⟨h.pos, h.mem, h.approval, h.place⟩
    constructor
    · intro row hrow hkey
      obtain ⟨sequence, event, hle, hisApproval, hshows, hlast⟩ := hprojected.shown row hrow hkey
      exact ⟨sequence, event, hle, happroval hisApproval, hshows, fun sequence' event' hle' h' =>
        hlast sequence' event' hle' ⟨h'.pos, h'.mem, h'.approval, h'.place⟩⟩
    · intro sequence event hle h'
      exact hprojected.covered sequence event hle ⟨h'.pos, h'.mem, h'.approval, h'.place⟩
  acknowledged a ha := by
    simp only [Gate01OutboxConsumerProbe.acknowledge, insertAcknowledgement] at ha
    have hkept (h : a ∈ w.consumer.consumerOutboxAcknowledgements) :
        Applied a.consumerKey a.eventId w.consumer ∧ Sent (Gate01OutboxConsumerProbe.acknowledge
          consumerKey delivery observedAt w).db a.outboxMessageId a.eventId :=
      (hinv.acknowledged a h).imp_right sent_publish
    split at ha
    · exact hkept ha
    · rcases List.mem_append.mp ha with ha | ha
      · exact hkept ha
      · obtain rfl := List.mem_singleton.mp ha
        exact ⟨happlied, sent_publish hsent⟩
  published m hm hpublished := by
    obtain ⟨m₀, hm₀, rfl⟩ := Table.mem_updateWhere.mp hm
    split at hpublished
    · next hselected =>
        simp only [decide_eq_true_eq] at hselected
        rw [if_pos (by simpa using hselected)]
        exact ⟨consumerKey, hselected.2 ▸ happlied⟩
    · next hselected =>
        rw [if_neg hselected]
        exact hinv.published m₀ hm₀ hpublished

/-- Events and messages are appended. -/
theorem ConsumerInv.produce (hinv : ConsumerInv w) {write : ProducerWrite}
    (hallowed : write.allowed w.db) : ConsumerInv { w with db := write.apply w.db } := by
  obtain ⟨⟨hids, hplaces⟩, hmessageIds, hmessages⟩ := hallowed
  have hold {event : DomainEventRow} (h : event ∈ w.db.domainEvents) :
      event ∈ (write.apply w.db).domainEvents := List.mem_append_left _ h
  -- an event at a place that is taken is the event that took it
  have htaken {event : DomainEventRow} {place : Uuid × Uuid × ℕ}
      (h : event ∈ (write.apply w.db).domainEvents) (hplace : event.place = some place)
      (hexists : ∃ event' ∈ w.db.domainEvents, event'.place = some place) :
      event ∈ w.db.domainEvents := by
    obtain ⟨event', hevent', hplace'⟩ := hexists
    exact eq_of_nodup_filterMap hplaces (hold hevent') h hplace' hplace ▸ hevent'
  have hwithin {companyId runId : Uuid} {sequence : ℕ} {event : DomainEventRow}
      (hle : sequence ≤ longestPrefix companyId runId w.consumer)
      (h : IsApproval (write.apply w.db) companyId runId sequence event) :
      IsApproval w.db companyId runId sequence event := by
    refine ⟨h.pos, htaken h.mem h.place ?_, h.approval, h.place⟩
    have hpos := h.pos
    rcases exists_longestPrefix companyId runId w.consumer with hzero | ⟨o, ho, rfl, rfl, hlast⟩
    · omega
    · exact (hinv.prefixes o.consumerKey o.companyId o.runId).complete sequence h.pos
        (by rw [hinv.offsets o ho, hlast]; exact hle)
  constructor
  · exact hids
  · exact hplaces
  · exact hmessageIds
  · exact hinv.inboxOnce
  · intro r hr
    obtain ⟨event, hevent, hid⟩ := hinv.inboxEvents r hr
    exact ⟨event, hold hevent, hid⟩
  · exact hinv.offsets
  · intro key companyId runId
    have hhistory := hinv.prefixes key companyId runId
    constructor
    · intro event hevent sequence hplace
      constructor
      · rintro ⟨r, hr, hkey, hid⟩
        obtain ⟨event', hevent', hid'⟩ := hinv.inboxEvents r hr
        have heq := List.inj_on_of_nodup_map hids hevent (hold hevent') (hid.symm.trans hid'.symm)
        exact (hhistory.applied event (heq ▸ hevent') sequence hplace).mp ⟨r, hr, hkey, hid⟩
      · rintro ⟨hpos, hle⟩
        exact (hhistory.applied event (htaken hevent hplace (hhistory.complete sequence hpos hle))
          sequence hplace).mpr ⟨hpos, hle⟩
    · intro sequence hpos hle
      obtain ⟨event, hevent, hplace⟩ := hhistory.complete sequence hpos hle
      exact ⟨event, hold hevent, hplace⟩
  · exact hinv.projectionOnce
  · intro companyId runId
    have hprojected := hinv.projected companyId runId
    constructor
    · intro row hrow hkey
      obtain ⟨sequence, event, hle, h, hshows, hlast⟩ := hprojected.shown row hrow hkey
      exact ⟨sequence, event, hle, ⟨h.pos, hold h.mem, h.approval, h.place⟩, hshows,
        fun sequence' event' hle' h' => hlast sequence' event' hle' (hwithin hle' h')⟩
    · intro sequence event hle h
      exact hprojected.covered sequence event hle (hwithin hle h)
  · intro a ha
    obtain ⟨happlied, m, hm, hsent⟩ := hinv.acknowledged a ha
    exact ⟨happlied, m, List.mem_append_left _ hm, hsent⟩
  · intro m hm hpublished
    rcases List.mem_append.mp hm with hm | hm
    · exact hinv.published m hm hpublished
    · rw [hmessages m hm] at hpublished
      cases hpublished

/-! ## Runs -/

structure ConsumerSystem.Inv (s : ConsumerSystem) : Prop where
  world : ConsumerInv s.world
  pending : ∀ p ∈ s.pending, p.Holds s.world

theorem ConsumerSystem.Inv.step {platform : ConsumerPlatform} {s : ConsumerSystem}
    (hinv : s.Inv) (act : ConsumerAction) : (s.step platform act).Inv := by
  cases act with
  | validateAndApply consumerKey candidate observedAt =>
      have htransacts := validateAndApply_transacts platform consumerKey s.world candidate
        observedAt
      refine ⟨hinv.world.transacts htransacts, fun p hp => ?_⟩
      rcases List.mem_append.mp hp with hp | hp
      · obtain ⟨happlied, hsent⟩ := hinv.pending p hp
        exact ⟨htransacts.applied_mono happlied, htransacts.db_eq ▸ hsent⟩
      · exact htransacts.pending hp
  | acknowledge call =>
      unfold ConsumerSystem.step
      dsimp only
      split
      · exact hinv
      · next p hp =>
          obtain ⟨happlied, hsent⟩ := hinv.pending p (List.mem_of_getElem? hp)
          refine ⟨hinv.world.acknowledge p.observedAt happlied hsent, fun p' hp' => ?_⟩
          obtain ⟨happlied', hsent'⟩ := hinv.pending p' (List.mem_of_mem_eraseIdx hp')
          exact ⟨happlied', sent_publish hsent'⟩
  | crash call =>
      exact ⟨hinv.world, fun p hp => hinv.pending p (List.mem_of_mem_eraseIdx hp)⟩
  | produce write =>
      unfold ConsumerSystem.step
      dsimp only
      split
      · next hallowed =>
          refine ⟨hinv.world.produce hallowed, fun p hp => ?_⟩
          obtain ⟨happlied, m, hm, hsent⟩ := hinv.pending p hp
          exact ⟨happlied, m, List.mem_append_left _ hm, hsent⟩
      · exact hinv

theorem ConsumerSystem.inv_initial : initial.Inv where
  world :=
    { ids := List.nodup_nil
      places := List.nodup_nil
      messages := List.nodup_nil
      inboxOnce := List.nodup_nil
      inboxEvents := List.forall_mem_nil _
      offsets := List.forall_mem_nil _
      prefixes := fun _ _ _ =>
        ⟨List.forall_mem_nil _, fun _ hpos hle => absurd (hpos.trans hle) (Nat.not_succ_le_zero 0)⟩
      projectionOnce := List.nodup_nil
      projected := fun _ _ => ⟨List.forall_mem_nil _, fun _ _ _ h => absurd h.mem List.not_mem_nil⟩
      acknowledged := List.forall_mem_nil _
      published := List.forall_mem_nil _ }
  pending := List.forall_mem_nil _

theorem ConsumerSystem.inv_after (platform : ConsumerPlatform) (acts : List ConsumerAction) :
    (after platform acts).Inv :=
  Transition.run_invariant (fun _ act hinv => hinv.step act) inv_initial acts

theorem place_eq_some {event : DomainEventRow} {companyId runId : Uuid} {sequence : ℕ}
    (h : event.place = some (companyId, runId, sequence)) :
    event.runId = some runId ∧ event.runSequence = some sequence := by
  unfold DomainEventRow.place at h
  split at h
  · next hrun hsequence =>
      obtain ⟨-, h⟩ := Prod.mk.inj (Option.some.inj h)
      obtain ⟨rfl, rfl⟩ := Prod.mk.inj h
      exact ⟨hrun, hsequence⟩
  · cases h

/-- The delivered message carries an event of a run with a gap before it. -/
def HasGap (platform : ConsumerPlatform) (consumerKey : String) (candidate : ConsumerDelivery)
    (w : ProofWorld) : Prop :=
  ∃ outbox event runId sequence, lockOutbox platform w.db candidate.outboxMessageId = some outbox ∧
    event ∈ w.db.domainEvents ∧ event.id = outbox.eventId ∧
    event.place = some (event.companyId, runId, sequence) ∧
    lastSequence consumerKey event.companyId runId w.consumer + 1 < sequence

/-- A delivery with a gap changes no receipt, no offset and no projection. -/
theorem sameProgress_of_hasGap {platform : ConsumerPlatform} (hinv : ConsumerInv w)
    {candidate : ConsumerDelivery} (hgap : HasGap platform consumerKey candidate w)
    (observedAt : Timestamp) :
    SameProgress w.consumer
      (validateAndApply platform consumerKey candidate observedAt w).2.consumer := by
  obtain ⟨outbox, event, runId, sequence, hlock, hevent, hid, hplace, hlt⟩ := hgap
  unfold validateAndApply
  rw [hlock]
  dsimp only
  split
  · exact ⟨rfl, fun _ _ _ => rfl, fun _ h => .inl h, fun _ h => h, rfl, rfl⟩
  · next delivery hdelivery =>
      obtain ⟨rfl, hmem, -, hdeliveryId⟩ := validateDelivery_eq_ok hdelivery
      obtain rfl : delivery.event = event :=
        List.inj_on_of_nodup_map hinv.ids hmem hevent (hdeliveryId.trans hid.symm)
      obtain ⟨hrun, hsequence⟩ := place_eq_some hplace
      rw [hrun, hsequence]
      dsimp only
      refine applyInOrder_of_gap observedAt (fun happlied => ?_) hlt
      have hwithin := ((hinv.prefixes consumerKey delivery.event.companyId runId).applied _ hmem
        sequence hplace).mp happlied
      omega

/-- What holds of the tables of the consumers in a state: each consumer has applied a
prefix of each run, once; the projection of a run shows the last approval in the longest
of these prefixes, which is that of the consumer when there is one only; a delivery with a gap changes nothing of this; and a message is
acknowledged, or published, after its event was applied. -/
structure PrefixOnce (platform : ConsumerPlatform) (w : ProofWorld) : Prop where
  inboxOnce : (w.consumer.projectionInbox.map fun r => (r.consumerKey, r.eventId)).Nodup
  applies : ∀ key companyId runId, AppliesPrefix w key companyId runId
  projectionOnce : (w.consumer.gate01Projection.map fun r => (r.companyId, r.runId)).Nodup
  projects : ∀ companyId runId,
    ProjectsPrefix w companyId runId (longestPrefix companyId runId w.consumer)
  single : ∀ key companyId runId, (∀ o ∈ w.consumer.consumerRunOffsets,
      o.companyId = companyId → o.runId = runId → o.consumerKey = key) →
    longestPrefix companyId runId w.consumer = lastSequence key companyId runId w.consumer
  gap : ∀ key candidate observedAt, HasGap platform key candidate w →
    SameProgress w.consumer (validateAndApply platform key candidate observedAt w).2.consumer
  acknowledged : ∀ a ∈ w.consumer.consumerOutboxAcknowledgements, ∀ m ∈ w.db.outboxMessages,
    m.id = a.outboxMessageId → Applied a.consumerKey m.eventId w.consumer
  published : ∀ m ∈ w.db.outboxMessages, m.publishedAt.isSome →
    ∃ key, Applied key m.eventId w.consumer

/-- Every state of the consumers. -/
theorem prefixOnce_after (platform : ConsumerPlatform) (acts : List ConsumerAction) :
    PrefixOnce platform (ConsumerSystem.after platform acts).world := by
  have hinv := (ConsumerSystem.inv_after platform acts).world
  refine ⟨hinv.inboxOnce, hinv.prefixes, hinv.projectionOnce, hinv.projected,
    fun key companyId runId => longestPrefix_of_single hinv,
    fun key candidate observedAt hgap => sameProgress_of_hasGap hinv hgap observedAt, ?_,
    hinv.published⟩
  intro a ha m hm hid
  obtain ⟨happlied, m', hm', hid', hevent⟩ := hinv.acknowledged a ha
  obtain rfl := List.inj_on_of_nodup_map hinv.messages hm hm' (hid.trans hid'.symm)
  exact hevent ▸ happlied

/-- A call that nothing interrupts is its two transactions one after the other, and one
that crashes leaves the second out. -/
theorem consume_eq_run (platform : ConsumerPlatform) (candidate : ConsumerDelivery)
    (observedAt : Timestamp) (crash : Bool) :
    ∃ acts, (consume platform consumerKey candidate observedAt crash w).2 =
      (Transition.run (ConsumerSystem.step platform) ⟨w, []⟩
        (.validateAndApply consumerKey candidate observedAt :: acts)).world := by
  unfold consume
  split
  · next delivery w' happly =>
      split
      · exact ⟨[], by simp [ConsumerSystem.step, happly]⟩
      · exact ⟨[.acknowledge 0], by simp [ConsumerSystem.step, ConsumerSystem.pendingOf, happly]⟩
  · next delivery w' happly =>
      exact ⟨[.acknowledge 0], by simp [ConsumerSystem.step, ConsumerSystem.pendingOf, happly]⟩
  · next happly => exact ⟨[], by simp [ConsumerSystem.step, happly]⟩

/-! ## Two consumers of one run -/

/-- A platform that reads the identifiers of the messages and the numbers of the events. -/
def demoPlatform : ConsumerPlatform where
  rt := .sample id
  readUuid text := [12, 13].find? fun id => Uuid.text id = text
  dateParse _ := some 0
  toNumber v := [1, 2].find? fun n => Json.strictEquals (some v) (some (.nat n))

def demoEvent (id : Uuid) (eventType : EventType) (sequence : ℕ) (aggregateType : String)
    (aggregateId causationId : Uuid) (payload : Json) : DomainEventRow where
  id := id
  eventSchema := "domain-event/v1"
  eventType := eventType
  companyId := 1
  runId := some 2
  runSequence := some sequence
  aggregateType := aggregateType
  aggregateId := aggregateId
  actorFounderId := 0
  correlationId := 3
  causationId := causationId
  occurredAt := []
  payload := payload
  payloadDigest := safeDigest demoPlatform (some payload)

def demoPolicyEvent : DomainEventRow :=
  demoEvent 4 .policyDecided 1 "PolicyDecision" 5 6
    (.object [("schema_version", .nat 1), ("policy_decision_id", .uuid 5),
      ("result", .text "ALLOW"), ("reason_code", .text "ACTION_ALLOWED")])

def demoApprovalEvent : DomainEventRow :=
  demoEvent 7 .approvalDecided 2 "GateInstance" 8 4
    (.object [("schema_version", .nat 1), ("decision_record_id", .uuid 8),
      ("policy_decision_id", .uuid 5), ("decision", .text "APPROVE"), ("gate", .text "GATE-01"),
      ("gate_instance_id", .uuid 9), ("artifact_version_id", .uuid 10),
      ("resulting_run_state", .text "DESIGNING"), ("continuation_intent_id", .uuid 11)])

def demoMessage (id : Uuid) (event : DomainEventRow) : OutboxMessageRow :=
  let envelope := Json.object [("schema_version", .nat 1), ("event_id", .uuid event.id),
    ("event_type", .text event.eventType.text), ("company_id", .uuid event.companyId),
    ("run_id", Json.orNull .uuid event.runId),
    ("run_sequence", Json.orNull .nat event.runSequence),
    ("correlation_id", .uuid event.correlationId), ("causation_id", .uuid event.causationId),
    ("occurred_at", .text ""), ("payload", event.payload)]
  { id := id
    companyId := event.companyId
    eventId := event.id
    topic := event.eventType.text
    envelope := envelope
    envelopeDigest := safeDigest demoPlatform (some envelope)
    createdAt := []
    publishedAt := none }

def demoWrite : ProducerWrite where
  tables := { ProofDb.empty with
    policyDecisions :=
      [{ id := 5, decisionSchema := "policy-decision/v1", result := .allow,
         reasonCode := "ACTION_ALLOWED", companyId := 1, founderId := 0, sessionId := 0,
         commandId := 6, runId := some 2, gateInstanceId := some 9, artifactId := some 0,
         artifactVersionId := some 10, policyInputDigest := [], policyVersion := [],
         targetingVersionId := some 0, binding := .object [], issuedAt := [], expiresAt := some [],
         maximumUses := 1, correlationId := 3 }]
    founderGateDecisions :=
      [{ id := 8, companyId := 1, runId := 2, gateInstanceId := 9, artifactId := 0,
         artifactVersionId := 10, policyDecisionId := 5, founderId := 0, commandId := 6,
         decision := .approve, feedback := none, feedbackDigest := none,
         feedbackClassification := none, approvalReferencesDigest := [], decidedAt := [],
         correlationId := 3 }]
    continuationIntents :=
      [{ id := 11, companyId := 1, runId := 2, decisionRecordId := 8, policyDecisionId := 5,
         kind := .startDesignFromBrief, logicalKey := [], sourceArtifactVersionId := 10,
         createdAt := [] }]
    gateInstances :=
      [{ id := 9, companyId := 1, runId := 2, artifactId := 0, artifactVersionId := 10,
         artifactVersion := 1, artifactChecksum := [], status := .approved, rowVersion := 2,
         decidedAt := some [] }] }
  events := [demoPolicyEvent, demoApprovalEvent]
  messages := [demoMessage 12 demoPolicyEvent, demoMessage 13 demoApprovalEvent]

/-- One consumer applies both events, the other one the first. -/
def demoActions : List ConsumerAction :=
  [.produce demoWrite,
    .validateAndApply "gate01-proof/v1" ⟨Uuid.text 12, none⟩ 0,
    .validateAndApply "gate01-proof/v1" ⟨Uuid.text 13, none⟩ 0,
    .validateAndApply "gate01-proof/v2" ⟨Uuid.text 12, none⟩ 0]

theorem demoActions_runs :
    (ConsumerSystem.after demoPlatform demoActions).world.consumer.gate01Projection.any
      (fun r => isProjection 1 2 r && r.lastSequence = 2) = true ∧
    lastSequence "gate01-proof/v2" 1 2
      (ConsumerSystem.after demoPlatform demoActions).world.consumer = 1 := by
  decide +kernel

/-- The projection is ahead of the second consumer. -/
theorem projects_fails :
    ¬ ∀ platform acts key companyId runId,
      ProjectsPrefix (ConsumerSystem.after platform acts).world companyId runId
        (lastSequence key companyId runId (ConsumerSystem.after platform acts).world.consumer) := by
  intro hprojects
  obtain ⟨hrow, hlast⟩ := demoActions_runs
  obtain ⟨row, hmem, hrow⟩ := List.any_eq_true.mp hrow
  simp only [Bool.and_eq_true, decide_eq_true_eq] at hrow
  have hhistory := hprojects demoPlatform demoActions "gate01-proof/v2" 1 2
  rw [hlast] at hhistory
  obtain ⟨sequence, event, hle, -, hshows, -⟩ := hhistory.shown row hmem hrow.1
  have := hshows.lastSequence
  omega

end GateProof

end Aico
