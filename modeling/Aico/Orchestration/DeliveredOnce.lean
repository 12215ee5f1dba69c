import Aico.Orchestration.OutboxDelivery

/-!
# Every event is delivered once

The invariant of the outbox: what a publisher holds is what the message says, the tokens
of the publishers differ, and a publisher that is about to acknowledge a message has
found or left the receipt of its event. Every step keeps it, so every event has at most
one receipt and one projection, and a published message has both.
-/

namespace Aico

namespace OutboxPublisher

/-- The publisher holds what the message says. -/
structure IsHeld (m : OutboxMessageRow) (message : OutboxRow) : Prop where
  id : message.id = m.id
  event : message.eventId = m.eventId
  envelope : message.envelope = storedEnvelope m

theorem IsHeld.of_content {m m' : OutboxMessageRow} {message : OutboxRow} (h : IsHeld m message)
    (hcontent : m'.content = m.content) : IsHeld m' message := by
  have hid : m'.id = m.id := congrArg MessageContent.id hcontent
  have heventId : m'.eventId = m.eventId := congrArg MessageContent.eventId hcontent
  have hstored : storedEnvelope m' = storedEnvelope m :=
    congrArg (fun c => c.envelope.toJson.jsonb) hcontent
  exact ⟨h.id.trans hid.symm, h.event.trans heventId.symm, h.envelope.trans hstored.symm⟩

end OutboxPublisher

open OutboxPublisher

structure PublisherPlace.Placed (place : PublisherPlace) (w : World) : Prop where
  held : ∀ message, place.message? = some message → ∃ m ∈ w.db.outboxMessages, IsHeld m message
  consumed : ∀ message, place = .consumed message → Consumed w.db message.eventId
  token : ∀ message, place.message? = some message → message.leaseToken < w.nextId

theorem PublisherPlace.placed_idle (w : World) : idle.Placed w where
  held message h := by cases h
  consumed message h := by cases h
  token message h := by cases h

theorem PublisherPlace.Placed.later {place : PublisherPlace} {w w' : World} (h : place.Placed w)
    (hkeeps : KeepsMessages w.db w'.db) (hreceipts : w.db.inboxReceipts ⊆ w'.db.inboxReceipts)
    (hnext : w.nextId ≤ w'.nextId) : place.Placed w' where
  held message hmessage := by
    obtain ⟨m, hm, hheld⟩ := h.held message hmessage
    obtain ⟨m', hm', hcontent⟩ := hkeeps m hm
    exact ⟨m', hm', hheld.of_content hcontent⟩
  consumed message hplace := by
    obtain ⟨r, hr, hevent⟩ := h.consumed message hplace
    exact ⟨r, hreceipts hr, hevent⟩
  token message hmessage := (h.token message hmessage).trans_le hnext

namespace OutboxSystem

structure Inv (rt : Runtime) (s : OutboxSystem) : Prop where
  log : s.log.Inv
  company : s.log.CompanyUnnumbered
  ids : s.log.MessageIds
  unsent : ∀ i tx, s.log.txs i = some tx → EventLog.Unsent tx
  records : Records rt s.log.world.db
  published : PublishedConsumed s.log.world.db
  placed : ∀ i, (s.publishers i).Placed s.log.world
  apart : ∀ i j message message', i ≠ j → (s.publishers i).message? = some message →
    (s.publishers j).message? = some message' → message.leaseToken ≠ message'.leaseToken

variable {rt : Runtime} {config : ℕ → WorkerConfig} {s : OutboxSystem} {i : ℕ}

theorem Inv.log_step (h : Inv rt s) (act : LogAction) :
    Inv rt { s with log := s.log.step act } := by
  have heffect := s.log.effect_step act
  obtain ⟨new, hmessages, hnew⟩ := heffect.unsent h.unsent
  obtain ⟨hreceipts, hprojections⟩ := heffect.consumer
  have hkeeps : KeepsMessages s.log.world.db (s.log.step act).world.db := by
    intro m hm
    refine ⟨m, ?_, rfl⟩
    rw [hmessages]
    exact List.mem_append_left new hm
  refine
    { log := h.log.step act
      company := h.company.effect heffect
      ids := h.ids.effect heffect
      unsent := heffect.forall_tx EventLog.Move.unsent h.unsent
      records := h.records.of_keeps hkeeps hreceipts hprojections
      published := ?_
      placed := fun i => (h.placed i).later hkeeps (hreceipts ▸ List.Subset.refl _)
        heffect.nextId_le
      apart := h.apart }
  intro m hm hpublished
  change Consumed (s.log.step act).world.db m.eventId
  rw [hmessages] at hm
  rw [Consumed, hreceipts]
  rcases List.mem_append.mp hm with hm | hm
  · exact h.published m hm hpublished
  · rw [hnew m hm] at hpublished
    cases hpublished

/-- A transaction of a publisher keeps the invariant when it only adds to the tables of
the consumer and gives out no token twice. -/
theorem Inv.reach (h : Inv rt s) {w : World} (hsame : SameLog s.log.world.db w.db)
    (hnext : s.log.world.nextId ≤ w.nextId)
    (hreceipts : s.log.world.db.inboxReceipts ⊆ w.db.inboxReceipts)
    (hrecords : Records rt w.db) (hpublished : PublishedConsumed w.db) {place : PublisherPlace}
    (hplaced : place.Placed w)
    (hapart : ∀ j message message', j ≠ i → place.message? = some message →
      (s.publishers j).message? = some message' → message.leaseToken ≠ message'.leaseToken) :
    Inv rt (s.reach w i place) where
  log := h.log.leases hsame hnext
  company := h.company.leases hsame
  ids := h.ids.leases hsame hnext
  unsent := h.unsent
  records := hrecords
  published := hpublished
  placed j := by
    by_cases hj : j = i
    · rw [hj, publishers_reach]
      exact hplaced
    · rw [publishers_reach_of_ne w place hj]
      exact (h.placed j).later hsame.keepsMessages hreceipts hnext
  apart j j' message message' hne hmessage hmessage' := by
    by_cases hj : j = i
    · have hj' : j' ≠ i := fun heq => hne (hj.trans heq.symm)
      rw [hj, publishers_reach] at hmessage
      rw [publishers_reach_of_ne w place hj'] at hmessage'
      exact hapart j' message message' hj' hmessage hmessage'
    · rw [publishers_reach_of_ne w place hj] at hmessage
      by_cases hj' : j' = i
      · rw [hj', publishers_reach] at hmessage'
        exact (hapart j message' message hj hmessage' hmessage).symm
      · rw [publishers_reach_of_ne w place hj'] at hmessage'
        exact h.apart j j' message message' hne hmessage hmessage'

theorem SameLog.refl (db : Db) : SameLog db db := ⟨rfl, rfl, rfl, rfl⟩

/-- Leases are all that such an update changes. -/
theorem sameLog_updateWhere (db : Db) {p : OutboxMessageRow → Bool}
    {f : OutboxMessageRow → OutboxMessageRow} (hf : ∀ m, (f m).content = m.content) :
    SameLog db { db with outboxMessages := Table.updateWhere p f db.outboxMessages } :=
  ⟨rfl, rfl, rfl, Table.map_updateWhere hf db.outboxMessages⟩

/-- A claim gives the publisher what the message says, and a token of its own. -/
theorem Inv.claim (h : Inv rt s) (hidle : s.publishers i = .idle) (locked : List Uuid)
    (options : PublishOptions) :
    Inv rt (s.step rt config (.claim i locked options)) := by
  rw [step_claim hidle]
  dsimp only
  set w := s.log.world with hw
  rcases hcandidate : candidate w.now options.eventId locked w.db with _ | m
  · rw [claim_of_none hcandidate]
    apply h.reach (SameLog.refl _) le_rfl (List.Subset.refl _) h.records h.published
    · exact PublisherPlace.placed_idle w
    · intro j message message' hj hmessage
      cases hmessage
  · obtain ⟨hm, -⟩ := candidate_some hcandidate
    rw [claim_of_some hcandidate]
    set w' : World :=
      { w with
        nextId := w.nextId + 1
        db := lease (config i) w.nextId w.now m.id w.db }
    have hsame : SameLog w.db w'.db := sameLog_updateWhere w.db fun _ => rfl
    have hnext : w.nextId ≤ w'.nextId := Nat.le_succ w.nextId
    have hreceipts : w.db.inboxReceipts ⊆ w'.db.inboxReceipts := List.Subset.refl _
    apply h.reach hsame hnext hreceipts
    · exact h.records.of_keeps hsame.keepsMessages rfl rfl
    · intro m' hm' hpublished
      obtain ⟨m₀, hm₀, rfl⟩ := Table.mem_updateWhere.mp hm'
      split at hpublished
      · rw [if_pos ‹_›]
        exact h.published m₀ hm₀ hpublished
      · rw [if_neg ‹_›]
        exact h.published m₀ hm₀ hpublished
    · obtain ⟨m', hm', hcontent⟩ := hsame.keepsMessages m hm
      have hheld : IsHeld m (heldRow m w.nextId) := ⟨rfl, rfl, rfl⟩
      refine
        { held := ?_
          consumed := ?_
          token := ?_ }
      · intro message hmessage
        rw [← Option.some.inj hmessage]
        exact ⟨m', hm', hheld.of_content hcontent⟩
      · intro message hplace
        cases hplace
      · intro message hmessage
        rw [← Option.some.inj hmessage]
        exact Nat.lt_succ_self w.nextId
    · intro j message message' hj hmessage hmessage'
      rw [← Option.some.inj hmessage]
      exact ((h.placed j).token message' hmessage').ne'

/-- The consumer commits: the receipt is there, or it is inserted with the projection,
which no constraint rejects. -/
theorem Inv.consume_ok (h : Inv rt s) {m : OutboxMessageRow} {message : OutboxRow}
    (hm : m ∈ s.log.world.db.outboxMessages) (hheld : IsHeld m message) :
    ∃ db, consume rt message s.log.world = (.ok ⟨⟩, { s.log.world with db := db }) ∧
      SameLog s.log.world.db db ∧ s.log.world.db.inboxReceipts ⊆ db.inboxReceipts ∧
        Records rt db ∧ Consumed db message.eventId ∧
          db.outboxMessages = s.log.world.db.outboxMessages := by
  set w := s.log.world
  by_cases hconsumed : Consumed w.db message.eventId
  · obtain ⟨r, hr, hevent⟩ := hconsumed
    obtain ⟨m', -, hreceipt⟩ := h.records.receipts r hr
    refine ⟨w.db, consume_of_processed ⟨r, hr, hreceipt.consumer, hevent⟩, SameLog.refl _,
      List.Subset.refl _, h.records, ⟨r, hr, hevent⟩, rfl⟩
  · have hnew : ∀ r ∈ w.db.inboxReceipts, r.eventId ≠ message.eventId :=
      fun r hr heq => hconsumed ⟨r, hr, heq⟩
    obtain ⟨e, he, hcarries⟩ := h.log.intact.orphan m hm
    have hknown : ∃ e ∈ w.db.events, e.id = message.eventId :=
      ⟨e, he, by rw [hheld.event, hcarries.message]⟩
    have happlied : ∀ p ∈ w.db.localEventProjections, p.eventId ≠ message.eventId := by
      intro p hp heq
      have hid : p.eventId ∈ w.db.inboxReceipts.map InboxReceiptRow.eventId := by
        rw [h.records.paired]
        exact List.mem_map_of_mem hp
      obtain ⟨r, hr, hrp⟩ := List.mem_map.mp hid
      exact hnew r hr (hrp.trans heq)
    have hfresh : ∀ p ∈ w.db.localEventProjections, p.eventId ≠ message.eventId ∧
        p.projectionKey ≠ projectionKey message.eventId message.envelope := by
      intro p hp
      refine ⟨happlied p hp, fun hkey => happlied p hp ?_⟩
      obtain ⟨m', hm', hprojection⟩ := h.records.projections p hp
      have hkeys : keyOf m' = keyOf m := by
        rw [← hprojection.key, hkey, hheld.event, hheld.envelope, keyOf]
      rw [hprojection.event, EventLog.eventId_eq_of_keyOf_eq h.log h.company hm' hm hkeys,
        hheld.event]
    refine ⟨recorded rt message w.now w.db, consume_of_new hnew hknown hfresh,
      ⟨rfl, rfl, rfl, rfl⟩, List.subset_append_left .., ?_, ?_, rfl⟩
    · exact h.records.recorded hm hheld.event hheld.envelope hnew w.now
    · exact ⟨receiptRow rt message w.now, List.mem_append_right _ (List.mem_singleton_self _), rfl⟩

theorem Inv.consume (h : Inv rt s) {stopAfterConsumerCommit : Bool} {message : OutboxRow}
    (hplace : s.publishers i = .claimed stopAfterConsumerCommit message) :
    Inv rt (s.step rt config (.consume i)) := by
  have hplaced := h.placed i
  rw [hplace] at hplaced
  obtain ⟨m, hm, hheld⟩ := hplaced.held message rfl
  obtain ⟨db, hconsume, hsame, hreceipts, hrecords, hconsumed, hmessages⟩ :=
    h.consume_ok hm hheld
  rw [step_consume hplace, hconsume]
  set w : World := { s.log.world with db := db }
  have hpublished : PublishedConsumed w.db := by
    intro m' hm' hpublished
    change m' ∈ db.outboxMessages at hm'
    rw [hmessages] at hm'
    obtain ⟨r, hr, hevent⟩ := h.published m' hm' hpublished
    exact ⟨r, hreceipts hr, hevent⟩
  apply h.reach (w := w) hsame le_rfl hreceipts hrecords hpublished
  · dsimp only [consumedPlace]
    split
    · exact PublisherPlace.placed_idle w
    · have hlater := hplaced.later hsame.keepsMessages hreceipts (le_refl w.nextId)
      refine
        { held := hlater.held
          consumed := ?_
          token := hlater.token }
      intro message' heq
      rw [← PublisherPlace.consumed.inj heq]
      exact hconsumed
  · intro j message' message'' hj hmessage hmessage''
    dsimp only [consumedPlace] at hmessage
    split at hmessage
    · cases hmessage
    · apply h.apart i j message' message'' (Ne.symm hj) _ hmessage''
      rw [hplace]
      exact hmessage

/-- Only the lease that the publisher holds is cleared, and its event is consumed. -/
theorem Inv.acknowledge (h : Inv rt s) {message : OutboxRow}
    (hplace : s.publishers i = .consumed message) :
    Inv rt (s.step rt config (.acknowledge i)) := by
  have hplaced := h.placed i
  rw [hplace] at hplaced
  obtain ⟨m, hm, hheld⟩ := hplaced.held message rfl
  rw [step_acknowledge hplace, acknowledge_run]
  set w : World :=
    { s.log.world with db := settle message s.log.world.now s.log.world.db }
  have hsame : SameLog s.log.world.db w.db := sameLog_updateWhere s.log.world.db fun _ => rfl
  have hreceipts : s.log.world.db.inboxReceipts ⊆ w.db.inboxReceipts := List.Subset.refl _
  apply h.reach (w := w) hsame le_rfl hreceipts
  · exact h.records.of_keeps hsame.keepsMessages rfl rfl
  · intro m' hm' hpublished
    obtain ⟨m₀, hm₀, rfl⟩ := Table.mem_updateWhere.mp hm'
    split at hpublished
    next hset =>
      -- the row is the one the publisher holds, since its identifier is
      have hid : m₀.id = m.id := (of_decide_eq_true hset).1.trans hheld.id
      have hrow : m₀ = m := Table.eq_of_key_eq h.ids.nodup hm₀ hm hid
      rw [if_pos hset, hrow]
      exact hheld.event ▸ hplaced.consumed message rfl
    next hset =>
      rw [if_neg hset]
      exact h.published m₀ hm₀ hpublished
  · exact PublisherPlace.placed_idle w
  · intro j message' message'' hj hmessage
    cases hmessage

/-- Every step keeps the invariant. -/
theorem Inv.step (h : Inv rt s) (act : OutboxAction) : Inv rt (s.step rt config act) := by
  cases act with
  | log act => exact h.log_step act
  | claim i locked options =>
      cases hplace : s.publishers i with
      | idle => exact h.claim hplace locked options
      | claimed _ _ | consumed _ =>
          rw [OutboxSystem.step, hplace]
          exact h
  | consume i =>
      cases hplace : s.publishers i with
      | claimed stopAfterConsumerCommit message => exact h.consume hplace
      | idle | consumed _ =>
          rw [OutboxSystem.step, hplace]
          exact h
  | acknowledge i =>
      cases hplace : s.publishers i with
      | consumed message => exact h.acknowledge hplace
      | idle | claimed _ _ =>
          rw [OutboxSystem.step, hplace]
          exact h
  | crash i =>
      apply h.reach (SameLog.refl _) le_rfl (List.Subset.refl _) h.records h.published
      · exact PublisherPlace.placed_idle s.log.world
      · intro j message message' hj hmessage
        cases hmessage

theorem Inv.initial (rt : Runtime) (init : InitialOutbox) : Inv rt init.system where
  log := init.inv
  company := init.companyUnnumbered
  ids := init.messageIds
  unsent i tx htx := by cases htx
  records :=
    { receipts := by simp [InitialOutbox.system, InitialLog.log, init.inboxReceipts]
      projections := by simp [InitialOutbox.system, InitialLog.log, init.localEventProjections]
      paired := by
        simp [InitialOutbox.system, InitialLog.log, init.inboxReceipts,
          init.localEventProjections]
      nodup := by simp [InitialOutbox.system, InitialLog.log, init.inboxReceipts] }
  published := by
    simp [PublishedConsumed, InitialOutbox.system, InitialLog.log, init.outboxMessages]
  placed i := PublisherPlace.placed_idle _
  apart i j message message' hne hmessage := by cases hmessage

theorem inv_after (rt : Runtime) (config : ℕ → WorkerConfig) (init : InitialOutbox)
    (acts : List OutboxAction) : Inv rt (init.system.after rt config acts) :=
  Transition.run_invariant (fun _ act h => h.step act) (.initial rt init) acts

/-! ## Published messages -/

/-- A row that an update does not select stays. -/
theorem mem_updateWhere_of_not {p : OutboxMessageRow → Bool}
    {f : OutboxMessageRow → OutboxMessageRow} {rows : List OutboxMessageRow}
    {m : OutboxMessageRow} (hm : m ∈ rows) (hp : ¬ p m = true) :
    m ∈ Table.updateWhere p f rows :=
  Table.mem_updateWhere.mpr ⟨m, hm, if_neg hp⟩

theorem Inv.published_claim (h : Inv rt s) {m : OutboxMessageRow}
    (hm : m ∈ s.log.world.db.outboxMessages) (hpublished : m.publishedAt.isSome = true)
    (config : WorkerConfig) (locked : List Uuid) (eventId : Option Uuid) :
    m ∈ (OutboxPublisher.claim config locked eventId s.log.world).2.db.outboxMessages := by
  rcases hcandidate : candidate s.log.world.now eventId locked s.log.world.db with _ | m₀
  · rw [claim_of_none hcandidate]
    exact hm
  · obtain ⟨hm₀, hclaimable⟩ := candidate_some hcandidate
    rw [claim_of_some hcandidate]
    apply mem_updateWhere_of_not hm
    intro hid
    have hrow : m = m₀ := Table.eq_of_key_eq h.ids.nodup hm hm₀ (of_decide_eq_true hid)
    have hnone : m₀.publishedAt = none := (of_decide_eq_true hclaimable).1
    rw [hrow, hnone] at hpublished
    cases hpublished

theorem Inv.published_step (h : Inv rt s) {m : OutboxMessageRow}
    (hm : m ∈ s.log.world.db.outboxMessages) (hpublished : m.publishedAt.isSome = true)
    (act : OutboxAction) : m ∈ (s.step rt config act).log.world.db.outboxMessages := by
  cases act with
  | log act =>
      obtain ⟨new, hmessages, -⟩ := (s.log.effect_step act).unsent h.unsent
      change m ∈ (s.log.step act).world.db.outboxMessages
      rw [hmessages]
      exact List.mem_append_left new hm
  | claim i locked options =>
      cases hplace : s.publishers i with
      | idle =>
          rw [step_claim hplace]
          exact h.published_claim hm hpublished (config i) locked options.eventId
      | claimed _ _ | consumed _ =>
          rw [OutboxSystem.step, hplace]
          exact hm
  | consume i =>
      cases hplace : s.publishers i with
      | claimed stopAfterConsumerCommit message =>
          have hplaced := h.placed i
          rw [hplace] at hplaced
          obtain ⟨m₀, hm₀, hheld⟩ := hplaced.held message rfl
          obtain ⟨db, hconsume, -, -, -, -, hmessages⟩ := h.consume_ok hm₀ hheld
          rw [step_consume hplace, hconsume]
          exact hmessages ▸ hm
      | idle | consumed _ =>
          rw [OutboxSystem.step, hplace]
          exact hm
  | acknowledge i =>
      cases hplace : s.publishers i with
      | consumed message =>
          rw [step_acknowledge hplace]
          apply mem_updateWhere_of_not hm
          intro hset
          have hnone : m.publishedAt = none := (of_decide_eq_true hset).2.2
          rw [hnone] at hpublished
          cases hpublished
      | idle | claimed _ _ =>
          rw [OutboxSystem.step, hplace]
          exact hm
  | crash i => exact hm

theorem Inv.published_after (h : Inv rt s) {m : OutboxMessageRow}
    (hm : m ∈ s.log.world.db.outboxMessages) (hpublished : m.publishedAt.isSome = true)
    (acts : List OutboxAction) : m ∈ (s.after rt config acts).log.world.db.outboxMessages := by
  have hrun : Inv rt (s.after rt config acts) ∧
      m ∈ (s.after rt config acts).log.world.db.outboxMessages :=
    Transition.run_invariant (P := fun s => Inv rt s ∧ m ∈ s.log.world.db.outboxMessages)
      (fun _ act h => ⟨h.1.step act, h.1.published_step h.2 hpublished act⟩) ⟨h, hm⟩ acts
  exact hrun.2

theorem acknowledge_untouched {message : OutboxRow} (hplace : s.publishers i = .consumed message)
    {m : OutboxMessageRow} (hm : m ∈ s.log.world.db.outboxMessages)
    (htoken : m.leaseToken ≠ some message.leaseToken) :
    m ∈ (s.step rt config (.acknowledge i)).log.world.db.outboxMessages := by
  rw [step_acknowledge hplace]
  exact mem_updateWhere_of_not hm fun hset => htoken (of_decide_eq_true hset).2.1

/-! ## Exactly once -/

/-- The event has one receipt and one projection, those of its message. -/
structure Delivered (rt : Runtime) (db : Db) (m : OutboxMessageRow) : Prop where
  receipt : ∃ r, (db.inboxReceipts.filter fun r => r.eventId = m.eventId) = [r] ∧
    IsReceipt rt m r
  projection : ∃ p, (db.localEventProjections.filter fun p => p.eventId = m.eventId) = [p] ∧
    IsProjection rt m p

theorem Inv.message_eq (h : Inv rt s) {m m' : OutboxMessageRow}
    (hm : m ∈ s.log.world.db.outboxMessages) (hm' : m' ∈ s.log.world.db.outboxMessages)
    (hevent : m.eventId = m'.eventId) : m = m' := by
  obtain ⟨e, he, hcarries⟩ := h.log.intact.orphan m hm
  obtain ⟨-, m₀, hmessage, -⟩ := h.log.intact.carried e he
  have hsingle : ∀ m ∈ s.log.world.db.outboxMessages, m.eventId = e.id → m = m₀ := by
    intro m hm hid
    rw [← List.mem_singleton, ← hmessage]
    exact List.mem_filter.mpr ⟨hm, decide_eq_true hid⟩
  rw [hsingle m hm hcarries.message, hsingle m' hm' (hevent ▸ hcarries.message)]

theorem Inv.delivered (h : Inv rt s) {m : OutboxMessageRow}
    (hm : m ∈ s.log.world.db.outboxMessages) (hconsumed : Consumed s.log.world.db m.eventId) :
    Delivered rt s.log.world.db m := by
  obtain ⟨r, hr, hevent⟩ := hconsumed
  have hid : m.eventId ∈ s.log.world.db.localEventProjections.map
      LocalEventProjectionRow.eventId := by
    rw [← h.records.paired, ← hevent]
    exact List.mem_map_of_mem hr
  obtain ⟨p, hp, hproject⟩ := List.mem_map.mp hid
  constructor
  · refine ⟨r, ?_, ?_⟩
    · apply Table.filter_eq_singleton h.records.nodup hr
      intro r' _
      rw [decide_eq_true_iff, hevent]
    · obtain ⟨m', hm', hreceipt⟩ := h.records.receipts r hr
      rwa [h.message_eq hm hm' (hevent.symm.trans hreceipt.event)]
  · refine ⟨p, ?_, ?_⟩
    · apply Table.filter_eq_singleton (h.records.paired ▸ h.records.nodup) hp
      intro p' _
      rw [decide_eq_true_iff, hproject]
    · obtain ⟨m', hm', hprojection⟩ := h.records.projections p hp
      rwa [h.message_eq hm hm' (hproject.symm.trans hprojection.event)]

theorem Inv.once (h : Inv rt s) (eventId : Uuid) :
    (∃ m ∈ s.log.world.db.outboxMessages, m.eventId = eventId ∧
      Delivered rt s.log.world.db m) ∨
    ((s.log.world.db.inboxReceipts.filter fun r => r.eventId = eventId) = [] ∧
      (s.log.world.db.localEventProjections.filter fun p => p.eventId = eventId) = []) := by
  by_cases hconsumed : Consumed s.log.world.db eventId
  · left
    obtain ⟨r, hr, hevent⟩ := hconsumed
    obtain ⟨m, hm, hreceipt⟩ := h.records.receipts r hr
    have hid : m.eventId = eventId := hreceipt.event.symm.trans hevent
    exact ⟨m, hm, hid, h.delivered hm ⟨r, hr, hreceipt.event⟩⟩
  · right
    constructor
    · apply List.filter_eq_nil_iff.mpr
      intro r hr hevent
      exact hconsumed ⟨r, hr, of_decide_eq_true hevent⟩
    · apply List.filter_eq_nil_iff.mpr
      intro p hp hevent
      have hid : p.eventId ∈ s.log.world.db.inboxReceipts.map InboxReceiptRow.eventId := by
        rw [h.records.paired]
        exact List.mem_map_of_mem hp
      obtain ⟨r, hr, heq⟩ := List.mem_map.mp hid
      exact hconsumed ⟨r, hr, heq.trans (of_decide_eq_true hevent)⟩

/-- Every event is delivered once or not at all, a published message is delivered and
stays as it is whatever happens next, a publisher clears no lease but its own, and the
consumer is never rejected. -/
structure ExactlyOnce (rt : Runtime) (config : ℕ → WorkerConfig) (s : OutboxSystem) : Prop where
  once : ∀ eventId,
    (∃ m ∈ s.log.world.db.outboxMessages, m.eventId = eventId ∧
      Delivered rt s.log.world.db m) ∨
    ((s.log.world.db.inboxReceipts.filter fun r => r.eventId = eventId) = [] ∧
      (s.log.world.db.localEventProjections.filter fun p => p.eventId = eventId) = [])
  published : ∀ m ∈ s.log.world.db.outboxMessages, m.publishedAt.isSome = true →
    Delivered rt s.log.world.db m ∧
      ∀ acts, m ∈ (s.after rt config acts).log.world.db.outboxMessages
  tokens : ∀ i j message message', i ≠ j → (s.publishers i).message? = some message →
    (s.publishers j).message? = some message' → message.leaseToken ≠ message'.leaseToken
  fenced : ∀ i message, s.publishers i = .consumed message →
    ∀ m ∈ s.log.world.db.outboxMessages, m.leaseToken ≠ some message.leaseToken →
      m ∈ (s.step rt config (.acknowledge i)).log.world.db.outboxMessages
  keys : ∀ m ∈ s.log.world.db.outboxMessages, ∀ m' ∈ s.log.world.db.outboxMessages,
    m.eventId ≠ m'.eventId → keyOf m ≠ keyOf m'
  accepted : ∀ i stopAfterConsumerCommit message,
    s.publishers i = .claimed stopAfterConsumerCommit message →
      (consume rt message s.log.world).1 = .ok ⟨⟩

/-- However publishers and appends interleave, crash and lose their leases, every event
is delivered exactly once. -/
theorem exactlyOnce_after (rt : Runtime) (config : ℕ → WorkerConfig) (init : InitialOutbox)
    (acts : List OutboxAction) : ExactlyOnce rt config (init.system.after rt config acts) := by
  have h := inv_after rt config init acts
  refine
    { once := h.once
      published := ?_
      tokens := h.apart
      fenced := fun i message hplace m hm htoken => acknowledge_untouched hplace hm htoken
      keys := ?_
      accepted := ?_ }
  · intro m hm hpublished
    exact ⟨h.delivered hm (h.published m hm hpublished), h.published_after hm hpublished⟩
  · intro m hm m' hm' hne hkey
    exact hne (EventLog.eventId_eq_of_keyOf_eq h.log h.company hm hm' hkey)
  · intro i stopAfterConsumerCommit message hplace
    have hplaced := h.placed i
    rw [hplace] at hplaced
    obtain ⟨m, hm, hheld⟩ := hplaced.held message rfl
    obtain ⟨db, hconsume, -⟩ := h.consume_ok hm hheld
    rw [hconsume]

end OutboxSystem

end Aico
