import Aico.Governance.EventLogLeases
import Aico.Orchestration.ProjectionKeys

/-!
# Delivery of the outbox

Any number of publishers deliver messages while transactions append events. Each of the
three transactions of `publishOnce` decides on one row that it holds to its commit, so it
is one step here; a publisher may crash after any of them, and a claim may skip whatever
rows other transactions have locked.

What the tables say about an event, its receipt and its projection, only ever comes from
the message of the event, whoever delivers it and how often.
-/

namespace Aico

/-- Where a publisher stands in `publishOnce`. -/
inductive PublisherPlace where
  | idle
  | claimed (stopAfterConsumerCommit : Bool) (message : OutboxRow)
  | consumed (message : OutboxRow)

def PublisherPlace.message? : PublisherPlace → Option OutboxRow
  | idle => none
  | claimed _ message | consumed message => some message

structure OutboxSystem where
  log : EventLog
  publishers : ℕ → PublisherPlace

/-- What can happen next. -/
inductive OutboxAction where
  | log (act : LogAction)
  | claim (i : ℕ) (locked : List Uuid) (options : PublishOptions)
  | consume (i : ℕ)
  | acknowledge (i : ℕ)
  | crash (i : ℕ)

namespace OutboxSystem

open OutboxPublisher

def reach (s : OutboxSystem) (w : World) (i : ℕ) (place : PublisherPlace) : OutboxSystem where
  log := { s.log with world := w }
  publishers := Function.update s.publishers i place

def claimedPlace (options : PublishOptions) : Except Failure (Option OutboxRow) → PublisherPlace
  | .ok (some message) => .claimed options.stopAfterConsumerCommit message
  | _ => .idle

def consumedPlace (stopAfterConsumerCommit : Bool) (message : OutboxRow) :
    Except Failure PUnit → PublisherPlace
  | .ok _ => if stopAfterConsumerCommit then .idle else .consumed message
  | .error _ => .idle

/-- The step of the system. An action of a publisher that stands elsewhere does
nothing. -/
def step (rt : Runtime) (config : ℕ → WorkerConfig) (s : OutboxSystem) :
    OutboxAction → OutboxSystem
  | .log act => { s with log := s.log.step act }
  | .claim i locked options =>
      match s.publishers i with
      | .idle =>
          let result := claim (config i) locked options.eventId s.log.world
          s.reach result.2 i (claimedPlace options result.1)
      | _ => s
  | .consume i =>
      match s.publishers i with
      | .claimed stopAfterConsumerCommit message =>
          let result := consume rt message s.log.world
          s.reach result.2 i (consumedPlace stopAfterConsumerCommit message result.1)
      | _ => s
  | .acknowledge i =>
      match s.publishers i with
      | .consumed message => s.reach (acknowledge message s.log.world).2 i .idle
      | _ => s
  | .crash i => { s with publishers := Function.update s.publishers i .idle }

def after (rt : Runtime) (config : ℕ → WorkerConfig) (s : OutboxSystem)
    (acts : List OutboxAction) : OutboxSystem :=
  Transition.run (step rt config) s acts

section

variable {rt : Runtime} {config : ℕ → WorkerConfig} {s : OutboxSystem} {i : ℕ}

theorem publishers_reach (w : World) (place : PublisherPlace) :
    (s.reach w i place).publishers i = place := Function.update_self ..

theorem publishers_reach_of_ne (w : World) (place : PublisherPlace) {j : ℕ} (hj : j ≠ i) :
    (s.reach w i place).publishers j = s.publishers j := Function.update_of_ne hj ..

theorem step_claim (h : s.publishers i = .idle) (locked : List Uuid) (options : PublishOptions) :
    s.step rt config (.claim i locked options) =
      let result := claim (config i) locked options.eventId s.log.world
      s.reach result.2 i (claimedPlace options result.1) := by
  rw [step, h]

theorem step_consume {stopAfterConsumerCommit : Bool} {message : OutboxRow}
    (h : s.publishers i = .claimed stopAfterConsumerCommit message) :
    s.step rt config (.consume i) =
      let result := consume rt message s.log.world
      s.reach result.2 i (consumedPlace stopAfterConsumerCommit message result.1) := by
  rw [step, h]

theorem step_acknowledge {message : OutboxRow} (h : s.publishers i = .consumed message) :
    s.step rt config (.acknowledge i) = s.reach (acknowledge message s.log.world).2 i .idle := by
  rw [step, h]

theorem step_consume_idle (h : s.publishers i = .idle) : s.step rt config (.consume i) = s := by
  rw [step, h]

theorem step_acknowledge_idle (h : s.publishers i = .idle) :
    s.step rt config (.acknowledge i) = s := by
  rw [step, h]

theorem reach_reach (w w' : World) (place place' : PublisherPlace) :
    (s.reach w i place).reach w' i place' = s.reach w' i place' :=
  congrArg (OutboxSystem.mk _) (Function.update_idem ..)

theorem after_claimed {stopAfterConsumerCommit : Bool} {message : OutboxRow}
    (h : s.publishers i = .claimed stopAfterConsumerCommit message) :
    let rest : Op Bool := do
      consume rt message
      if stopAfterConsumerCommit then pure true
      else do
        acknowledge message
        pure true
    s.after rt config [.consume i, .acknowledge i] = s.reach (rest s.log.world).2 i .idle := by
  intro rest
  rw [after, Transition.run_cons, Transition.run_cons, Transition.run_nil, step_consume h]
  dsimp only
  rcases hconsume : consume rt message s.log.world with ⟨e | ⟨⟩, w⟩
  · have hrest : rest s.log.world = (.error e, w) := Prog.bind_of_error hconsume
    rw [hrest]
    exact step_acknowledge_idle (publishers_reach ..)
  · have hrest : rest s.log.world = _ := Prog.bind_of_ok hconsume
    rw [hrest]
    cases stopAfterConsumerCommit with
    | true => exact step_acknowledge_idle (publishers_reach ..)
    | false => exact (step_acknowledge (publishers_reach ..)).trans (reach_reach ..)

/-- A publisher that runs through does what `publishOnce` does. -/
theorem after_publishOnce (hidle : s.publishers i = .idle) (locked : List Uuid)
    (options : PublishOptions) :
    s.after rt config [.claim i locked options, .consume i, .acknowledge i] =
      s.reach (publishOnce rt (config i) locked options s.log.world).2 i .idle := by
  rw [after, Transition.run_cons, step_claim hidle, publishOnce]
  dsimp only
  rcases hcandidate : candidate s.log.world.now options.eventId locked s.log.world.db with _ | m
  · have hclaim : claim (config i) locked options.eventId s.log.world = (.ok none, s.log.world) :=
      claim_of_none hcandidate
    have hplace := publishers_reach (s := s) (i := i) s.log.world .idle
    rw [hclaim, Prog.bind_of_ok hclaim, Transition.run_cons, Transition.run_cons]
    dsimp only [claimedPlace]
    rw [step_consume_idle hplace, step_acknowledge_idle hplace]
    rfl
  · have hclaim : claim (config i) locked options.eventId s.log.world = _ :=
      claim_of_some hcandidate
    rw [hclaim, Prog.bind_of_ok hclaim]
    exact (after_claimed (publishers_reach ..)).trans (reach_reach ..)

end

end OutboxSystem

/-- A world without runs and events, so without receipts and projections of events. -/
structure InitialOutbox extends InitialLog where
  inboxReceipts : world.db.inboxReceipts = []
  localEventProjections : world.db.localEventProjections = []

def InitialOutbox.system (init : InitialOutbox) : OutboxSystem where
  log := init.log
  publishers := fun _ => .idle

/-! ## Receipts and projections -/

/-- The messages are still there, whoever holds them. -/
def KeepsMessages (db db' : Db) : Prop :=
  ∀ m ∈ db.outboxMessages, ∃ m' ∈ db'.outboxMessages, m'.content = m.content

theorem SameLog.keepsMessages {db db' : Db} (h : SameLog db db') : KeepsMessages db db' := by
  intro m hm
  have hcontent : m.content ∈ db'.outboxMessages.map OutboxMessageRow.content := by
    rw [h.contents]
    exact List.mem_map_of_mem hm
  obtain ⟨m', hm', heq⟩ := List.mem_map.mp hcontent
  exact ⟨m', hm', heq⟩

namespace OutboxPublisher

def projectionDigest (rt : Runtime) (m : OutboxMessageRow) : Digest :=
  rt.canonicalDigest
    (.object [("projectionKey", .str (keyOf m)), ("envelope", storedEnvelope m)])

structure IsReceipt (rt : Runtime) (m : OutboxMessageRow) (r : InboxReceiptRow) : Prop where
  consumer : r.consumerName = consumerName
  event : r.eventId = m.eventId
  digest : r.resultDigest = rt.canonicalDigest (storedEnvelope m)

structure IsProjection (rt : Runtime) (m : OutboxMessageRow) (p : LocalEventProjectionRow) :
    Prop where
  consumer : p.consumerName = consumerName
  event : p.eventId = m.eventId
  key : p.projectionKey = keyOf m
  digest : p.resultDigest = projectionDigest rt m

/-- Every receipt and every projection comes from a message, and they come in pairs, one
for an event. -/
structure Records (rt : Runtime) (db : Db) : Prop where
  receipts : ∀ r ∈ db.inboxReceipts, ∃ m ∈ db.outboxMessages, IsReceipt rt m r
  projections : ∀ p ∈ db.localEventProjections, ∃ m ∈ db.outboxMessages, IsProjection rt m p
  paired : db.inboxReceipts.map InboxReceiptRow.eventId =
    db.localEventProjections.map LocalEventProjectionRow.eventId
  nodup : (db.inboxReceipts.map InboxReceiptRow.eventId).Nodup

def Consumed (db : Db) (eventId : Uuid) : Prop := ∃ r ∈ db.inboxReceipts, r.eventId = eventId

def PublishedConsumed (db : Db) : Prop :=
  ∀ m ∈ db.outboxMessages, m.publishedAt.isSome = true → Consumed db m.eventId

variable {rt : Runtime} {db db' : Db} {m m' : OutboxMessageRow}

theorem IsReceipt.of_content {r : InboxReceiptRow} (h : IsReceipt rt m r)
    (hcontent : m'.content = m.content) : IsReceipt rt m' r := by
  have heventId : m'.eventId = m.eventId := congrArg MessageContent.eventId hcontent
  have henvelope : m'.envelope = m.envelope := congrArg MessageContent.envelope hcontent
  have hstored : storedEnvelope m' = storedEnvelope m :=
    congrArg (fun e => e.toJson.jsonb) henvelope
  exact ⟨h.consumer, h.event.trans heventId.symm,
    h.digest.trans (congrArg rt.canonicalDigest hstored.symm)⟩

theorem IsProjection.of_content {p : LocalEventProjectionRow} (h : IsProjection rt m p)
    (hcontent : m'.content = m.content) : IsProjection rt m' p := by
  have heventId : m'.eventId = m.eventId := congrArg MessageContent.eventId hcontent
  have henvelope : m'.envelope = m.envelope := congrArg MessageContent.envelope hcontent
  have hstored : storedEnvelope m' = storedEnvelope m :=
    congrArg (fun e => e.toJson.jsonb) henvelope
  have hkey : keyOf m' = keyOf m := by rw [keyOf, hstored, heventId, keyOf]
  refine ⟨h.consumer, h.event.trans heventId.symm, h.key.trans hkey.symm, ?_⟩
  rw [h.digest, projectionDigest, projectionDigest, hkey, hstored]

theorem Records.of_keeps (h : Records rt db) (hkeeps : KeepsMessages db db')
    (hreceipts : db'.inboxReceipts = db.inboxReceipts)
    (hprojections : db'.localEventProjections = db.localEventProjections) :
    Records rt db' where
  receipts r hr := by
    rw [hreceipts] at hr
    obtain ⟨m, hm, hreceipt⟩ := h.receipts r hr
    obtain ⟨m', hm', hcontent⟩ := hkeeps m hm
    exact ⟨m', hm', hreceipt.of_content hcontent⟩
  projections p hp := by
    rw [hprojections] at hp
    obtain ⟨m, hm, hprojection⟩ := h.projections p hp
    obtain ⟨m', hm', hcontent⟩ := hkeeps m hm
    exact ⟨m', hm', hprojection.of_content hcontent⟩
  paired := by rw [hreceipts, hprojections, h.paired]
  nodup := hreceipts ▸ h.nodup

theorem Records.recorded (h : Records rt db) (hm : m ∈ db.outboxMessages) {message : OutboxRow}
    (heventId : message.eventId = m.eventId) (henvelope : message.envelope = storedEnvelope m)
    (hnew : ∀ r ∈ db.inboxReceipts, r.eventId ≠ message.eventId) (now : Timestamp) :
    Records rt (recorded rt message now db) := by
  have hkey : projectionKey message.eventId message.envelope = keyOf m := by
    rw [heventId, henvelope, keyOf]
  have hreceipt : IsReceipt rt m (receiptRow rt message now) :=
    ⟨rfl, heventId, congrArg rt.canonicalDigest henvelope⟩
  have hprojection : IsProjection rt m (projectionRow rt message) := by
    refine ⟨rfl, heventId, hkey, ?_⟩
    rw [projectionRow, projectionDigest]
    dsimp only
    rw [hkey, henvelope]
  refine
    { receipts := ?_
      projections := ?_
      paired := ?_
      nodup := ?_ }
  · intro r hr
    rcases List.mem_append.mp hr with hr | hr
    · exact h.receipts r hr
    · exact ⟨m, hm, List.mem_singleton.mp hr ▸ hreceipt⟩
  · intro p hp
    rcases List.mem_append.mp hp with hp | hp
    · exact h.projections p hp
    · exact ⟨m, hm, List.mem_singleton.mp hp ▸ hprojection⟩
  · change (db.inboxReceipts ++ [_]).map _ = (db.localEventProjections ++ [_]).map _
    rw [List.map_append, List.map_append, h.paired]
    rfl
  · change ((db.inboxReceipts ++ [_]).map _).Nodup
    rw [List.map_append]
    apply h.nodup.append (List.nodup_singleton _)
    intro id hid hsame
    obtain ⟨r, hr, rfl⟩ := List.mem_map.mp hid
    exact hnew r hr (List.mem_singleton.mp hsame)

end OutboxPublisher

end Aico
