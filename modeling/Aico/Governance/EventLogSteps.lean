import Aico.Governance.EventLog

/-!
# What a step of the event log can do

`EventLog.Move` says once what a statement does to the transaction it belongs to, and
`effect_step` what an action does to the committed tables and the transactions: what
every statement keeps is proved statement by statement, without the step function.
-/

namespace Aico

/-- What a statement does to its transaction, with the identifiers it draws. -/
inductive EventLog.Move (s : EventLog) : ℕ → Option EventTx → EventTx → Prop where
  | begin : Move s 0 none { writes := [], place := .ready }
  | insertRun (writes : List LogWrite) (row : RunRow) :
      Move s 0 (some ⟨writes, .ready⟩) ⟨writes ++ [.run row], .ready⟩
  | selectCounter (writes : List LogWrite) (options : AppendEventOptions)
      (sequence : Option ℕ)
      (h : DomainEvent.allocated options (s.view writes).runEventCounters = .ok sequence) :
      Move s 1 (some ⟨writes, .ready⟩) ⟨writes, .selected options s.world.nextId sequence⟩
  | updateCounter (writes : List LogWrite) (options : AppendEventOptions) (eventId : Uuid)
      (sequence : Option ℕ) :
      Move s 0 (some ⟨writes, .selected options eventId sequence⟩)
        ⟨writes ++ [.bump options], .counted options eventId sequence⟩
  | insertEvent (writes : List LogWrite) (options : AppendEventOptions) (eventId : Uuid)
      (sequence : Option ℕ) :
      Move s 0 (some ⟨writes, .counted options eventId sequence⟩)
        ⟨writes ++ [.event (DomainEvent.eventRow options eventId sequence s.world.now)],
          .inserted options eventId sequence s.world.now⟩
  | insertMessage (writes : List LogWrite) (options : AppendEventOptions) (eventId : Uuid)
      (sequence : Option ℕ) (occurredAt : Timestamp) :
      Move s 1 (some ⟨writes, .inserted options eventId sequence occurredAt⟩)
        ⟨writes ++ [.message (DomainEvent.outboxMessageRow options s.world.nextId eventId
          sequence occurredAt)], .ready⟩
  | abort (tx : EventTx) : Move s 0 (some tx) { tx with place := .aborted }

namespace EventLog

/-- What an action can do: nothing that shows, a statement of a transaction, or its
end, with what the transaction saw or with nothing new committed. -/
inductive Effect (s s' : EventLog) : Prop where
  | still (hdb : s'.world.db = s.world.db) (htxs : s'.txs = s.txs)
      (hnext : s.world.nextId ≤ s'.world.nextId)
  | move (i drawn : ℕ) (tx : EventTx) (h : s.Move drawn (s.txs i) tx)
      (hdb : s'.world.db = s.world.db) (htxs : s'.txs = Function.update s.txs i (some tx))
      (hnext : s'.world.nextId = s.world.nextId + drawn)
  | commit (i : ℕ) (writes : List LogWrite) (htx : s.txs i = some ⟨writes, .ready⟩)
      (hdb : s'.world.db = s.view writes) (htxs : s'.txs = Function.update s.txs i none)
      (hnext : s'.world.nextId = s.world.nextId)
  | rollback (i : ℕ) (hdb : s'.world.db = s.world.db)
      (htxs : s'.txs = Function.update s.txs i none)
      (hnext : s'.world.nextId = s.world.nextId)

theorem effect_step (s : EventLog) (act : LogAction) : s.Effect (s.step act) := by
  have hstill : s.Effect s := .still rfl rfl le_rfl
  cases act with
  | tick elapsed => exact .still rfl rfl le_rfl
  | begin i =>
      rw [step]
      split
      next htx => exact .move i 0 _ (htx ▸ .begin) rfl rfl rfl
      next => exact hstill
  | insertRun i row =>
      rw [step]
      split
      next writes htx =>
        split
        · exact .move i 0 _ (htx ▸ .abort _) rfl rfl rfl
        · split
          · exact .move i 0 _ (htx ▸ .insertRun writes row) rfl rfl rfl
          · exact hstill
      next => exact hstill
  | selectCounter i options =>
      rw [step]
      split
      next writes htx =>
        split
        next => exact .still rfl rfl (Nat.le_succ _)
        next sequence hallocated =>
          split
          · apply Effect.move i 1 ⟨writes, .selected options s.world.nextId sequence⟩
            · rw [htx]
              exact .selectCounter writes options sequence hallocated
            · simp
            · simp [put]
            · simp
          · exact hstill
      next => exact hstill
  | updateCounter i =>
      rw [step]
      split
      next writes options eventId sequence htx =>
        exact .move i 0 _ (htx ▸ .updateCounter writes options eventId sequence) rfl rfl rfl
      next => exact hstill
  | insertEvent i =>
      rw [step]
      split
      next writes options eventId sequence htx =>
        simp only
        split
        · exact .move i 0 _ (htx ▸ .abort _) rfl rfl rfl
        · exact .move i 0 _ (htx ▸ .insertEvent writes options eventId sequence) rfl rfl rfl
      next => exact hstill
  | insertMessage i =>
      rw [step]
      split
      next writes options eventId sequence occurredAt htx =>
        exact .move i 1 _ (htx ▸ .insertMessage writes options eventId sequence occurredAt)
          rfl rfl rfl
      next => exact hstill
  | fails i =>
      rw [step]
      split
      next tx htx => exact .move i 0 _ (htx ▸ .abort tx) rfl rfl rfl
      next => exact hstill
  | commit i =>
      rw [step]
      split
      next writes htx => exact .commit i writes htx rfl rfl rfl
      next => exact hstill
  | rollback i =>
      rw [step]
      split
      next => exact .rollback i rfl rfl rfl
      next => exact hstill

end EventLog

/-- What every statement keeps of its transaction holds of all transactions. -/
theorem EventLog.Effect.forall_tx {s s' : EventLog} {Q : EventTx → Prop} (heffect : s.Effect s')
    (hmove : ∀ {drawn old tx}, s.Move drawn old tx → (∀ tx₀, old = some tx₀ → Q tx₀) → Q tx)
    (h : ∀ i tx, s.txs i = some tx → Q tx) : ∀ i tx, s'.txs i = some tx → Q tx := by
  have hother : ∀ {i : ℕ} {new : Option EventTx}, s'.txs = Function.update s.txs i new →
      (∀ tx, new = some tx → Q tx) → ∀ j tx, s'.txs j = some tx → Q tx := by
    intro i new htxs hnew j tx htx
    rw [htxs] at htx
    by_cases hj : j = i
    · rw [hj, Function.update_self] at htx
      exact hnew tx htx
    · rw [Function.update_of_ne hj] at htx
      exact h j tx htx
  have hnone : ∀ tx, (none : Option EventTx) = some tx → Q tx := by
    intro tx htx
    cases htx
  cases heffect with
  | still hdb htxs => exact htxs ▸ h
  | move i drawn tx hstatement hdb htxs =>
      apply hother htxs
      intro tx' htx'
      rw [← Option.some.inj htx']
      exact hmove hstatement fun tx₀ => h i tx₀
  | commit i writes htx hdb htxs => exact hother htxs hnone
  | rollback i hdb htxs => exact hother htxs hnone

/-! ## The rows of the writes -/

namespace LogWrite

def event? : LogWrite → Option EventRow
  | event row => some row
  | _ => none

def message? : LogWrite → Option OutboxMessageRow
  | message row => some row
  | _ => none

end LogWrite

theorem EventLog.view_events (s : EventLog) (writes : List LogWrite) :
    (s.view writes).events = s.world.db.events ++ writes.filterMap LogWrite.event? := by
  induction writes using List.reverseRecOn with
  | nil => exact (List.append_nil _).symm
  | append_singleton writes w ih =>
      rw [view_concat, List.filterMap_append, ← List.append_assoc, ← ih]
      cases w <;> simp [LogWrite.apply, LogWrite.event?]

theorem EventLog.view_outboxMessages (s : EventLog) (writes : List LogWrite) :
    (s.view writes).outboxMessages =
      s.world.db.outboxMessages ++ writes.filterMap LogWrite.message? := by
  induction writes using List.reverseRecOn with
  | nil => exact (List.append_nil _).symm
  | append_singleton writes w ih =>
      rw [view_concat, List.filterMap_append, ← List.append_assoc, ← ih]
      cases w <;> simp [LogWrite.apply, LogWrite.message?]

/-! ## The committed log only grows -/

namespace EventLog

structure Grows (db db' : Db) : Prop where
  runs : db.runs <+: db'.runs
  events : db.events <+: db'.events

theorem Grows.refl (db : Db) : Grows db db := ⟨List.prefix_rfl, List.prefix_rfl⟩

theorem Grows.trans {db db' db'' : Db} (h : Grows db db') (h' : Grows db' db'') :
    Grows db db'' :=
  ⟨h.runs.trans h'.runs, h.events.trans h'.events⟩

theorem grows_view (s : EventLog) (writes : List LogWrite) :
    Grows s.world.db (s.view writes) := by
  apply ReadCommitted.view_relates Grows.refl (fun _ _ _ => Grows.trans)
  intro db w
  cases w with
  | run row => exact ⟨List.prefix_append .., List.prefix_rfl⟩
  | event row => exact ⟨List.prefix_rfl, List.prefix_append ..⟩
  | bump options | message row => exact ⟨List.prefix_rfl, List.prefix_rfl⟩

theorem grows_step (s : EventLog) (act : LogAction) :
    Grows s.world.db (s.step act).world.db := by
  cases s.effect_step act with
  | still hdb => exact hdb ▸ .refl _
  | move i drawn tx h hdb => exact hdb ▸ .refl _
  | commit i writes htx hdb => exact hdb ▸ s.grows_view writes
  | rollback i hdb => exact hdb ▸ .refl _

/-- The tables of the consumer are not written to. -/
theorem Effect.consumer {s s' : EventLog} (heffect : s.Effect s') :
    s'.world.db.inboxReceipts = s.world.db.inboxReceipts ∧
      s'.world.db.localEventProjections = s.world.db.localEventProjections := by
  cases heffect with
  | still hdb | move i drawn tx hmove hdb | rollback i hdb =>
      rw [hdb]
      exact ⟨rfl, rfl⟩
  | commit i writes htx hdb =>
      rw [hdb]
      apply ReadCommitted.view_relates (R := fun db db' : Db =>
        db'.inboxReceipts = db.inboxReceipts ∧
          db'.localEventProjections = db.localEventProjections)
      · exact fun _ => ⟨rfl, rfl⟩
      · exact fun _ _ _ h h' => ⟨h'.1.trans h.1, h'.2.trans h.2⟩
      · intro db w
        cases w <;> exact ⟨rfl, rfl⟩

theorem Effect.nextId_le {s s' : EventLog} (heffect : s.Effect s') :
    s.world.nextId ≤ s'.world.nextId := by
  cases heffect with
  | still hdb htxs hnext => exact hnext
  | move i drawn tx h hdb htxs hnext => exact hnext ▸ Nat.le_add_right _ _
  | commit i writes htx hdb htxs hnext => exact hnext.ge
  | rollback i hdb htxs hnext => exact hnext.ge

end EventLog

end Aico
