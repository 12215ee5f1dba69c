import Aico.Governance.EventLogSteps

/-!
# The rows that transactions append

Two facts about rows that are not yet committed as much as about committed ones: an
event of the company has no number, and no two messages have one identifier.
-/

namespace Aico

/-! ## Events of the company -/

def EventRow.CompanyUnnumbered (e : EventRow) : Prop := e.runId = none → e.runSequence = none

def AppendPlace.CompanyUnnumbered : AppendPlace → Prop
  | selected options _ sequence | counted options _ sequence
  | inserted options _ sequence _ => options.runId = none → sequence = none
  | ready | aborted => True

structure EventTx.CompanyUnnumbered (tx : EventTx) : Prop where
  writes : ∀ e ∈ tx.writes.filterMap LogWrite.event?, e.CompanyUnnumbered
  place : tx.place.CompanyUnnumbered

theorem DomainEvent.allocated_company {options : AppendEventOptions}
    {counters : List RunEventCounterRow} {sequence : Option ℕ}
    (h : allocated options counters = .ok sequence) (hcompany : options.runId = none) :
    sequence = none := by
  rw [allocated, hcompany] at h
  exact (Except.ok.inj h).symm

namespace EventLog

variable {s s' : EventLog}

theorem Move.companyUnnumbered {drawn : ℕ} {old : Option EventTx} {tx : EventTx}
    (h : s.Move drawn old tx) (hold : ∀ tx₀, old = some tx₀ → tx₀.CompanyUnnumbered) :
    tx.CompanyUnnumbered := by
  cases h with
  | begin => exact ⟨by simp, trivial⟩
  | insertRun writes row =>
      obtain ⟨hwrites, -⟩ := hold _ rfl
      exact ⟨by simpa [List.filterMap_append, LogWrite.event?] using hwrites, trivial⟩
  | selectCounter writes options sequence hallocated =>
      exact ⟨(hold _ rfl).writes, DomainEvent.allocated_company hallocated⟩
  | updateCounter writes options eventId sequence =>
      obtain ⟨hwrites, hplace⟩ := hold _ rfl
      exact ⟨by simpa [List.filterMap_append, LogWrite.event?] using hwrites, hplace⟩
  | insertEvent writes options eventId sequence =>
      obtain ⟨hwrites, hplace⟩ := hold _ rfl
      refine ⟨?_, hplace⟩
      intro e he
      rw [List.filterMap_append, List.mem_append] at he
      rcases he with he | he
      · exact hwrites e he
      · rw [List.mem_singleton.mp he]
        intro hrun
        exact hplace (Option.map_eq_none_iff.mp hrun)
  | insertMessage writes options eventId sequence occurredAt =>
      obtain ⟨hwrites, -⟩ := hold _ rfl
      exact ⟨by simpa [List.filterMap_append, LogWrite.event?] using hwrites, trivial⟩
  | abort tx => exact ⟨(hold _ rfl).writes, trivial⟩

/-- No event of a company has a number, committed or not. -/
structure CompanyUnnumbered (s : EventLog) : Prop where
  events : ∀ e ∈ s.world.db.events, e.CompanyUnnumbered
  txs : ∀ i tx, s.txs i = some tx → tx.CompanyUnnumbered

theorem CompanyUnnumbered.effect (h : s.CompanyUnnumbered) (heffect : s.Effect s') :
    s'.CompanyUnnumbered := by
  refine ⟨?_, heffect.forall_tx Move.companyUnnumbered h.txs⟩
  cases heffect with
  | still hdb => exact hdb ▸ h.events
  | move i drawn tx hmove hdb => exact hdb ▸ h.events
  | rollback i hdb => exact hdb ▸ h.events
  | commit i writes htx hdb =>
      rw [hdb, view_events]
      intro e he
      rcases List.mem_append.mp he with he | he
      · exact h.events e he
      · exact (h.txs i _ htx).writes e he

/-! ## Messages that are not committed -/

def Unsent (tx : EventTx) : Prop :=
  ∀ m ∈ tx.writes.filterMap LogWrite.message?, m.publishedAt = none

theorem Move.unsent {drawn : ℕ} {old : Option EventTx} {tx : EventTx}
    (h : s.Move drawn old tx) (hold : ∀ tx₀, old = some tx₀ → Unsent tx₀) : Unsent tx := by
  cases h with
  | begin => exact fun m hm => absurd hm (by simp)
  | selectCounter writes => exact hold ⟨writes, .ready⟩ rfl
  | abort tx => exact hold tx rfl
  | insertRun | updateCounter | insertEvent =>
      have hwrites := hold _ rfl
      simpa [Unsent, List.filterMap_append, LogWrite.message?] using hwrites
  | insertMessage writes options eventId sequence occurredAt =>
      have hwrites := hold _ rfl
      intro m hm
      rw [List.filterMap_append, List.mem_append] at hm
      rcases hm with hm | hm
      · exact hwrites m hm
      · rw [List.mem_singleton.mp hm]
        rfl

/-- An action adds messages that are not published. -/
theorem Effect.unsent (heffect : s.Effect s')
    (hunsent : ∀ i tx, s.txs i = some tx → Unsent tx) :
    ∃ new, s'.world.db.outboxMessages = s.world.db.outboxMessages ++ new ∧
      ∀ m ∈ new, m.publishedAt = none := by
  have hsame (h : s'.world.db = s.world.db) :
      ∃ new, s'.world.db.outboxMessages = s.world.db.outboxMessages ++ new ∧
        ∀ m ∈ new, m.publishedAt = none :=
    ⟨[], by rw [h, List.append_nil], fun m hm => absurd hm List.not_mem_nil⟩
  cases heffect with
  | still hdb => exact hsame hdb
  | move i drawn tx hmove hdb => exact hsame hdb
  | rollback i hdb => exact hsame hdb
  | commit i writes htx hdb =>
      refine ⟨writes.filterMap LogWrite.message?, ?_, hunsent i _ htx⟩
      rw [hdb, view_outboxMessages]

/-! ## The identifiers of messages -/

def pendingIds (s : EventLog) (i : ℕ) : List Uuid :=
  (s.txs i).elim [] fun tx => (tx.writes.filterMap LogWrite.message?).map OutboxMessageRow.id

theorem Move.messageIds {drawn : ℕ} {old : Option EventTx} {tx : EventTx}
    (h : s.Move drawn old tx) :
    let ids := old.elim [] fun tx => (tx.writes.filterMap LogWrite.message?).map OutboxMessageRow.id
    let ids' := (tx.writes.filterMap LogWrite.message?).map OutboxMessageRow.id
    ids' = ids ∨ (drawn = 1 ∧ ids' = ids ++ [s.world.nextId]) := by
  cases h with
  | begin | selectCounter | abort => exact .inl rfl
  | insertRun | updateCounter | insertEvent =>
      left
      simp [List.filterMap_append, LogWrite.message?]
  | insertMessage =>
      right
      simp [List.filterMap_append, LogWrite.message?, DomainEvent.outboxMessageRow]

def MessageIds (s : EventLog) : Prop :=
  ReadCommitted.Drawn (s.world.db.outboxMessages.map OutboxMessageRow.id) s.pendingIds
    s.world.nextId

theorem pendingIds_update {i : ℕ} {new : Option EventTx}
    (htxs : s'.txs = Function.update s.txs i new) :
    s'.pendingIds = Function.update s.pendingIds i (new.elim [] fun tx =>
      (tx.writes.filterMap LogWrite.message?).map OutboxMessageRow.id) := by
  funext j
  by_cases hj : j = i
  · rw [pendingIds, htxs, hj, Function.update_self, Function.update_self]
  · rw [pendingIds, htxs, Function.update_of_ne hj, Function.update_of_ne hj, pendingIds]

theorem MessageIds.effect (h : s.MessageIds) (heffect : s.Effect s') : s'.MessageIds := by
  cases heffect with
  | still hdb htxs hnext =>
      have hpending : s'.pendingIds = s.pendingIds := by
        funext i
        rw [pendingIds, htxs, pendingIds]
      rw [MessageIds, hdb, hpending]
      exact h.later hnext
  | move i drawn tx hmove hdb htxs hnext =>
      rw [MessageIds, hdb, pendingIds_update htxs, hnext]
      rcases hmove.messageIds with hids | ⟨rfl, hids⟩
      · dsimp only [Option.elim_some]
        rw [hids]
        exact (Function.update_eq_self i s.pendingIds).symm ▸ h.later (Nat.le_add_right _ _)
      · dsimp only [Option.elim_some]
        rw [hids]
        exact h.draw i
  | commit i writes htx hdb htxs hnext =>
      rw [MessageIds, hdb, view_outboxMessages, List.map_append, pendingIds_update htxs, hnext]
      have hpending : s.pendingIds i =
          (writes.filterMap LogWrite.message?).map OutboxMessageRow.id := by
        rw [pendingIds, htx]
        rfl
      rw [← hpending]
      exact h.commit i
  | rollback i hdb htxs hnext =>
      rw [MessageIds, hdb, pendingIds_update htxs, hnext]
      exact h.drop i

end EventLog

theorem InitialLog.companyUnnumbered (init : InitialLog) : init.log.CompanyUnnumbered where
  events := by simp [InitialLog.log, init.events]
  txs := by simp [InitialLog.log]

theorem InitialLog.messageIds (init : InitialLog) : init.log.MessageIds where
  seen := by simp [InitialLog.log, EventLog.pendingIds, init.outboxMessages]
  apart := by simp [InitialLog.log, EventLog.pendingIds]
  committed_lt := by simp [InitialLog.log, init.outboxMessages]
  pending_lt := by simp [InitialLog.log, EventLog.pendingIds]

end Aico
