import Aico.Governance.EventShards

/-!
# The invariant of overlapping appends

A run is written to under the lock of its counter, an event identifier by the
transaction that drew it, so every shard has at most one transaction that writes to
it. `AppendPlace.Shows` is what a transaction sees of a shard in the middle of an
append; a commit makes what the transaction sees the committed state.
-/

namespace Aico

namespace AppendPlace

/-- The shards the append under way is about. -/
def Claims : AppendPlace → LogKey → Prop
  | selected options eventId _, k | counted options eventId _, k
  | inserted options eventId _ _, k => k = .event eventId ∨ options.counterKey = some k
  | ready, _ | aborted, _ => False

/-- What a transaction at this place sees of the shard. -/
def Shows : AppendPlace → LogKey → LogShard → Prop
  | ready, k, sh => sh.Lawful k
  | selected options eventId sequence, k, sh =>
      (k = .event eventId → sh = .empty) ∧
      (options.counterKey = some k → sh.Allocated options sequence 0) ∧ sh.Lawful k
  | counted options eventId sequence, k, sh =>
      (k = .event eventId → sh = .empty) ∧
      (options.counterKey = some k → sh.Allocated options sequence 1) ∧
      (options.counterKey ≠ some k → sh.Lawful k)
  | inserted options eventId sequence occurredAt, k, sh =>
      (k = .event eventId →
        sh = { events := [DomainEvent.eventRow options eventId sequence occurredAt] }) ∧
      (k ≠ .event eventId → sh.Lawful k)
  | aborted, _, _ => True

/-- Elsewhere it sees shards between appends. -/
theorem shows_of_lawful {place : AppendPlace} {k : LogKey} {sh : LogShard}
    (hk : ¬ place.Claims k) (h : sh.Lawful k) : place.Shows k sh := by
  cases place with
  | ready => exact h
  | aborted => trivial
  | selected options eventId sequence =>
      obtain ⟨hevent, hrun⟩ := not_or.mp hk
      exact ⟨fun heq => absurd heq hevent, fun heq => absurd heq hrun, h⟩
  | counted options eventId sequence =>
      obtain ⟨hevent, hrun⟩ := not_or.mp hk
      exact ⟨fun heq => absurd heq hevent, fun heq => absurd heq hrun, fun _ => h⟩
  | inserted options eventId sequence occurredAt =>
      obtain ⟨hevent, -⟩ := not_or.mp hk
      exact ⟨fun heq => absurd heq hevent, fun _ => h⟩

end AppendPlace

namespace EventLog

/-- Who may write to a shard: the holder of the lock, and the transaction that drew the
identifier. -/
def owner (locks drawers : Uuid → Option ℕ) : LogKey → Option ℕ
  | .run runId => locks runId
  | .event eventId => drawers eventId

/-- The invariant, for a record of who has drawn which identifier. -/
structure InvAt (s : EventLog) (drawers : Uuid → Option ℕ) : Prop where
  committed : ∀ k, (LogShard.of k s.world.db).Lawful k
  fresh : ∀ eventId, s.world.nextId ≤ eventId →
    drawers eventId = none ∧ LogShard.of (.event eventId) s.world.db = .empty
  owns : ∀ i tx, s.txs i = some tx →
    ReadCommitted.Owns LogWrite.Touches (owner s.locks drawers) i tx.writes
  claims : ∀ i tx, s.txs i = some tx → ∀ k, tx.place.Claims k →
    owner s.locks drawers k = some i
  seen : ∀ i tx, s.txs i = some tx → ∀ k, tx.place.Shows k (LogShard.of k (s.view tx.writes))

def Inv (s : EventLog) : Prop := ∃ drawers, s.InvAt drawers

variable {s s' : EventLog} {drawers drawers' : Uuid → Option ℕ} {i : ℕ} {tx : EventTx}

/-- A transaction that is open after another one has ended was open before. -/
theorem txs_close {db : Db} {j : ℕ}
    (htx : ({ s with world := { s.world with db := db } }.close i).txs j = some tx) :
    j ≠ i ∧ s.txs j = some tx := by
  change Function.update s.txs i none j = some tx at htx
  by_cases hj : j = i
  · rw [hj, Function.update_self] at htx
    cases htx
  · rw [Function.update_of_ne hj] at htx
    exact ⟨hj, htx⟩

theorem owner_release {locks : Uuid → Option ℕ} {j : ℕ} (hj : j ≠ i) (k : LogKey)
    (h : owner locks drawers k = some j) :
    owner (Locks.release locks i) drawers k = some j := by
  cases k with
  | event eventId => exact h
  | run runId =>
      have hlock : locks runId = some j := h
      rw [owner, Locks.release, hlock]
      exact if_neg fun heq => hj (Option.some.inj heq)

namespace InvAt

/-- A transaction takes a step that commits nothing. -/
theorem put (h : s.InvAt drawers) (hdb : s'.world.db = s.world.db)
    (hnext : s.world.nextId ≤ s'.world.nextId)
    (htxs : s'.txs = Function.update s.txs i (some tx))
    (hfresh : ∀ eventId, s'.world.nextId ≤ eventId → drawers' eventId = none)
    (howner : ∀ k j, owner s.locks drawers k = some j → owner s'.locks drawers' k = some j)
    (howns : ReadCommitted.Owns LogWrite.Touches (owner s'.locks drawers') i tx.writes)
    (hclaims : ∀ k, tx.place.Claims k → owner s'.locks drawers' k = some i)
    (hseen : ∀ k, tx.place.Shows k (LogShard.of k (s.view tx.writes))) :
    s'.InvAt drawers' where
  committed := by
    rw [hdb]
    exact h.committed
  fresh eventId hle := by
    rw [hdb]
    exact ⟨hfresh eventId hle, (h.fresh eventId (hnext.trans hle)).2⟩
  owns j tx' htx' := by
    by_cases hj : j = i
    · rw [htxs, hj, Function.update_self] at htx'
      obtain rfl := Option.some.inj htx'
      rw [hj]
      exact howns
    · rw [htxs, Function.update_of_ne hj] at htx'
      exact (h.owns j tx' htx').mono fun k => howner k j
  claims j tx' htx' k hk := by
    by_cases hj : j = i
    · rw [htxs, hj, Function.update_self] at htx'
      obtain rfl := Option.some.inj htx'
      rw [hj]
      exact hclaims k hk
    · rw [htxs, Function.update_of_ne hj] at htx'
      exact howner k j (h.claims j tx' htx' k hk)
  seen j tx' htx' k := by
    have hview : s'.view tx'.writes = s.view tx'.writes := by rw [view, hdb, ← view]
    rw [hview]
    by_cases hj : j = i
    · rw [htxs, hj, Function.update_self] at htx'
      obtain rfl := Option.some.inj htx'
      exact hseen k
    · rw [htxs, Function.update_of_ne hj] at htx'
      exact h.seen j tx' htx' k

/-- A transaction ends: what it has seen, or nothing new, is committed. -/
theorem close (h : s.InvAt drawers) {db : Db}
    (hcommitted : ∀ k, (LogShard.of k db).Lawful k)
    (hkept : ∀ k, owner s.locks drawers k ≠ some i →
      LogShard.of k db = LogShard.of k s.world.db) :
    ({ s with world := { s.world with db := db } }.close i).InvAt drawers where
  committed := hcommitted
  fresh eventId hle := by
    obtain ⟨hnone, hempty⟩ := h.fresh eventId hle
    refine ⟨hnone, ?_⟩
    rw [← hempty]
    exact hkept (.event eventId) (by rw [owner, hnone]; exact nofun)
  owns j tx htx := by
    obtain ⟨hj, htx⟩ := txs_close htx
    exact (h.owns j tx htx).mono fun k => owner_release hj k
  claims j tx htx k hk := by
    obtain ⟨hj, htx⟩ := txs_close htx
    exact owner_release hj k (h.claims j tx htx k hk)
  seen j tx htx k := by
    obtain ⟨hj, htx⟩ := txs_close htx
    by_cases hk : owner s.locks drawers k = some j
    · have hshard : LogShard.of k (ReadCommitted.view LogWrite.apply db tx.writes) =
          LogShard.of k (s.view tx.writes) := by
        apply LogWrite.local_apply.shard_view_congr
        apply hkept
        rw [hk]
        exact fun heq => hj (Option.some.inj heq)
      change tx.place.Shows k (LogShard.of k (ReadCommitted.view LogWrite.apply db tx.writes))
      rw [hshard]
      exact h.seen j tx htx k
    · apply AppendPlace.shows_of_lawful
      · exact fun hclaims => hk (h.claims j tx htx k hclaims)
      · change (LogShard.of k (ReadCommitted.view LogWrite.apply db tx.writes)).Lawful k
        rw [(h.owns j tx htx).shard_view LogWrite.local_apply hk]
        exact hcommitted k

theorem begin (h : s.InvAt drawers) (i : ℕ) :
    (s.put i { writes := [], place := .ready }).InvAt drawers :=
  h.put rfl le_rfl rfl (fun eventId hle => (h.fresh eventId hle).1) (fun _ _ => id) (.nil _ _)
    nofun h.committed

theorem abort (h : s.InvAt drawers) (htx : s.txs i = some tx) :
    (s.put i { tx with place := .aborted }).InvAt drawers :=
  h.put rfl le_rfl rfl (fun eventId hle => (h.fresh eventId hle).1) (fun _ _ => id)
    (h.owns i tx htx) nofun (fun _ => trivial)

theorem drawn (h : s.InvAt drawers) : s.drawn.InvAt drawers where
  committed := h.committed
  fresh eventId hle := h.fresh eventId ((Nat.le_succ _).trans hle)
  owns := h.owns
  claims := h.claims
  seen := h.seen

end InvAt

/-! ## The statements -/

theorem owner_acquire {locks : Uuid → Option ℕ} {runId : Uuid} {j : ℕ}
    (hfree : Locks.Free locks runId i) (k : LogKey) (h : owner locks drawers k = some j) :
    owner (Locks.acquire locks runId i) drawers k = some j := by
  cases k with
  | event eventId => exact h
  | run runId' =>
      have hlock : locks runId' = some j := h
      by_cases hrun : runId' = runId
      · rw [hrun] at hlock
        rw [owner, hrun, Locks.acquire, Function.update_self]
        rcases hfree with hnone | hown
        · rw [hnone] at hlock
          cases hlock
        · exact hown.symm.trans hlock
      · rw [owner, Locks.acquire, Function.update_of_ne hrun]
        exact hlock

/-- A run that is not there yet has left nothing else either. -/
theorem empty_of_absent {db : Db} {runId : Uuid}
    (hlaw : (LogShard.of (.run runId) db).Lawful (.run runId))
    (habsent : ∀ r ∈ db.runs, r.id ≠ runId) : LogShard.of (.run runId) db = .empty := by
  rcases hlaw with hempty | ⟨row, c, n, hnumbered⟩
  · exact hempty
  · have hmem : row ∈ (LogShard.of (.run runId) db).runs := by
      rw [hnumbered.runs]
      exact List.mem_singleton_self row
    obtain ⟨hrow, hid⟩ := List.mem_filter.mp hmem
    exact absurd (of_decide_eq_true hid) (habsent row hrow)

/-- What `SELECT … FOR UPDATE` reads in a run between appends. -/
theorem allocated_of_ok {db : Db} {options : AppendEventOptions} {sequence : Option ℕ}
    {k : LogKey} (hk : options.counterKey = some k) (hlaw : (LogShard.of k db).Lawful k)
    (h : DomainEvent.allocated options db.runEventCounters = .ok sequence) :
    (LogShard.of k db).Allocated options sequence 0 := by
  obtain ⟨r, hrun, rfl⟩ := Option.map_eq_some_iff.mp hk
  rw [DomainEvent.allocated, hrun] at h
  dsimp only at h
  cases hfind : db.runEventCounters.find? (DomainEvent.isCounterOf options r) with
  | none =>
      rw [hfind] at h
      cases h
  | some c =>
      rw [hfind] at h
      have hcounter : DomainEvent.isCounterOf options r c = true := List.find?_some hfind
      obtain ⟨hid, hcompany⟩ := of_decide_eq_true hcounter
      have hmem : c ∈ (LogShard.of (.run r.value) db).counters :=
        List.mem_filter.mpr ⟨List.mem_of_find?_eq_some hfind, decide_eq_true hid⟩
      rcases hlaw with hempty | ⟨row, c', n, hnumbered⟩
      · rw [hempty] at hmem
        cases hmem
      · rw [hnumbered.counters] at hmem
        obtain rfl := List.mem_singleton.mp hmem
        refine ⟨row, c, n, hnumbered, hcompany, ?_⟩
        rw [← Except.ok.inj h, hnumbered.next]

theorem allocated_bump {db : Db} {options : AppendEventOptions} {sequence : Option ℕ}
    {k : LogKey} (hk : options.counterKey = some k)
    (h : (LogShard.of k db).Allocated options sequence 0) :
    (LogShard.of k (LogWrite.apply db (.bump options))).Allocated options sequence 1 := by
  obtain ⟨r, hrun, rfl⟩ := Option.map_eq_some_iff.mp hk
  obtain ⟨row, c, n, hnumbered, hcompany, hsequence⟩ := h
  have hid : c.runId = r.value := by
    have hmem : c ∈ (LogShard.of (.run r.value) db).counters := by
      rw [hnumbered.counters]
      exact List.mem_singleton_self c
    exact of_decide_eq_true (List.mem_filter.mp hmem).2
  have hcounters : (LogShard.of (.run r.value)
      (LogWrite.apply db (.bump options))).counters =
        [{ c with nextSequence := c.nextSequence + 1 }] := by
    change (DomainEvent.bumpCounter options db.runEventCounters).filter _ = _
    have hold : (db.runEventCounters.filter fun c => c.runId = r.value) = [c] :=
      hnumbered.counters
    rw [DomainEvent.filter_bumpCounter, hold, DomainEvent.bumpCounter, hrun]
    simp [Table.updateWhere_cons, DomainEvent.isCounterOf, hid, hcompany]
  refine ⟨row, _, n, { hnumbered with counters := hcounters, next := ?_ }, hcompany, hsequence⟩
  change c.nextSequence + 1 = n + 1 + 1
  rw [hnumbered.next]

/-- A free number is the next one. -/
theorem numbered_event (eventId : Uuid) (occurredAt : Timestamp) {sh : LogShard}
    {options : AppendEventOptions} {sequence : Option ℕ}
    (h : sh.Allocated options sequence 1)
    (hfree : ∀ e ∈ sh.events, e.runSequence ≠ sequence) :
    ∃ row c n, LogShard.Numbered row c n 0
      { sh with
        events := sh.events ++ [DomainEvent.eventRow options eventId sequence occurredAt] } := by
  obtain ⟨row, c, n, hnumbered, hcompany, hsequence⟩ := h
  have hlt : n < 2 ^ 53 := by
    rcases hnumbered.n_le.lt_or_eq with hlt | heq
    · exact hlt
    · -- the number after `2 ^ 53` is read as `2 ^ 53`, which is taken
      have hmem : some (2 ^ 53) ∈ sh.events.map EventRow.runSequence := by
        rw [hnumbered.sequences, heq]
        apply List.mem_map_of_mem
        simp
      obtain ⟨e, he, htaken⟩ := List.mem_map.mp hmem
      rw [heq, parseInt_succ] at hsequence
      exact absurd (htaken.trans hsequence.symm) (hfree e he)
  rw [parseInt_of_le hlt] at hsequence
  refine ⟨row, c, n + 1, { hnumbered with sequences := ?_, next := ?_, companies := ?_, n_le := hlt }⟩
  · rw [List.map_append, hnumbered.sequences, List.range'_1_concat, List.map_append,
      Nat.add_comm 1 n]
    exact congrArg (_ ++ [·]) hsequence
  · exact hnumbered.next
  · intro e he
    rcases List.mem_append.mp he with he | he
    · exact hnumbered.companies e he
    · obtain rfl := List.mem_singleton.mp he
      exact hcompany.symm.trans hnumbered.company

namespace InvAt

variable {writes : List LogWrite} {options : AppendEventOptions} {eventId : Uuid}
  {sequence : Option ℕ} {occurredAt : Timestamp}

theorem insertRun (h : s.InvAt drawers) (htx : s.txs i = some ⟨writes, .ready⟩) {row : RunRow}
    (habsent : ∀ r ∈ (s.view writes).runs, r.id ≠ row.id)
    (hfree : Locks.Free s.locks row.id i) :
    ((s.put i ⟨writes ++ [.run row], .ready⟩).lock i row.id).InvAt drawers := by
  refine h.put rfl le_rfl rfl (fun eventId hle => (h.fresh eventId hle).1)
    (fun k j => owner_acquire hfree k) ?_ nofun ?_
  · apply ((h.owns i _ htx).mono (owner_acquire hfree)).concat
    intro k hk
    cases k with
    | event eventId => cases hk
    | run runId =>
        obtain rfl : row.id = runId := hk
        exact Function.update_self ..
  · intro k
    have hlaw : (LogShard.of k (s.view writes)).Lawful k := h.seen i _ htx k
    change (LogShard.of k (s.view (writes ++ [.run row]))).Lawful k
    rw [view_concat]
    by_cases hk : (LogWrite.run row).Touches k
    · cases k with
      | event eventId => cases hk
      | run runId =>
          obtain rfl : row.id = runId := hk
          have hempty := empty_of_absent hlaw habsent
          obtain ⟨hruns, hcounters, hevents, -⟩ := (LogShard.mk.injEq ..).mp hempty
          refine .inr ⟨row, { companyId := row.companyId, runId := row.id, nextSequence := 1 }, 0,
            ?_⟩
          exact
            { runs := by simp [LogWrite.apply, LogShard.of, List.filter_append, hruns]
              counters := by
                simp only [LogWrite.apply, LogShard.of, List.filter_append, hcounters]
                simp
              messages := rfl
              sequences := by simp [LogWrite.apply, LogShard.of, hevents]
              next := rfl
              company := rfl
              companies := by simp [LogWrite.apply, LogShard.of, hevents]
              n_le := Nat.zero_le _ }
    · rw [LogWrite.local_apply.frame k _ _ hk]
      exact hlaw

theorem selectCounter (h : s.InvAt drawers) (htx : s.txs i = some ⟨writes, .ready⟩)
    (hallocated : DomainEvent.allocated options (s.view writes).runEventCounters = .ok sequence)
    (hlock : s.mayLock i options = true) :
    ((((s.put i ⟨writes, .selected options s.world.nextId sequence⟩).lockCounter i
      options).drawn).InvAt (Function.update drawers s.world.nextId (some i))) := by
  have howner : ∀ k j, owner s.locks drawers k = some j →
      owner (lockCounter s i options).locks (Function.update drawers s.world.nextId (some i)) k =
        some j := by
    intro k j hk
    cases k with
    | event eventId =>
        have hne : eventId ≠ s.world.nextId := by
          intro heq
          have hnone := (h.fresh eventId heq.ge).1
          exact absurd (hnone.symm.trans hk) nofun
        exact (Function.update_of_ne hne ..).trans hk
    | run runId =>
        cases hrun : options.runId with
        | none =>
            rw [lockCounter, hrun]
            exact hk
        | some r =>
            rw [mayLock, hrun] at hlock
            rw [lockCounter, hrun]
            exact owner_acquire (of_decide_eq_true hlock) (.run runId) hk
  have hlocks : ((s.put i ⟨writes, .selected options s.world.nextId sequence⟩).lockCounter i
      options).drawn.locks = (lockCounter s i options).locks := by
    unfold lockCounter
    cases options.runId <;> rfl
  have hworld : ((s.put i ⟨writes, .selected options s.world.nextId sequence⟩).lockCounter i
      options).drawn.world = s.drawn.world := by
    rw [world_drawn, world_lockCounter, world_put, world_drawn]
  have htxs : ((s.put i ⟨writes, .selected options s.world.nextId sequence⟩).lockCounter i
      options).drawn.txs =
        Function.update s.txs i (some ⟨writes, .selected options s.world.nextId sequence⟩) := by
    rw [txs_drawn, txs_lockCounter]
    rfl
  refine h.put (by rw [hworld]; rfl) (by rw [hworld]; exact Nat.le_succ _) htxs ?_ ?_ ?_ ?_ ?_
  · intro eventId hle
    rw [hworld] at hle
    rw [Function.update_of_ne (Nat.lt_of_succ_le hle).ne']
    exact (h.fresh eventId ((Nat.le_succ _).trans hle)).1
  · rw [hlocks]
    exact howner
  · rw [hlocks]
    exact (h.owns i _ htx).mono fun k => howner k i
  · rw [hlocks]
    rintro k (rfl | hk)
    · exact Function.update_self ..
    · obtain ⟨r, hrun, rfl⟩ := Option.map_eq_some_iff.mp hk
      rw [lockCounter, hrun]
      exact Function.update_self ..
  · intro k
    have hlaw : (LogShard.of k (s.view writes)).Lawful k := h.seen i _ htx k
    refine ⟨?_, fun hk => allocated_of_ok hk hlaw hallocated, hlaw⟩
    rintro rfl
    obtain ⟨hnone, hempty⟩ := h.fresh s.world.nextId le_rfl
    change LogShard.of _ (ReadCommitted.view LogWrite.apply s.world.db writes) = _
    rw [(h.owns i _ htx).shard_view LogWrite.local_apply, hempty]
    rw [owner, hnone]
    exact nofun

theorem updateCounter (h : s.InvAt drawers)
    (htx : s.txs i = some ⟨writes, .selected options eventId sequence⟩) :
    (s.put i ⟨writes ++ [.bump options], .counted options eventId sequence⟩).InvAt drawers := by
  refine h.put rfl le_rfl rfl (fun eventId hle => (h.fresh eventId hle).1) (fun _ _ => id) ?_
    (fun k hk => h.claims i _ htx k hk) ?_
  · apply (h.owns i _ htx).concat
    exact fun k hk => h.claims i _ htx k (.inr hk)
  · intro k
    obtain ⟨hevent, hallocated, hlaw⟩ := h.seen i _ htx k
    have hframe (hk : options.counterKey ≠ some k) :
        LogShard.of k (s.view (writes ++ [.bump options])) = LogShard.of k (s.view writes) := by
      rw [view_concat]
      exact LogWrite.local_apply.frame k _ (.bump options) hk
    refine ⟨?_, ?_, ?_⟩
    · intro hk
      rw [hframe]
      · exact hevent hk
      · rw [hk, AppendEventOptions.counterKey]
        cases options.runId <;> simp
    · intro hk
      rw [view_concat]
      exact allocated_bump hk (hallocated hk)
    · intro hk
      rw [hframe hk]
      exact hlaw

theorem insertEvent (h : s.InvAt drawers)
    (htx : s.txs i = some ⟨writes, .counted options eventId sequence⟩)
    (hfree : DomainEvent.sequenceTaken
      (DomainEvent.eventRow options eventId sequence occurredAt) (s.view writes).events = false) :
    (s.put i ⟨writes ++ [.event (DomainEvent.eventRow options eventId sequence occurredAt)],
      .inserted options eventId sequence occurredAt⟩).InvAt drawers := by
  have htouches : ∀ k, (LogWrite.event (DomainEvent.eventRow options eventId sequence
      occurredAt)).Touches k ↔ k = .event eventId ∨ options.counterKey = some k := by
    intro k
    cases k with
    | event e =>
        simp only [LogWrite.Touches, DomainEvent.eventRow, AppendEventOptions.counterKey]
        cases options.runId <;> simp [eq_comm]
    | run r =>
        simp only [LogWrite.Touches, DomainEvent.eventRow, AppendEventOptions.counterKey]
        cases options.runId <;> simp
  refine h.put rfl le_rfl rfl (fun eventId hle => (h.fresh eventId hle).1) (fun _ _ => id) ?_
    (fun k hk => h.claims i _ htx k hk) ?_
  · apply (h.owns i _ htx).concat
    exact fun k hk => h.claims i _ htx k ((htouches k).mp hk)
  · intro k
    obtain ⟨hevent, hallocated, hlaw⟩ := h.seen i _ htx k
    refine ⟨?_, ?_⟩
    · rintro rfl
      obtain ⟨-, -, hevents, hmessages⟩ := (LogShard.mk.injEq ..).mp (hevent rfl)
      rw [view_concat]
      simp [LogWrite.apply, LogShard.of, List.filter_append, hevents, hmessages,
        DomainEvent.eventRow]
    · intro hk
      rw [view_concat]
      by_cases hcounter : options.counterKey = some k
      · obtain ⟨r, hrun, rfl⟩ := Option.map_eq_some_iff.mp hcounter
        obtain ⟨row, c, n, hnumbered⟩ := numbered_event eventId occurredAt
          (hallocated hcounter) (by
            intro e he htaken
            obtain ⟨hmem, hrunId⟩ := List.mem_filter.mp he
            simp only [DomainEvent.sequenceTaken, List.any_eq_false, decide_eq_true_eq] at hfree
            apply hfree e hmem
            refine ⟨?_, htaken, ?_⟩
            · simpa [DomainEvent.eventRow, hrun] using hrunId
            · simp [DomainEvent.eventRow, hrun])
        refine .inr ⟨row, c, n, ?_⟩
        have hshard : LogShard.of (.run r.value) (LogWrite.apply (s.view writes)
            (.event (DomainEvent.eventRow options eventId sequence occurredAt))) =
              { LogShard.of (.run r.value) (s.view writes) with
                events := (LogShard.of (.run r.value) (s.view writes)).events ++
                  [DomainEvent.eventRow options eventId sequence occurredAt] } := by
          simp [LogWrite.apply, LogShard.of, List.filter_append, DomainEvent.eventRow, hrun]
        rw [hshard]
        exact hnumbered
      · rw [LogWrite.local_apply.frame k _ _ fun htouched => (htouches k).mp htouched |>.elim hk hcounter]
        exact hlaw hcounter

theorem insertMessage (h : s.InvAt drawers)
    (htx : s.txs i = some ⟨writes, .inserted options eventId sequence occurredAt⟩)
    (messageId : Uuid) :
    (s.put i ⟨writes ++ [.message (DomainEvent.outboxMessageRow options messageId eventId
      sequence occurredAt)], .ready⟩).InvAt drawers := by
  refine h.put rfl le_rfl rfl (fun eventId hle => (h.fresh eventId hle).1) (fun _ _ => id) ?_
    nofun ?_
  · apply (h.owns i _ htx).concat
    intro k hk
    cases k with
    | run r => cases hk
    | event e =>
        obtain rfl : eventId = e := hk
        exact h.claims i _ htx _ (.inl rfl)
  · intro k
    obtain ⟨hevent, hlaw⟩ := h.seen i _ htx k
    change (LogShard.of k (s.view _)).Lawful k
    rw [view_concat]
    by_cases hk : k = .event eventId
    · have hshard := hevent hk
      rw [hk] at hshard ⊢
      obtain ⟨-, -, hevents, hmessages⟩ := (LogShard.mk.injEq ..).mp hshard
      refine .inr ⟨_, _, ?_, DomainEvent.carries_outboxMessageRow options messageId eventId
        sequence occurredAt⟩
      simp [LogWrite.apply, LogShard.of, List.filter_append, hevents, hmessages,
        DomainEvent.outboxMessageRow]
    · rw [LogWrite.local_apply.frame]
      · exact hlaw hk
      · cases k with
        | run r => exact id
        | event e => exact fun heq => hk (congrArg LogKey.event (Eq.symm heq))

end InvAt

end EventLog

end Aico
