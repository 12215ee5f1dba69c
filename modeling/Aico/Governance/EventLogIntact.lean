import Aico.Governance.EventLogInvariant
import Aico.Governance.EventLogSteps

/-!
# The event log is gap-free

Whatever transactions overlap, and whichever of them roll back, the committed events of
a run are numbered from `1` to one below its counter, and every event has the one
message that carries it.
-/

namespace Aico

namespace EventLog

variable {s : EventLog}

/-- Every statement of every transaction keeps the invariant. -/
theorem Inv.step (h : s.Inv) (act : LogAction) : (s.step act).Inv := by
  obtain ⟨drawers, h⟩ := h
  cases act with
  | tick elapsed => exact ⟨drawers, h.committed, h.fresh, h.owns, h.claims, h.seen⟩
  | begin i =>
      rw [EventLog.step]
      split
      · exact ⟨drawers, h.begin i⟩
      · exact ⟨drawers, h⟩
  | insertRun i row =>
      rw [EventLog.step]
      split
      next writes htx =>
        split
        · exact ⟨drawers, h.abort htx⟩
        next habsent =>
          split
          next hfree =>
            refine ⟨drawers, h.insertRun htx (fun r hr hid => habsent ?_) hfree⟩
            exact List.any_eq_true.mpr ⟨r, hr, decide_eq_true hid⟩
          next => exact ⟨drawers, h⟩
      next => exact ⟨drawers, h⟩
  | selectCounter i options =>
      rw [EventLog.step]
      split
      next writes htx =>
        split
        next => exact ⟨drawers, h.drawn⟩
        next sequence hallocated =>
          split
          next hlock => exact ⟨_, h.selectCounter htx hallocated hlock⟩
          next => exact ⟨drawers, h⟩
      next => exact ⟨drawers, h⟩
  | updateCounter i =>
      rw [EventLog.step]
      split
      next htx => exact ⟨drawers, h.updateCounter htx⟩
      next => exact ⟨drawers, h⟩
  | insertEvent i =>
      rw [EventLog.step]
      split
      next htx =>
        simp only
        split
        · exact ⟨drawers, h.abort htx⟩
        next hfree => exact ⟨drawers, h.insertEvent htx (Bool.not_eq_true _ ▸ hfree)⟩
      next => exact ⟨drawers, h⟩
  | insertMessage i =>
      rw [EventLog.step]
      split
      next htx => exact ⟨drawers, (h.insertMessage htx s.world.nextId).drawn⟩
      next => exact ⟨drawers, h⟩
  | fails i =>
      rw [EventLog.step]
      split
      next htx => exact ⟨drawers, h.abort htx⟩
      next => exact ⟨drawers, h⟩
  | commit i =>
      rw [EventLog.step]
      split
      next writes htx =>
        refine ⟨drawers, h.close (h.seen i _ htx) fun k hk => ?_⟩
        exact (h.owns i _ htx).shard_view LogWrite.local_apply hk
      next => exact ⟨drawers, h⟩
  | rollback i =>
      rw [EventLog.step]
      split
      next => exact ⟨drawers, h.close h.committed fun _ _ => rfl⟩
      next => exact ⟨drawers, h⟩

end EventLog

theorem InitialLog.inv (init : InitialLog) : init.log.Inv := by
  have hempty : ∀ k, LogShard.of k init.world.db = .empty := by
    intro k
    cases k <;>
      simp [LogShard.of, LogShard.empty, init.runs, init.runEventCounters, init.events,
        init.outboxMessages]
  have hclosed : ∀ i tx, init.log.txs i ≠ some tx := by
    intro i tx htx
    cases htx
  exact ⟨fun _ => none,
    { committed := fun k => .inl (hempty k)
      fresh := fun eventId _ => ⟨rfl, hempty _⟩
      owns := fun i tx htx => absurd htx (hclosed i tx)
      claims := fun i tx htx => absurd htx (hclosed i tx)
      seen := fun i tx htx => absurd htx (hclosed i tx) }⟩

namespace EventLog

theorem inv_after (init : InitialLog) (acts : List LogAction) : (init.log.after acts).Inv :=
  Transition.run_invariant (fun _ act h => h.step act) init.inv acts

/-- The events of every run are numbered without a gap, and every event has the one
message that carries it. -/
structure Intact (db : Db) : Prop where
  numbered : ∀ r ∈ db.runs, ∃ c n, (db.runEventCounters.filter fun c => c.runId = r.id) = [c] ∧
    c.nextSequence = n + 1 ∧
    (db.events.filter fun e => e.runId = some r.id).map EventRow.runSequence =
      (List.range' 1 n).map some
  run : ∀ e ∈ db.events, ∀ runId, e.runId = some runId →
    ∃ r ∈ db.runs, r.id = runId ∧ e.companyId = r.companyId
  carried : ∀ e ∈ db.events, (db.events.filter fun e' => e'.id = e.id) = [e] ∧
    ∃ m, (db.outboxMessages.filter fun m => m.eventId = e.id) = [m] ∧ m.Carries e
  orphan : ∀ m ∈ db.outboxMessages, ∃ e ∈ db.events, m.Carries e

variable {s : EventLog}

theorem Inv.intact (h : s.Inv) : Intact s.world.db := by
  obtain ⟨drawers, h⟩ := h
  have hevent : ∀ k e, e ∈ (LogShard.of k s.world.db).events →
      LogShard.of k s.world.db ≠ .empty := by
    intro k e he hempty
    rw [hempty] at he
    cases he
  refine
    { numbered := ?_
      run := ?_
      carried := ?_
      orphan := ?_ }
  · intro r hr
    have hmem : r ∈ (LogShard.of (.run r.id) s.world.db).runs :=
      List.mem_filter.mpr ⟨hr, decide_eq_true rfl⟩
    obtain ⟨row, c, n, hnumbered⟩ := (h.committed (.run r.id)).resolve_left (by
      intro hempty
      rw [hempty] at hmem
      cases hmem)
    exact ⟨c, n, hnumbered.counters, hnumbered.next, hnumbered.sequences⟩
  · intro e he runId hrun
    have hmem : e ∈ (LogShard.of (.run runId) s.world.db).events :=
      List.mem_filter.mpr ⟨he, decide_eq_true hrun⟩
    obtain ⟨row, c, n, hnumbered⟩ := (h.committed (.run runId)).resolve_left (hevent _ e hmem)
    have hrow : row ∈ (LogShard.of (.run runId) s.world.db).runs := by
      rw [hnumbered.runs]
      exact List.mem_singleton_self row
    obtain ⟨hrow, hid⟩ := List.mem_filter.mp hrow
    exact ⟨row, hrow, of_decide_eq_true hid, hnumbered.companies e hmem⟩
  · intro e he
    have hmem : e ∈ (LogShard.of (.event e.id) s.world.db).events :=
      List.mem_filter.mpr ⟨he, decide_eq_true rfl⟩
    obtain ⟨e', m, hshard, hcarries⟩ :=
      (h.committed (.event e.id)).resolve_left (hevent _ e hmem)
    rw [hshard] at hmem
    obtain rfl := List.mem_singleton.mp hmem
    exact ⟨congrArg LogShard.events hshard, m, congrArg LogShard.messages hshard, hcarries⟩
  · intro m hm
    have hmem : m ∈ (LogShard.of (.event m.eventId) s.world.db).messages :=
      List.mem_filter.mpr ⟨hm, decide_eq_true rfl⟩
    obtain ⟨e, m', hshard, hcarries⟩ := (h.committed (.event m.eventId)).resolve_left (by
      intro hempty
      rw [hempty] at hmem
      cases hmem)
    have he : e ∈ (LogShard.of (.event m.eventId) s.world.db).events := by
      rw [hshard]
      exact List.mem_singleton_self e
    rw [hshard] at hmem
    obtain rfl := List.mem_singleton.mp hmem
    exact ⟨e, (List.mem_filter.mp he).1, hcarries⟩

/-! ## The committed events of a run -/

/-- The number of an event; an event of a run has one. -/
def sequenceOf (e : EventRow) : ℕ := e.runSequence.getD 0

theorem Inv.lawful (h : s.Inv) (k : LogKey) : (LogShard.of k s.world.db).Lawful k := by
  obtain ⟨drawers, h⟩ := h
  exact h.committed k

/-- The events of a run are committed in the order of their numbers. -/
theorem Inv.increasing (h : s.Inv) (runId : Uuid) :
    (s.world.db.events.filter fun e => e.runId = some runId).Pairwise fun e e' =>
      sequenceOf e < sequenceOf e' := by
  apply List.pairwise_map (f := sequenceOf) (R := (· < ·)) |>.mp
  rcases h.lawful (.run runId) with hempty | ⟨row, c, n, hnumbered⟩
  · have hnone : (s.world.db.events.filter fun e => e.runId = some runId) = [] :=
      congrArg LogShard.events hempty
    rw [hnone]
    exact .nil
  · have hsequences : (s.world.db.events.filter fun e => e.runId = some runId).map sequenceOf =
        List.range' 1 n := by
      have heq := congrArg (List.map fun o : Option ℕ => o.getD 0) hnumbered.sequences
      rw [List.map_map, List.map_map] at heq
      exact heq.trans (List.map_id _)
    rw [hsequences]
    exact List.pairwise_lt_range' 1

/-- An event of a run is one of the company of the run, and its number is read
exactly. -/
theorem Inv.of_mem (h : s.Inv) {e : EventRow} {runId : Uuid} (he : e ∈ s.world.db.events)
    (hrun : e.runId = some runId) :
    (∃ n, e.runSequence = some n ∧ 0 < n ∧ n ≤ 2 ^ 53) ∧
      ∀ r ∈ s.world.db.runs, r.id = runId → e.companyId = r.companyId := by
  have hmem : e ∈ (LogShard.of (.run runId) s.world.db).events :=
    List.mem_filter.mpr ⟨he, decide_eq_true hrun⟩
  rcases h.lawful (.run runId) with hempty | ⟨row, c, n, hnumbered⟩
  · rw [hempty] at hmem
    cases hmem
  · constructor
    · have hsequence : e.runSequence ∈ (List.range' 1 n).map some := by
        rw [← hnumbered.sequences]
        exact List.mem_map_of_mem hmem
      obtain ⟨k, hk, heq⟩ := List.mem_map.mp hsequence
      obtain ⟨hpos, hlt⟩ := List.mem_range'_1.mp hk
      exact ⟨k, heq.symm, hpos, by have := hnumbered.n_le; omega⟩
    · intro r hr hid
      have hrow : r ∈ (LogShard.of (.run runId) s.world.db).runs :=
        List.mem_filter.mpr ⟨hr, decide_eq_true hid⟩
      rw [hnumbered.runs] at hrow
      rw [List.mem_singleton.mp hrow]
      exact hnumbered.companies e hmem

/-- A rollback leaves the committed tables as they are. -/
theorem step_rollback_world (s : EventLog) (i : ℕ) : (s.step (.rollback i)).world = s.world := by
  rw [step]
  split <;> rfl

/-- In every reachable state the committed log is intact, and a transaction that rolls
back leaves nothing in it. -/
theorem intact_after (init : InitialLog) (acts : List LogAction) :
    Intact (init.log.after acts).world.db ∧
      ∀ i, ((init.log.after acts).step (.rollback i)).world = (init.log.after acts).world :=
  ⟨(inv_after init acts).intact, step_rollback_world _⟩

end EventLog

end Aico
