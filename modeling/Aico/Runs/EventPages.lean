import Aico.Governance.EventLogIntact
import Aico.Runs.Runs

/-!
# Reading the events of a run page by page

A client calls `Runs.events` again and again, each time for what comes after the last
number it has received, while transactions append events to the run, also between the
two statements of a call. The numbers of a run are handed out under a lock that is kept
to the commit, so an event that is committed later has a higher number: what the client
has received is always a front part of the committed events it selects, and all of them
once a page says that there are no more.
-/

namespace Aico

theorem Runs.assertRun_run (companyId runId : Uuid) (w : World) :
    assertRun companyId runId w =
      if w.db.runs.any (isRun companyId runId) then (.ok ⟨⟩, w)
      else (.error (.domain notFound), w) := by
  rw [assertRun, Op.query_bind, Prog.ensure]
  split <;> rfl

/-- What the client reads: the events of a run, of one type when it names one. -/
structure EventReader where
  companyId : Uuid
  runId : Uuid
  query : EventQueryDto

/-- The event log with a client that reads it. `due` are the events that were committed
when the last call began; the client does not know them. -/
structure PagedLog where
  log : EventLog
  received : List ProjectedEvent
  due : List EventRow
  calling : Bool
  done : Bool

/-- What can happen next: a statement of a transaction, or one of the two statements of
a call. -/
inductive PageAction where
  | log (act : LogAction)
  | call
  | select

namespace EventReader

def Wants (reader : EventReader) (e : EventRow) : Prop :=
  e.runId = some reader.runId ∧ Runs.matchesFilter reader.query.type e.type = true

def selection (reader : EventReader) (db : Db) : List EventRow :=
  db.events.filter (Runs.isSelected reader.companyId reader.runId 0 reader.query.type)

end EventReader

namespace PagedLog

def cursor (received : List ProjectedEvent) : ℕ :=
  (received.getLast?.map ProjectedEvent.runSequence).getD 0

def page (reader : EventReader) (s : PagedLog) : EventsPage :=
  let query := { reader.query with afterSequence := cursor s.received }
  Runs.eventsPage query.limit (Runs.eventRows reader.companyId reader.runId query s.log.world.db)

/-- The step of the system. A call begins when the run is one of the company, and the
client makes no more calls after a page without more. -/
def step (reader : EventReader) (s : PagedLog) : PageAction → PagedLog
  | .log act => { s with log := s.log.step act }
  | .call =>
      match (Runs.assertRun reader.companyId reader.runId s.log.world).1 with
      | .ok _ =>
          if s.done ∨ s.calling then s
          else { s with calling := true, due := s.log.world.db.events }
      | .error _ => s
  | .select =>
      if s.calling then
        { s with
          received := s.received ++ (s.page reader).events
          calling := false
          done := !(s.page reader).hasMore }
      else s

def after (reader : EventReader) (s : PagedLog) (acts : List PageAction) : PagedLog :=
  Transition.run (step reader) s acts

/-- Nothing has been read. -/
def initial (init : InitialLog) : PagedLog where
  log := init.log
  received := []
  due := []
  calling := false
  done := false

def calls (n : ℕ) : List PageAction :=
  (List.replicate n [.call, .select]).flatten

def unread (reader : EventReader) (s : PagedLog) : List EventRow :=
  (reader.selection s.log.world.db).drop s.received.length

def Found (reader : EventReader) (s : PagedLog) : Prop :=
  ∃ r ∈ s.log.world.db.runs, r.id = reader.runId ∧ r.companyId = reader.companyId

/-- The two statements in a row are a call of `Runs.events`. -/
theorem after_call (reader : EventReader) (s : PagedLog) {actor : RequestActor}
    {runId : UuidText} {response : EventsPage} {w : World}
    (hidle : ¬ (s.done = true ∨ s.calling = true)) (hrun : runId.value = reader.runId)
    (hactor : actor.companyId = some reader.companyId)
    (hevents : Runs.events actor runId { reader.query with afterSequence := cursor s.received }
      s.log.world = (.ok response, w)) :
    (s.after reader [.call, .select]).received = s.received ++ response.events ∧
      (s.after reader [.call, .select]).done = !response.hasMore := by
  rw [Runs.events, companyScopeFromActor, hactor, Op.require_some, hrun] at hevents
  obtain ⟨_, w', hassert, hevents⟩ := Prog.bind_eq_ok.mp hevents
  have hw' : w' = s.log.world := by
    rw [Runs.assertRun_run] at hassert
    split at hassert <;> cases hassert
    rfl
  rw [hw', Op.query_bind] at hevents
  have hresponse : s.page reader = response := Except.ok.inj (congrArg Prod.fst hevents)
  set calling := { s with calling := true, due := s.log.world.db.events }
  have hcall : s.step reader .call = calling := by
    rw [step, hassert]
    exact if_neg hidle
  rw [after, Transition.run_cons, hcall, ← hresponse]
  exact ⟨rfl, rfl⟩

end PagedLog

/-! ## What a client selects -/

namespace EventReader

variable {reader : EventReader} {log log' : EventLog}

theorem isSelected_iff {afterSequence : ℕ} {type : Option String} {e : EventRow} :
    Runs.isSelected reader.companyId reader.runId afterSequence type e = true ↔
      e.companyId = reader.companyId ∧ e.runId = some reader.runId ∧
        (∃ n, e.runSequence = some n ∧ afterSequence < n) ∧
          Runs.matchesFilter type e.type = true := by
  simp [Runs.isSelected, Option.any_eq_true]

theorem mem_selection {db : Db} {e : EventRow} : e ∈ reader.selection db ↔
    e ∈ db.events ∧ e.companyId = reader.companyId ∧
      (∃ n, e.runSequence = some n ∧ 0 < n) ∧ reader.Wants e := by
  rw [selection, List.mem_filter, isSelected_iff, Wants]
  tauto

theorem selection_grows {db db' : Db} (h : EventLog.Grows db db') :
    reader.selection db <+: reader.selection db' := by
  obtain ⟨new, hnew⟩ := h.events
  rw [selection, selection, ← hnew, List.filter_append]
  exact List.prefix_append ..

/-- The selection comes in the order of the numbers. -/
theorem selection_increasing (h : log.Inv) :
    (reader.selection log.world.db).Pairwise fun e e' =>
      EventLog.sequenceOf e < EventLog.sequenceOf e' := by
  have hsub : (reader.selection log.world.db).Sublist
      (log.world.db.events.filter fun e => e.runId = some reader.runId) := by
    apply List.monotone_filter_right
    intro e he
    exact decide_eq_true (isSelected_iff.mp he).2.1
  exact (h.increasing reader.runId).sublist hsub

/-- The rows a call after the number `k` reads. -/
theorem eventRows_eq (h : log.Inv) (k : ℕ) :
    Runs.eventRows reader.companyId reader.runId { reader.query with afterSequence := k }
        log.world.db =
      ((reader.selection log.world.db).filter fun e => k < EventLog.sequenceOf e).take
        (reader.query.limit + 1) := by
  have hfilter : log.world.db.events.filter
      (Runs.isSelected reader.companyId reader.runId k reader.query.type) =
        (reader.selection log.world.db).filter fun e => k < EventLog.sequenceOf e := by
    rw [selection, List.filter_filter]
    apply List.filter_congr
    intro e _
    rw [Bool.eq_iff_iff, Bool.and_eq_true, isSelected_iff, isSelected_iff, decide_eq_true_iff]
    constructor
    · rintro ⟨hcompany, hrun, ⟨n, hn, hlt⟩, htype⟩
      refine ⟨?_, hcompany, hrun, ⟨n, hn, Nat.zero_lt_of_lt hlt⟩, htype⟩
      rwa [EventLog.sequenceOf, hn]
    · rintro ⟨hlt, hcompany, hrun, ⟨n, hn, -⟩, htype⟩
      rw [EventLog.sequenceOf, hn] at hlt
      exact ⟨hcompany, hrun, ⟨n, hn, hlt⟩, htype⟩
  have hsorted : ((reader.selection log.world.db).filter fun e =>
      k < EventLog.sequenceOf e).Pairwise fun e e' => Runs.sequenceOrder e e' := by
    apply ((selection_increasing h).filter _).imp
    intro e e' hlt
    exact decide_eq_true hlt.le
  rw [Runs.eventRows]
  dsimp only
  rw [hfilter, hsorted.insertionSort_eq]

theorem mem_selection_of_wants (h : log.Inv)
    (hfound : ∃ r ∈ log.world.db.runs, r.id = reader.runId ∧ r.companyId = reader.companyId)
    {e : EventRow} (he : e ∈ log.world.db.events) (hwants : reader.Wants e) :
    e ∈ reader.selection log.world.db := by
  obtain ⟨r, hr, hid, hcompany⟩ := hfound
  obtain ⟨⟨n, hn, hpos, -⟩, hcompanies⟩ := h.of_mem he hwants.1
  exact mem_selection.mpr ⟨he, (hcompanies r hr hid).trans hcompany, ⟨n, hn, hpos⟩, hwants⟩

theorem projected_runSequence (h : log.Inv) {e : EventRow}
    (he : e ∈ reader.selection log.world.db) :
    (Runs.projected e).runSequence = EventLog.sequenceOf e := by
  obtain ⟨he, -, -, hwants⟩ := mem_selection.mp he
  obtain ⟨⟨n, hn, -, hle⟩, -⟩ := h.of_mem he hwants.1
  rw [Runs.projected, EventLog.sequenceOf, hn]
  exact parseInt_of_le hle

theorem sequenceOf_pos {db : Db} {e : EventRow} (he : e ∈ reader.selection db) :
    0 < EventLog.sequenceOf e := by
  obtain ⟨-, -, ⟨n, hn, hpos⟩, -⟩ := mem_selection.mp he
  rw [EventLog.sequenceOf, hn]
  exact hpos

theorem cursor_concat (h : log.Inv) {init : List EventRow} {last : EventRow}
    (hlast : last ∈ reader.selection log.world.db) :
    PagedLog.cursor ((init ++ [last]).map Runs.projected) = EventLog.sequenceOf last := by
  rw [PagedLog.cursor, List.map_append, List.map_singleton, List.getLast?_concat]
  exact projected_runSequence h hlast

/-- What comes after the number of the last event of a front part is the rest. -/
theorem unread_eq (h : log.Inv) {front rest : List EventRow}
    (hselection : reader.selection log.world.db = front ++ rest) :
    (reader.selection log.world.db).filter (fun e =>
      PagedLog.cursor (front.map Runs.projected) < EventLog.sequenceOf e) = rest := by
  have hmem : ∀ e ∈ front ++ rest, e ∈ reader.selection log.world.db := fun e he =>
    hselection ▸ he
  have hincreasing : (reader.selection log.world.db).Pairwise _ := selection_increasing h
  rw [hselection, List.pairwise_append] at hincreasing
  obtain ⟨hfront, -, hbetween⟩ := hincreasing
  rw [hselection]
  rcases List.eq_nil_or_concat' front with rfl | ⟨init, last, rfl⟩
  · apply List.filter_eq_self.mpr
    intro e he
    exact decide_eq_true (sequenceOf_pos (hmem e he))
  · rw [cursor_concat h (hmem last (by simp)), List.filter_append, List.filter_eq_nil_iff.mpr,
      List.filter_eq_self.mpr, List.nil_append]
    · intro e he
      exact decide_eq_true (hbetween last (by simp) e he)
    · intro e he
      rw [decide_eq_true_iff, Nat.not_lt]
      rcases List.mem_append.mp he with he | he
      · exact ((List.pairwise_append.mp hfront).2.2 e he last (by simp)).le
      · rw [List.mem_singleton.mp he]

end EventReader

/-! ## Every page goes on where the last one ended -/

namespace PagedLog

variable {reader : EventReader} {s : PagedLog}

/-- What the client has received is a front part of what it selects, and with the last
page it has everything that was due. -/
structure Inv (reader : EventReader) (s : PagedLog) : Prop where
  log : s.log.Inv
  received : s.received <+: (reader.selection s.log.world.db).map Runs.projected
  due : s.due <+: s.log.world.db.events
  found : s.calling = true ∨ s.done = true → s.Found reader
  open_of_calling : s.calling = true → s.done = false
  complete : s.done = true → ∀ e ∈ s.due, reader.Wants e → Runs.projected e ∈ s.received

theorem Inv.initial (reader : EventReader) (init : InitialLog) : Inv reader (initial init) where
  log := init.inv
  received := List.nil_prefix
  due := List.nil_prefix
  found := by simp [PagedLog.initial]
  open_of_calling := by simp [PagedLog.initial]
  complete := by simp [PagedLog.initial]

/-- The appends of other transactions come after everything that is committed. -/
theorem Inv.append (h : Inv reader s) (act : LogAction) :
    Inv reader { s with log := s.log.step act } := by
  have hgrows := s.log.grows_step act
  refine
    { log := h.log.step act
      received := h.received.trans ((EventReader.selection_grows hgrows).map _)
      due := h.due.trans hgrows.events
      found := ?_
      open_of_calling := h.open_of_calling
      complete := h.complete }
  intro hfound
  obtain ⟨r, hr, hrun⟩ := h.found hfound
  exact ⟨r, hgrows.runs.subset hr, hrun⟩

/-- A call begins with everything due that is committed. -/
theorem Inv.call (h : Inv reader s) (hidle : ¬ (s.done = true ∨ s.calling = true))
    (hfound : (Runs.assertRun reader.companyId reader.runId s.log.world).1 = .ok ⟨⟩) :
    Inv reader { s with calling := true, due := s.log.world.db.events } := by
  have hrun : ∃ r ∈ s.log.world.db.runs,
      r.id = reader.runId ∧ r.companyId = reader.companyId := by
    rw [Runs.assertRun_run] at hfound
    split at hfound
    next hany =>
      obtain ⟨r, hr, hrun⟩ := List.any_eq_true.mp hany
      obtain ⟨hcompany, hid⟩ := of_decide_eq_true hrun
      exact ⟨r, hr, hid, hcompany⟩
    next => cases hfound
  exact
    { log := h.log
      received := h.received
      due := List.prefix_rfl
      found := fun _ => hrun
      open_of_calling := fun _ => Bool.eq_false_iff.mpr fun hdone => hidle (.inl hdone)
      complete := fun hdone => absurd (.inl hdone) hidle }

theorem page_eq (h : s.log.Inv) {front rest : List EventRow}
    (hselection : reader.selection s.log.world.db = front ++ rest)
    (hreceived : s.received = front.map Runs.projected) :
    s.page reader =
      { events := (rest.take reader.query.limit).map Runs.projected
        hasMore := reader.query.limit < rest.length } := by
  rw [page]
  dsimp only
  rw [EventReader.eventRows_eq h, hreceived, EventReader.unread_eq h hselection, Runs.eventsPage,
    List.take_take, List.length_take, Nat.min_eq_left (Nat.le_succ _)]
  congr 1
  rw [decide_eq_decide]
  omega

theorem Inv.select (h : Inv reader s) (hcalling : s.calling = true) :
    Inv reader
      { s with
        received := s.received ++ (s.page reader).events
        calling := false
        done := !(s.page reader).hasMore } := by
  obtain ⟨front, ⟨rest, hselection⟩, hreceived⟩ := List.prefix_map_iff.mp h.received
  have hnow : s.received ++ (rest.take reader.query.limit).map Runs.projected =
      (front ++ rest.take reader.query.limit).map Runs.projected := by
    rw [hreceived, List.map_append]
  have hfound := h.found (.inl hcalling)
  rw [page_eq h.log hselection.symm hreceived, hnow]
  refine
    { log := h.log
      received := ?_
      due := h.due
      found := fun _ => hfound
      open_of_calling := by simp
      complete := ?_ }
  · rw [← hselection]
    exact ((List.prefix_append_right_inj front).mpr (List.take_prefix ..)).map _
  · -- the page without more is the whole rest of the selection
    intro hdone e he hwants
    have hall : rest.take reader.query.limit = rest := by
      apply List.take_of_length_le
      simpa using hdone
    dsimp only
    rw [hall, hselection]
    apply List.mem_map_of_mem
    exact EventReader.mem_selection_of_wants h.log hfound (h.due.subset he) hwants

/-- Every statement keeps the invariant. -/
theorem Inv.step (h : Inv reader s) (act : PageAction) : Inv reader (s.step reader act) := by
  cases act with
  | log act => exact h.append act
  | call =>
      rw [PagedLog.step]
      split
      next hassert =>
        split
        next => exact h
        next hidle => exact h.call hidle hassert
      next => exact h
  | select =>
      rw [PagedLog.step]
      split
      next hcalling => exact h.select hcalling
      next => exact h

theorem inv_after (reader : EventReader) (init : InitialLog) (acts : List PageAction) :
    Inv reader ((initial init).after reader acts) :=
  Transition.run_invariant (fun _ act h => h.step act) (.initial reader init) acts

theorem Inv.after (h : Inv reader s) (acts : List PageAction) :
    Inv reader (s.after reader acts) :=
  Transition.run_invariant (fun _ act h => h.step act) h acts

/-- A page brings the next events, and is the last one if that is all of them. -/
theorem Inv.page_unread (h : Inv reader s) :
    s.page reader =
      { events := ((s.unread reader).take reader.query.limit).map Runs.projected
        hasMore := reader.query.limit < (s.unread reader).length } := by
  obtain ⟨front, ⟨rest, hselection⟩, hreceived⟩ := List.prefix_map_iff.mp h.received
  have hunread : s.unread reader = rest := by
    rw [unread, ← hselection, hreceived, List.length_map]
    exact List.drop_left
  rw [page_eq h.log hselection.symm hreceived, hunread]

theorem Inv.received_select (h : Inv reader s) (hcalling : s.calling = true) :
    (s.step reader .select).received =
      s.received ++ ((s.unread reader).take reader.query.limit).map Runs.projected := by
  rw [PagedLog.step, if_pos hcalling, h.page_unread]

theorem Inv.done_select (h : Inv reader s) (hcalling : s.calling = true) :
    (s.step reader .select).done = true ↔ (s.unread reader).length ≤ reader.query.limit := by
  rw [PagedLog.step, if_pos hcalling, h.page_unread]
  simp

/-- What is left to receive after a page. -/
theorem Inv.unread_select (h : Inv reader s) (hcalling : s.calling = true) :
    (s.step reader .select).unread reader =
      (s.unread reader).drop reader.query.limit := by
  have hlength : s.received.length + (s.unread reader).length =
      (reader.selection s.log.world.db).length := by
    have hle := h.received.length_le
    rw [List.length_map] at hle
    rw [unread, List.length_drop]
    omega
  rw [PagedLog.step, if_pos hcalling, unread, h.page_unread]
  dsimp only
  rw [List.length_append, List.length_map, List.length_take, unread, List.drop_drop]
  rcases le_total reader.query.limit (s.unread reader).length with hle | hle
  · rw [unread] at hle
    rw [Nat.min_eq_left hle]
  · rw [unread] at hle hlength
    rw [Nat.min_eq_right hle, List.drop_eq_nil_of_le, List.drop_eq_nil_of_le] <;> omega

/-- A client that has come to the end stays there. -/
theorem after_calls_of_done (hdone : s.done = true) (hidle : s.calling = false) (n : ℕ) :
    s.after reader (calls n) = s := by
  induction n with
  | zero => rfl
  | succ n ih =>
      have hcall : s.step reader .call = s := by
        rw [step]
        split
        next => exact if_pos (.inl hdone)
        next => rfl
      have hselect : s.step reader .select = s := by
        rw [step, hidle]
        rfl
      rw [calls, List.replicate_succ, List.flatten_cons, ← calls, after, Transition.run_append,
        Transition.run_cons, Transition.run_cons, Transition.run_nil, hcall, hselect]
      exact ih

theorem after_calls_succ (n : ℕ) :
    s.after reader (calls (n + 1)) =
      ((s.step reader .call).step reader .select).after reader (calls n) := by
  rw [calls, List.replicate_succ, List.flatten_cons, ← calls, after, Transition.run_append]
  rfl

theorem unread_call : (s.step reader .call).unread reader = s.unread reader := by
  rw [step]
  split
  next => split <;> rfl
  next => rfl

theorem log_call : (s.step reader .call).log = s.log := by
  rw [step]
  split
  next => split <;> rfl
  next => rfl

theorem log_select : (s.step reader .select).log = s.log := by
  rw [step]
  split <;> rfl

theorem calling_call (hfound : s.Found reader) (hdone : s.done = false) :
    (s.step reader .call).calling = true := by
  obtain ⟨r, hr, hid, hcompany⟩ := hfound
  have hany : s.log.world.db.runs.any (Runs.isRun reader.companyId reader.runId) = true :=
    List.any_eq_true.mpr ⟨r, hr, by simp [Runs.isRun, hid, hcompany]⟩
  rw [step, Runs.assertRun_run, if_pos hany]
  by_cases hcalling : s.calling = true
  · simp [hcalling]
  · simp [hdone, hcalling]

/-- Where nothing is appended any more, so many pages as hold what is left bring the
client to the end. -/
theorem Inv.done_after_calls (h : Inv reader s) (hfound : s.Found reader) {n : ℕ} (hn : 0 < n)
    (hleft : (s.unread reader).length ≤ n * reader.query.limit) :
    (s.after reader (calls n)).done = true := by
  induction n generalizing s with
  | zero => exact absurd hn (Nat.lt_irrefl 0)
  | succ n ih =>
      by_cases hdone : s.done = true
      · have hidle : s.calling = false := by
          by_contra hcalling
          rw [h.open_of_calling (Bool.not_eq_false _ ▸ hcalling)] at hdone
          cases hdone
        rw [after_calls_of_done hdone hidle]
        exact hdone
      · have hcall := calling_call hfound (Bool.not_eq_true _ ▸ hdone)
        have hinv := h.step .call
        have hleft' := hinv.unread_select hcall
        have hend := hinv.done_select hcall
        rw [unread_call] at hleft' hend
        rw [after_calls_succ]
        rcases Nat.eq_zero_or_pos n with rfl | hpos
        · rw [Nat.zero_add, Nat.one_mul] at hleft
          exact hend.mpr hleft
        · refine ih (hinv.step .select) ?_ hpos ?_
          · rw [Found, log_select, log_call]
            exact hfound
          · rw [hleft', List.length_drop, Nat.sub_le_iff_le_add, ← Nat.succ_mul]
            exact hleft

/-- The client has its events in the order of their numbers, and once a page says that
there are no more, it has every event that was due exactly once. Every page brings the
next events, as many as the limit allows, and says that there are no more where that was
all: as soon as nothing is appended, so many calls as hold what is left come to the
end. -/
structure Complete (reader : EventReader) (s : PagedLog) : Prop where
  increasing : s.received.Pairwise fun p p' => p.runSequence < p'.runSequence
  wanted : ∀ p ∈ s.received, ∃ e ∈ s.log.world.db.events, reader.Wants e ∧ p = Runs.projected e
  once : s.done = true → ∀ e ∈ s.due, reader.Wants e →
    (s.received.filter fun p => p.eventId = e.id) = [Runs.projected e]
  next : s.calling = true →
    (s.step reader .select).received =
        s.received ++ ((s.unread reader).take reader.query.limit).map Runs.projected ∧
      ((s.step reader .select).done = true ↔
        (s.unread reader).length ≤ reader.query.limit)
  ends : s.Found reader → ∀ n, 0 < n → (s.unread reader).length ≤ n * reader.query.limit →
    (s.after reader (calls n)).done = true

theorem Inv.increasing (h : Inv reader s) :
    s.received.Pairwise fun p p' => p.runSequence < p'.runSequence := by
  have hselection : ((reader.selection s.log.world.db).map Runs.projected).Pairwise fun p p' =>
      p.runSequence < p'.runSequence := by
    apply List.pairwise_map.mpr
    apply (EventReader.selection_increasing h.log).imp_of_mem
    intro e e' he he' hlt
    rwa [EventReader.projected_runSequence h.log he, EventReader.projected_runSequence h.log he']
  exact hselection.sublist h.received.sublist

/-- An event that was received was received once: its id is the one of no other event. -/
theorem Inv.once (h : Inv reader s) {e : EventRow} (he : e ∈ s.log.world.db.events)
    (hreceived : Runs.projected e ∈ s.received) :
    (s.received.filter fun p => p.eventId = e.id) = [Runs.projected e] := by
  obtain ⟨front, hfront, heq⟩ := List.prefix_map_iff.mp h.received
  have hsub : (front.filter fun e' => e'.id = e.id).Sublist [e] := by
    rw [← (h.log.intact.carried e he).1]
    exact (hfront.sublist.trans List.filter_sublist).filter _
  have hids : (s.received.filter fun p => p.eventId = e.id) =
      (front.filter fun e' => e'.id = e.id).map Runs.projected := by
    rw [heq, List.filter_map]
    rfl
  rcases List.sublist_singleton.mp hsub with hnone | hone
  · have hmem : Runs.projected e ∈ s.received.filter fun p => p.eventId = e.id :=
      List.mem_filter.mpr ⟨hreceived, decide_eq_true rfl⟩
    rw [hids, hnone] at hmem
    cases hmem
  · rw [hids, hone, List.map_singleton]

/-- However the appends of other transactions fall between and into its calls, the client
receives every event that was committed before its last call began. -/
theorem complete_after (reader : EventReader) (init : InitialLog) (acts : List PageAction) :
    Complete reader ((initial init).after reader acts) := by
  have h := inv_after reader init acts
  refine
    { increasing := h.increasing
      wanted := ?_
      once := ?_
      next := fun hcalling => ⟨h.received_select hcalling, h.done_select hcalling⟩
      ends := fun hfound n => h.done_after_calls hfound }
  · intro p hp
    obtain ⟨e, he, rfl⟩ := List.mem_map.mp (h.received.subset hp)
    obtain ⟨he, -, -, hwants⟩ := EventReader.mem_selection.mp he
    exact ⟨e, he, hwants, rfl⟩
  · intro hdone e he hwants
    exact h.once (h.due.subset he) (h.complete hdone e he hwants)

/-! ## A client between two commits -/

def demoLog : InitialLog where
  world := { db := Db.empty, objects := [], nextId := 10, now := 0 }
  runs := rfl
  runEventCounters := rfl
  events := rfl
  outboxMessages := rfl

def demoRun : RunRow where
  id := 2
  companyId := 1
  initiativeId := 3
  contextSnapshotId := 4
  state := .qualifying
  stage := .intake
  rowVersion := 1
  workflowVersion := "1"
  policyVersion := "1"
  blockingReasonCode := none
  failureReasonCode := none
  cancellationRequestedAt := none
  createdAt := 0
  updatedAt := 0

def demoEvent : AppendEventOptions where
  companyId := .ofUuid 1
  runId := some (.ofUuid 2)
  type := "run.state_changed"
  actorType := "SYSTEM"
  actorId := js "worker"
  correlationId := .ofUuid 5
  payload := .object []

def demoReader : EventReader where
  companyId := 1
  runId := 2
  query := { limit := 1 }

def appends (i : ℕ) : List PageAction :=
  [.selectCounter i demoEvent, .updateCounter i, .insertEvent i, .insertMessage i].map .log

/-- Two events are committed with the run, a third one while the first call is under way. -/
def pagedRun : List PageAction :=
  [.log (.begin 0), .log (.insertRun 0 demoRun)] ++ appends 0 ++ appends 0 ++
    [.log (.commit 0), .log (.begin 1), .call] ++ appends 1 ++ [.log (.commit 1), .select]

/-- Two more calls bring the other two events, and say that there are no more. -/
theorem complete_after_demo :
    let s := (initial demoLog).after demoReader (pagedRun ++ calls 2)
    s.done = true ∧ s.due.length = 3 ∧ ∀ e ∈ s.due,
      (s.received.filter fun p => p.eventId = e.id) = [Runs.projected e] := by
  have hended : (((initial demoLog).after demoReader pagedRun).after demoReader (calls 2)).done =
      true := by
    refine (complete_after demoReader demoLog pagedRun).ends ?_ 2 (by decide) (by decide)
    exact ⟨demoRun, List.mem_cons_self, rfl, rfl⟩
  have hdone : ((initial demoLog).after demoReader (pagedRun ++ calls 2)).done = true := by
    rw [after, Transition.run_append]
    exact hended
  refine ⟨hdone, by decide, fun e he => ?_⟩
  refine (complete_after demoReader demoLog (pagedRun ++ calls 2)).once hdone e he ?_
  have hwants : ∀ e ∈ ((initial demoLog).after demoReader (pagedRun ++ calls 2)).due,
      e.runId = some demoReader.runId ∧
        Runs.matchesFilter demoReader.query.type e.type = true := by decide
  exact hwants e he

end PagedLog

end Aico
