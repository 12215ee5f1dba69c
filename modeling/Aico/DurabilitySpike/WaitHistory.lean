import Aico.Workflow.RunStates

/-!
# The history of a wait

A run has at most one open wait, and that wait can be answered. A wait leaves
`OPEN` once; when an answer is what closes it, there is one answer version and
one event, and the run is back where it was when the wait was opened.
-/

namespace Aico

namespace Life

/-- What a transition does to the waits of a run. -/
structure WaitStep (l l' : Life) : Prop where
  opened : ∀ w' ∈ l'.waits, (∀ w ∈ l.waits, w.id ≠ w'.id) →
    w'.status = .opened ∧ w'.resumeRunState = l.run.state
  kept : ∀ w ∈ l.waits, ∃ w' ∈ l'.waits, w'.id = w.id ∧ w'.taskId = w.taskId ∧
    w'.resumeRunState = w.resumeRunState ∧ (w.status ≠ .opened → w' = w) ∧
    (w.status = .opened → w'.status = .resolved → l'.run.state = w.resumeRunState ∧
      ∃ t, l'.task = some t ∧ w.taskId = some t.id ∧ t.state = .ready)

namespace WaitStep

variable {rt : Runtime} {l l' : Life} {act : Action}

theorem of_eq (hwaits : l'.waits = l.waits) : l.WaitStep l' where
  opened w' hw' hnew := by
    rw [hwaits] at hw'
    exact absurd rfl (hnew w' hw')
  kept w hw := by
    rw [hwaits]
    refine ⟨w, hw, rfl, rfl, rfl, fun _ => rfl, fun hopened hresolved => ?_⟩
    rw [hopened] at hresolved
    cases hresolved

theorem of_update {p : HumanWaitRow → Bool} {f : HumanWaitRow → HumanWaitRow}
    (hwaits : l'.waits = Table.updateWhere p f l.waits)
    (hf : ∀ w, (f w).id = w.id ∧ (f w).taskId = w.taskId ∧
      (f w).resumeRunState = w.resumeRunState)
    (hp : ∀ w ∈ l.waits, p w = true → w.status = .opened)
    (hresolved : ∀ w ∈ l.waits, p w = true → (f w).status = .resolved →
      l'.run.state = w.resumeRunState ∧
        ∃ t, l'.task = some t ∧ w.taskId = some t.id ∧ t.state = .ready) :
    l.WaitStep l' where
  opened w' hw' hnew := by
    rw [hwaits] at hw'
    obtain ⟨w, hw, rfl⟩ := Table.mem_updateWhere.mp hw'
    refine absurd ?_ (hnew w hw)
    split
    · exact (hf w).1.symm
    · rfl
  kept w hw := by
    refine ⟨if p w then f w else w, ?_, ?_⟩
    · rw [hwaits]
      exact Table.mem_updateWhere.mpr ⟨w, hw, rfl⟩
    · cases hpw : p w with
      | true =>
          obtain ⟨hid, htask, hresume⟩ := hf w
          exact ⟨hid, htask, hresume, fun hclosed => absurd (hp w hw hpw) hclosed,
            fun _ => hresolved w hw hpw⟩
      | false =>
          refine ⟨rfl, rfl, rfl, fun _ => rfl, fun hopened hstatus => ?_⟩
          rw [if_neg Bool.false_ne_true, hopened] at hstatus
          cases hstatus

/-- Every transition treats the waits so. -/
theorem of_step (h : l.Waiting) (hstep : LifeStep rt act l l') : l.WaitStep l' := by
  cases hstep with
  | rest | move | claim | begin | refuse | invoke | abandon | block | staleComplete
  | complete | staleFail | fail => exact of_eq rfl
  | openWait input _ t waitId requestId now event n hwaitId htask hcompany hrun htaskId
      hversion hdraft =>
      refine { opened := fun w' hw' hnew => ?_, kept := fun w hw => ?_ }
      · rcases List.mem_append.mp hw' with hw' | hw'
        · exact absurd rfl (hnew w' hw')
        · obtain rfl := List.mem_singleton.mp hw'
          exact ⟨rfl, rfl⟩
      · refine ⟨w, List.mem_append_left _ hw, rfl, rfl, rfl, fun _ => rfl, fun hopened hs => ?_⟩
        rw [hopened] at hs
        cases hs
  | answer input _ t wait source answerVersionId resumedContextSnapshotId now event n hn
      htask hwait =>
      refine of_update rfl (fun _ => ⟨rfl, rfl, rfl⟩)
        (fun w _ hp => (of_decide_eq_true hp).2) fun w hw hp _ => ?_
      obtain rfl := Table.eq_of_key_eq h.nodup hw hwait (of_decide_eq_true hp).1
      obtain ⟨u, hu, hwu⟩ := h.task w hw
      obtain rfl := Option.some.inj (htask.symm.trans hu)
      exact ⟨rfl, _, rfl, hwu, rfl⟩
  | cancel =>
      refine of_update rfl (fun _ => ⟨rfl, rfl, rfl⟩) (fun w _ hp => of_decide_eq_true hp)
        fun w _ _ hs => ?_
      cases hs

end WaitStep

end Life

namespace Sys

def answersOf (s : Sys) (waitId : Uuid) : List ClarificationAnswerVersionRow :=
  s.world.db.clarificationAnswerVersions.filter (IsAnswerTo waitId)

def resolutionsOf (s : Sys) (runId waitId : Uuid) : List EventRow :=
  s.world.db.events.filter fun e => e.runId = some runId ∧ IsResolution waitId e

structure Answerable (s : Sys) (w : HumanWaitRow) (r : RunRow) (t : TaskRow) : Prop where
  run : s.runsOf w.runId = [r]
  state : r.state = w.expectedRunState
  version : r.rowVersion = w.expectedRunRowVersion
  task : s.tasksOf w.runId = [t]
  taskId : w.taskId = some t.id
  awaiting : t.state = .awaitingInput
  lease : t.leaseToken = none

/-- The run of the wait is back in the state it had before, with its task ready. -/
structure Resumed (s : Sys) (w : HumanWaitRow) (r : RunRow) (t : TaskRow) : Prop where
  run : s.runsOf w.runId = [r]
  state : r.state = w.resumeRunState
  task : s.tasksOf w.runId = [t]
  taskId : w.taskId = some t.id
  ready : t.state = .ready

/-- What a step does to the waits: a new one is open and remembers the state of its
run, a closed one stays as it is, and one that is resolved gives its run back. -/
structure WaitStep (s s' : Sys) : Prop where
  opened : ∀ w' ∈ s'.world.db.humanWaits, (∀ w ∈ s.world.db.humanWaits, w.id ≠ w'.id) →
    w'.status = .opened ∧ ∃ r, s.runsOf w'.runId = [r] ∧ w'.resumeRunState = r.state
  kept : ∀ w ∈ s.world.db.humanWaits, ∃ w' ∈ s'.world.db.humanWaits, w'.id = w.id ∧
    w'.runId = w.runId ∧ w'.taskId = w.taskId ∧ w'.resumeRunState = w.resumeRunState ∧
    (w.status ≠ .opened → w' = w) ∧
    (w.status = .opened → w'.status = .resolved → ∃ r t, s'.Resumed w r t)

def ClosedWaitsStay (s s' : Sys) : Prop :=
  ∀ w ∈ s.world.db.humanWaits, w.status ≠ .opened → w ∈ s'.world.db.humanWaits

/-- A refused request leaves every table as it was. -/
structure RefusalsKeep (services : Services) (s : Sys) : Prop where
  openWait : ∀ input e w', DurableWait.openWait input s.world = (.error e, w') →
    w'.db = s.world.db
  answer : ∀ input e w', DurableWait.answer services.runtime input s.world = (.error e, w') →
    w'.db = s.world.db

/-- The law of the waits. -/
structure WaitsExact (services : Services) (s : Sys) : Prop where
  unique : (s.world.db.humanWaits.map HumanWaitRow.id).Nodup
  single : ∀ w ∈ s.world.db.humanWaits, ∀ w' ∈ s.world.db.humanWaits, w.runId = w'.runId →
    w.status = .opened → w'.status = .opened → w = w'
  answerable : ∀ w ∈ s.world.db.humanWaits, w.status = .opened → ∃ r t, s.Answerable w r t
  resolved : ∀ w ∈ s.world.db.humanWaits, w.status = .resolved ↔
    (s.answersOf w.id).length = 1 ∧ (s.resolutionsOf w.runId w.id).length = 1
  step : ∀ act, s.WaitStep (s.step services act)
  closed : ∀ acts, s.ClosedWaitsStay (s.after services acts)
  refused : s.RefusalsKeep services

variable {rt : Runtime} {services : Services} {s : Sys} {act : Action} {l : Life}
  {w : HumanWaitRow}

/-! ## The records of a wait -/

theorem Inv.answersOf_eq (h : s.Inv rt) (hl : Represents s l) (hw : w ∈ l.waits) :
    s.answersOf w.id = l.answers.filter (IsAnswerTo w.id) := by
  have hanswers : (s.world.db.clarificationAnswerVersions.filter fun a =>
      a.runId = l.run.id) = l.answers := congrArg RunRows.answers hl.shows
  rw [← hanswers, List.filter_filter]
  refine List.filter_congr fun a ha => ?_
  cases hanswer : IsAnswerTo w.id a with
  | false => rfl
  | true =>
      have hnot : ¬ Absent s a.runId := by
        intro habsent
        have hmem : a ∈ (s.world.db.ofRun a.runId).answers :=
          List.mem_filter.mpr ⟨ha, decide_eq_true rfl⟩
        rw [habsent.rows] at hmem
        cases hmem
      obtain ⟨l', hl', hid, hinv'⟩ := h.life hnot
      have hmem : a ∈ (s.world.db.ofRun l'.run.id).answers :=
        List.mem_filter.mpr ⟨ha, decide_eq_true hid.symm⟩
      rw [hl'.shows] at hmem
      obtain ⟨w', hw', hwid⟩ := List.mem_map.mp (hinv'.waiting.answered a hmem)
      have hww : w' = w := by
        refine Table.eq_of_key_eq h.unique.waits (hl'.shows.mem_waits hw').1
          (hl.shows.mem_waits hw).1 ?_
        rw [hwid, of_decide_eq_true hanswer]
      have hrun : a.runId = l.run.id := by
        rw [← hid, ← (hl'.shows.mem_waits hw').2, hww, (hl.shows.mem_waits hw).2]
      rw [decide_eq_true hrun]
      rfl

theorem resolutionsOf_eq (hl : Represents s l) (waitId : Uuid) :
    s.resolutionsOf l.run.id waitId = l.events.filter (IsResolution waitId) := by
  have hevents : (s.world.db.events.filter fun e => e.runId = some l.run.id) = l.events :=
    congrArg RunRows.events hl.shows
  rw [resolutionsOf, ← hevents, List.filter_filter]
  exact List.filter_congr fun e _ => by simp [Bool.and_comm]

theorem Inv.resolved_iff (h : s.Inv rt) (hl : Represents s l) (hinv : l.Invariant rt)
    (hw : w ∈ l.waits) : w.status = .resolved ↔
      (s.answersOf w.id).length = 1 ∧ (s.resolutionsOf w.runId w.id).length = 1 := by
  rw [h.answersOf_eq hl hw, (hl.shows.mem_waits hw).2, resolutionsOf_eq hl,
    ← List.countP_eq_length_filter, ← List.countP_eq_length_filter,
    hinv.waiting.answers w hw, hinv.waiting.events w hw, and_self]
  cases w.status <;> simp [WaitStatus.answers]

/-! ## Steps -/

theorem Inv.waitStep (h : s.Inv services.runtime) (act : Action) :
    s.WaitStep (s.step services act) := by
  have hsteps := h.steps act
  refine { opened := fun w' hw' hnew => ?_, kept := fun w hw => ?_ }
  · obtain ⟨l', hl', hmem', -⟩ := (h.step hsteps).life_of_wait hw'
    have hrun' := (hl'.shows.mem_waits hmem').2
    rcases h.runs l'.run.id with habsent | ⟨l, hl, hid, hinv⟩
    · rcases hsteps.absent _ habsent with habsent' | ⟨l'', hl'', hid'', hnew''⟩
      · exact absurd habsent' hl'.not_absent
      · rw [← hl''.unique hl' hid''.symm] at hnew''
        rw [hnew''.waits] at hmem'
        cases hmem'
    · obtain ⟨l'', hl'', hstep⟩ := hsteps.run l hl hinv
      obtain rfl := hl''.unique hl' (hid.symm.trans hstep.id_eq.symm)
      obtain ⟨hopened, hresume⟩ := (Life.WaitStep.of_step hinv.waiting hstep).opened w' hmem'
        fun w hw => hnew w (hl.shows.mem_waits hw).1
      refine ⟨hopened, l.run, ?_, hresume⟩
      rw [hrun', ← hid]
      exact runsOf_eq hl
  · obtain ⟨l, hl, hmem, hinv⟩ := h.life_of_wait hw
    obtain ⟨l', hl', hstep⟩ := hsteps.run l hl hinv
    have hrun := (hl.shows.mem_waits hmem).2
    obtain ⟨w', hmem', hwid, htask, hresume, hclosed, hresolved⟩ :=
      (Life.WaitStep.of_step hinv.waiting hstep).kept w hmem
    obtain ⟨hw', hrun'⟩ := hl'.shows.mem_waits hmem'
    refine ⟨w', hw', hwid, hrun'.trans (hstep.id_eq.trans hrun.symm), htask, hresume, hclosed,
      fun hopened hstatus => ?_⟩
    obtain ⟨hstate, t, ht, htaskId, hready⟩ := hresolved hopened hstatus
    refine ⟨l'.run, t, ?_, hstate, ?_, htaskId, hready⟩
    · rw [hrun, ← hstep.id_eq]
      exact runsOf_eq hl'
    · rw [hrun, ← hstep.id_eq, tasksOf_eq hl', ht]
      rfl

theorem Inv.closedWaitsStay (h : s.Inv services.runtime) (acts : List Action) :
    s.ClosedWaitsStay (s.after services acts) := by
  refine Transition.run_relates (fun _ _ hw _ => hw) ?_
    (fun _ act hs => hs.step (hs.steps act)) ?_ h acts
  · exact fun _ _ _ h h' w hw hclosed => h' w (h w hw hclosed) hclosed
  · intro s act hs w hw hclosed
    obtain ⟨w', hw', -, -, -, -, heq, -⟩ := (hs.waitStep act).kept w hw
    rw [← heq hclosed]
    exact hw'

/-! ## The law -/

theorem Inv.waitsExact (h : s.Inv services.runtime) : s.WaitsExact services where
  unique := h.unique.waits
  single w hw w' hw' hrun hopened hopened' := by
    obtain ⟨l, hl, hmem, hinv⟩ := h.life_of_wait hw
    obtain ⟨l', hl', hmem', -⟩ := h.life_of_wait hw'
    obtain rfl : l' = l := by
      refine hl.unique hl' ?_
      rw [← (hl.shows.mem_waits hmem).2, ← (hl'.shows.mem_waits hmem').2, hrun]
    exact hinv.waiting.single w hmem w' hmem' hopened hopened'
  answerable w hw hopened := by
    obtain ⟨l, hl, hmem, hinv⟩ := h.life_of_wait hw
    have hrun := (hl.shows.mem_waits hmem).2
    have hopen := hinv.waiting.opened w hmem hopened
    obtain ⟨t, ht, htaskId, hstate⟩ := hopen.task
    have hlease := (hinv.coherence.lease t ht).1
    refine ⟨l.run, t, ?_, ?_, hopen.version, ?_, htaskId, hstate, ?_⟩
    · rw [hrun]
      exact runsOf_eq hl
    · rw [hopen.state, (hinv.waiting.owned w hmem).2.2.2]
    · rw [hrun, tasksOf_eq hl, ht]
      rfl
    · have hnone := (not_congr hlease).mpr (by simp [hstate])
      simpa using hnone
  resolved w hw := by
    obtain ⟨l, hl, hmem, hinv⟩ := h.life_of_wait hw
    exact h.resolved_iff hl hinv hmem
  step act := h.waitStep act
  closed acts := h.closedWaitsStay acts
  refused :=
    { openWait := fun _ _ _ herror => Op.transaction_error herror
      answer := fun _ _ _ herror => DurableWait.answer_error_db herror }

/-- Every reachable state obeys the law of the waits. -/
theorem waitsExact_after (services : Services) (init : InitialWorld) (acts : List Action) :
    (init.sys.after services acts).WaitsExact services :=
  (inv_after services init acts).waitsExact

end Sys

end Aico
