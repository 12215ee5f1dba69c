import Aico.DurabilitySpike.DurableWaitSteps
import Aico.Workflow.Refinement

/-!
# The steps of a founder on a wait

Opening a wait, answering it and canceling the run are steps of the run that the
request names. A request that throws leaves every run as it was.
-/

namespace Aico

variable {rt : Runtime} {services : Services} {act : Action} {s : Sys} {l : Life}
  {now : Timestamp}

/-! ## The rows a request names -/

theorem Sys.Inv.named (h : s.Inv rt) {companyId runId : Uuid} {run : RunRow}
    (hfind : s.world.db.runs.find? (DurableWait.isRun companyId runId) = some run) :
    ∃ l, Represents s l ∧ l.Invariant rt ∧ l.run = run ∧ l.run.companyId = companyId ∧
      l.run.id = runId := by
  have hfound := List.find?_some hfind
  obtain ⟨l, hl, rfl, hinv⟩ := h.life_of_run (List.mem_of_find?_eq_some hfind)
  have hrun := of_decide_eq_true hfound
  exact ⟨l, hl, hinv, rfl, hrun.1, hrun.2⟩

theorem Shows.task_of_find? {db : Db} (h : Shows db l) {companyId runId : Uuid}
    {taskId : Option Uuid} {t : TaskRow} (hid : l.run.id = runId)
    (hfind : db.tasks.find? (DurableWait.isTask companyId runId taskId) = some t) :
    l.task = some t ∧ some t.id = taskId ∧ t.companyId = companyId := by
  have hmem := List.mem_of_find?_eq_some hfind
  have hfound := List.find?_some hfind
  have ht := of_decide_eq_true hfound
  have hslice : t ∈ (db.ofRun l.run.id).tasks :=
    List.mem_filter.mpr ⟨hmem, decide_eq_true (ht.2.1.trans hid.symm)⟩
  rw [h] at hslice
  exact ⟨Option.mem_toList.mp hslice, ht.2.2, ht.1⟩

theorem Shows.wait_of_find? {db : Db} (h : Shows db l) {companyId runId waitId : Uuid}
    {wait : HumanWaitRow} (hid : l.run.id = runId)
    (hfind : db.humanWaits.find? (DurableWait.isWait companyId runId waitId) = some wait) :
    wait ∈ l.waits ∧ wait.id = waitId := by
  have hmem := List.mem_of_find?_eq_some hfind
  have hfound := List.find?_some hfind
  have hwait := of_decide_eq_true hfound
  have hslice : wait ∈ (db.ofRun l.run.id).waits :=
    List.mem_filter.mpr ⟨hmem, decide_eq_true (hwait.2.1.trans hid.symm)⟩
  rw [h] at hslice
  exact ⟨hslice, hwait.2.2⟩

theorem Shows.mem_answers {db : Db} (h : Shows db l) {a : ClarificationAnswerVersionRow}
    (ha : a ∈ l.answers) : a ∈ db.clarificationAnswerVersions := by
  have hmem : a ∈ (db.ofRun l.run.id).answers := by
    rw [h]
    exact ha
  exact (List.mem_filter.mp hmem).1

/-! ## Keys -/

namespace Db

variable {db : Db}

theorem keys_opened (input : OpenWaitInput) (wait : HumanWaitRow) :
    (DurableWait.opened input wait now db).keys =
      { db.keys with waits := db.keys.waits ++ [wait.id] } := by
  have htask : ∀ t, (DurableWait.awaitingTask now t).id = t.id := fun _ => rfl
  have hrun : ∀ r, (DurableWait.awaitingRun now r).id = r.id := fun _ => rfl
  exact Keys.ext (Table.map_updateWhere hrun _) (Table.map_updateWhere htask _) rfl rfl rfl
    List.map_append

theorem keys_answered (input : AnswerWaitInput) (wait : HumanWaitRow)
    (snapshot : ContextSnapshotRow) (answerVersionId : Uuid) :
    (DurableWait.answered rt input wait snapshot answerVersionId now db).keys = db.keys := by
  have htask : ∀ t, (DurableWait.readyTask wait snapshot now t).id = t.id := fun _ => rfl
  have hrun : ∀ r, (DurableWait.resumedRun wait snapshot now r).id = r.id := fun _ => rfl
  exact Keys.ext (Table.map_updateWhere hrun _) (Table.map_updateWhere htask _) rfl rfl rfl
    rfl

theorem keys_resolve (input : AnswerWaitInput) (eventId : Uuid) :
    (DurableWait.resolve input eventId now db).keys = db.keys := by
  have hf : ∀ w, (DurableWait.resolvedWait input eventId now w).id = w.id := fun _ => rfl
  exact Keys.ext rfl rfl rfl rfl rfl (Table.map_updateWhere hf _)

theorem keys_committed {options : CommandOptions} {response : CommandResponse} :
    (CommandExecutor.committed options response db).keys = db.keys := rfl

theorem keys_canceled (companyId runId : Uuid) :
    (DurableWait.canceled companyId runId now db).keys = db.keys := by
  have htask : ∀ t, (DurableWait.canceledTask now t).id = t.id := fun _ => rfl
  have hrun : ∀ r, (DurableWait.canceledRun now r).id = r.id := fun _ => rfl
  have hwait : ∀ w, (DurableWait.canceledWait now w).id = w.id := fun _ => rfl
  exact Keys.ext (Table.map_updateWhere hrun _) (Table.map_updateWhere htask _) rfl rfl rfl
    (Table.map_updateWhere hwait _)

end Db

/-! ## The rows of the run -/

namespace Edits

variable (rt : Runtime) (now : Timestamp) {db : Db} {t : TaskRow}

theorem opened (wait : HumanWaitRow) (h : Shows db l) {input : OpenWaitInput}
    (hr : DurableWait.isRun input.companyId.value input.runId.value l.run = true)
    (hl : l.task = some t)
    (ht : DurableWait.isTask input.companyId.value input.runId.value
      (some input.taskId.value) t = true) (hwait : wait.runId = l.run.id)
    (event : EventRow) :
    Edits db (DurableWait.opened input wait now db) l
      { l.openWait t wait now event with events := l.events } := by
  have hid := (of_decide_eq_true hr).2
  have htask := updateTask h
    (p := DurableWait.isTask input.companyId.value input.runId.value (some input.taskId.value))
    (f := DurableWait.awaitingTask now)
    (fun u _ hp => (of_decide_eq_true hp).2.1.trans hid.symm) fun _ => rfl
  have hrun := updateRun htask.shows
    (p := DurableWait.isRun input.companyId.value input.runId.value)
    (f := DurableWait.awaitingRun now)
    (fun r _ hp => (of_decide_eq_true hp).2.trans hid.symm) fun _ => rfl
  have hinsert := insertWait (htask.trans hrun).shows (w := wait) (hwait.trans hrun.id.symm)
  refine ((htask.trans hrun).trans hinsert).congr ?_
  simp [Life.openWait, hl, ht, hr]

theorem answered (h : Shows db l) {input : AnswerWaitInput} {wait : HumanWaitRow}
    (hr : DurableWait.isRun input.companyId.value input.runId.value l.run = true)
    (hl : l.task = some t)
    (ht : DurableWait.isTask input.companyId.value input.runId.value wait.taskId t = true)
    (snapshot : ContextSnapshotRow) (answerVersionId : Uuid) :
    Edits db (DurableWait.answered rt input wait snapshot answerVersionId now db) l
      { l with
        run := DurableWait.resumedRun wait snapshot now l.run
        task := some (DurableWait.readyTask wait snapshot now t)
        answers := l.answers ++
          [DurableWait.answerVersionRow rt input wait answerVersionId now] } := by
  have hid := (of_decide_eq_true hr).2
  have hinsert := insertAnswer h
    (a := DurableWait.answerVersionRow rt input wait answerVersionId now) hid.symm
  have hsnapshot : Edits _ { db with
      clarificationAnswerVersions := db.clarificationAnswerVersions ++
        [DurableWait.answerVersionRow rt input wait answerVersionId now]
      contextSnapshots := db.contextSnapshots ++ [snapshot]
      contextSnapshotAnswers := db.contextSnapshotAnswers ++
        [{ companyId := input.companyId.value
           contextSnapshotId := snapshot.id
           answerVersionId := answerVersionId
           ordinal := snapshot.answerVersionIds.length - 1 }] } _ _ :=
    hinsert.trans (of_rows hinsert.shows fun _ => rfl)
  have htask := updateTask hsnapshot.shows
    (p := DurableWait.isTask input.companyId.value input.runId.value wait.taskId)
    (f := DurableWait.readyTask wait snapshot now)
    (fun u _ hp => (of_decide_eq_true hp).2.1.trans hid.symm) fun _ => rfl
  have hrun := updateRun (hsnapshot.trans htask).shows
    (p := DurableWait.isRun input.companyId.value input.runId.value)
    (f := DurableWait.resumedRun wait snapshot now)
    (fun r _ hp => (of_decide_eq_true hp).2.trans hid.symm) fun _ => rfl
  refine ((hsnapshot.trans htask).trans hrun).congr ?_
  simp [hl, ht, hr]

theorem resolve (h : Shows db l) {input : AnswerWaitInput} {wait : HumanWaitRow}
    (hwait : wait.id = input.waitId.value)
    (hr : DurableWait.isRun input.companyId.value input.runId.value l.run = true)
    (hwaits : ∀ w ∈ l.waits, w.runId = l.run.id ∧ w.companyId = l.run.companyId)
    (eventId : Uuid) :
    Edits db (DurableWait.resolve input eventId now db) l
      { l with
        waits := Table.updateWhere
          (fun w => w.id = wait.id ∧ w.status = .opened)
          (DurableWait.resolvedWait input eventId now) l.waits } := by
  rw [hwait]
  obtain ⟨hcompany, hid⟩ := of_decide_eq_true hr
  have hedit := updateWaits h
    (p := fun w => DurableWait.isWait input.companyId.value input.runId.value
      input.waitId.value w ∧ w.status = .opened)
    (f := DurableWait.resolvedWait input eventId now)
    (fun w _ hp => (of_decide_eq_true (of_decide_eq_true hp).1).2.1.trans hid.symm)
    fun _ => rfl
  refine hedit.congr ?_
  congr 1
  refine Table.updateWhere_congr fun w hw => ?_
  obtain ⟨hwrun, hwcompany⟩ := hwaits w hw
  simp [DurableWait.isWait, hwrun, hwcompany, hcompany, hid]

theorem committed {db' : Db} {l' : Life} (h : Edits db db' l l') (options : CommandOptions)
    (response : CommandResponse) :
    Edits db (CommandExecutor.committed options response db') l l' :=
  h.trans (.of_rows h.shows fun _ => rfl)

theorem canceled (h : Shows db l) {companyId runId : Uuid}
    (hr : DurableWait.isRun companyId runId l.run = true)
    (hwaits : ∀ w ∈ l.waits, w.runId = l.run.id ∧ w.companyId = l.run.companyId)
    (htasks : ∀ t, l.task = some t → t.runId = l.run.id ∧ t.companyId = l.run.companyId)
    (event : EventRow) :
    Edits db (DurableWait.canceled companyId runId now db) l
      { l.cancel now event with events := l.events } := by
  obtain ⟨hcompany, hid⟩ := of_decide_eq_true hr
  have hwait := updateWaits h
    (p := fun w => w.companyId = companyId ∧ w.runId = runId ∧ w.status = .opened)
    (f := DurableWait.canceledWait now)
    (fun w _ hp => (of_decide_eq_true hp).2.1.trans hid.symm) fun _ => rfl
  have htask := updateTask hwait.shows
    (p := fun t => t.companyId = companyId ∧ t.runId = runId ∧
      DurableWait.cancelable t.state)
    (f := DurableWait.canceledTask now)
    (fun t _ hp => (of_decide_eq_true hp).2.1.trans hid.symm) fun _ => rfl
  have hrun := updateRun (hwait.trans htask).shows (p := DurableWait.isRun companyId runId)
    (f := DurableWait.canceledRun now)
    (fun r _ hp => (of_decide_eq_true hp).2.trans hid.symm) fun _ => rfl
  refine ((hwait.trans htask).trans hrun).congr ?_
  refine Life.ext (if_pos hr) ?_ rfl rfl rfl rfl ?_ rfl rfl rfl rfl rfl
  · refine Option.map_congr fun t ht => ?_
    obtain ⟨htrun, htcompany⟩ := htasks t ht
    simp [htrun, htcompany, hcompany, hid]
  · refine Table.updateWhere_congr fun w hw => ?_
    obtain ⟨hwrun, hwcompany⟩ := hwaits w hw
    simp [hwrun, hwcompany, hcompany, hid]

end Edits

/-! ## The steps -/

namespace Life.Invariant

variable {w : HumanWaitRow} {t : TaskRow}

theorem wait_owner (h : l.Invariant rt) (hw : w ∈ l.waits) :
    w.runId = l.run.id ∧ w.companyId = l.run.companyId :=
  ⟨(h.waiting.owned w hw).2.1, (h.waiting.owned w hw).2.2.1⟩

theorem task_owner (h : l.Invariant rt) (ht : l.task = some t) :
    t.runId = l.run.id ∧ t.companyId = l.run.companyId :=
  h.owned.task t.owner (congrArg (Option.map TaskRow.owner) ht)

end Life.Invariant

namespace Sys.Inv

theorem openWait {input : OpenWaitInput} (h : s.Inv services.runtime) :
    Steps services.runtime (.openWait input) s (s.step services (.openWait input)) := by
  have hgrows := DurableWait.openWait_keepsContext (R := World.Grows) input s.world
  rw [Sys.step]
  rcases hrun : DurableWait.openWait input s.world with ⟨_ | response, world⟩
  · rw [hrun] at hgrows
    exact .of_db_eq h (Op.transaction_error hrun) hgrows
  · obtain ⟨run, task, sequence, hfindRun, hfindTask, hversion, hdraft, hstate, hlease, rfl⟩ :=
      DurableWait.openWait_eq_ok hrun
    obtain ⟨l, hl, hinv, rfl, hcompany, hid⟩ := h.named hfindRun
    obtain ⟨ht, htid, -⟩ := hl.shows.task_of_find? hid hfindTask
    have hedit := Edits.opened s.world.now
      (DurableWait.humanWaitRow input l.run s.world.nextId (s.world.nextId + 1) s.world.now)
      hl.shows (List.find?_some hfindRun) ht (List.find?_some hfindTask) hid.symm
      (DomainEvent.eventRow (DurableWait.inputRequestedEvent input
        (DurableWait.humanWaitRow input l.run s.world.nextId (s.world.nextId + 1)
          s.world.now)) (s.world.nextId + 2) sequence s.world.now)
    have hevent := Edits.appended (DurableWait.inputRequestedEvent input
        (DurableWait.humanWaitRow input l.run s.world.nextId (s.world.nextId + 1)
          s.world.now))
      hedit.shows (w :=
      { s.world with
        nextId := s.world.nextId + 2
        db := DurableWait.opened input (DurableWait.humanWaitRow input l.run s.world.nextId
          (s.world.nextId + 1) s.world.now) s.world.now s.world.db })
      (congrArg some hid.symm) sequence
    refine .of_edit hl ?_ ?_ (Nat.le_add_right _ 4) (hedit.trans hevent)
      (.openWait input l task _ _ _ _ _ ?_ ht hcompany.symm hid.symm
        (Option.some.inj htid).symm hversion hdraft hstate hlease ⟨_, _, _, rfl⟩)
    · rw [Db.keys_appended, Db.keys_opened]
      refine ⟨h.unique.runs, h.unique.tasks, h.unique.attempts, h.unique.effects,
        h.unique.artifacts, ?_⟩
      refine List.nodup_append'.mpr ⟨h.unique.waits, List.nodup_singleton _, ?_⟩
      intro id hid hid'
      rw [List.mem_singleton.mp hid'] at hid
      exact lt_irrefl _ (h.drawn.waits _ hid)
    · rw [Db.keys_appended, Db.keys_opened]
      have hdrawn := h.drawn.mono (Nat.le_add_right s.world.nextId 4)
      refine ⟨hdrawn.runs, hdrawn.tasks, hdrawn.attempts, hdrawn.artifacts, ?_⟩
      intro id hid
      rcases List.mem_append.mp hid with hid | hid
      · exact hdrawn.waits id hid
      · rw [List.mem_singleton.mp hid]
        exact Nat.lt_add_of_pos_right (Nat.succ_pos 3)
    · rw [hl.nextId]
      exact ⟨le_rfl, Nat.lt_add_of_pos_right (Nat.succ_pos 3)⟩

theorem answer {input : AnswerWaitInput} (h : s.Inv services.runtime) :
    Steps services.runtime (.answer input) s (s.step services (.answer input)) := by
  have hgrows : World.Grows s.world (DurableWait.answer services.runtime input s.world).2 :=
    DurableWait.answer_dbFree input s.world
  rw [Sys.step]
  rcases hrun : DurableWait.answer services.runtime input s.world with ⟨_ | result, world⟩
  · rw [hrun] at hgrows
    exact .of_db_eq h (DurableWait.answer_error_db hrun) hgrows
  · rcases DurableWait.answer_eq_ok hrun with rfl | ⟨rows, response, w₁, hresolve, rfl⟩
    · exact .of_db_eq h rfl (Nat.le_succ _)
    · obtain ⟨wait, run, task, source, sequence, hfindWait, hfindRun, hfindTask, hanswerable,
        -, hfree, w₂, hw₂, rfl⟩ := DurableWait.resolveWait_eq_ok hresolve
      obtain ⟨l, hl, hinv, rfl, hcompany, hid⟩ := h.named hfindRun
      obtain ⟨hwait, hwaitId⟩ := hl.shows.wait_of_find? hid hfindWait
      obtain ⟨ht, -, -⟩ := hl.shows.task_of_find? hid hfindTask
      have hreserve : Edits s.world.db { s.world.db with idempotencyRecords := rows } l l :=
        .of_rows hl.shows fun _ => rfl
      set n := s.world.nextId with hn
      set snapshot := DurableWait.resumedSnapshotRow input source (n + 2) (n + 1) s.world.now
        with hsnapshot
      have hanswered := hreserve.trans (.answered services.runtime s.world.now
        hreserve.shows (List.find?_some hfindRun) ht
        (List.find?_some hfindTask) snapshot (n + 1))
      have hevent := hanswered.trans (.appended
        (DurableWait.inputResolvedEvent input wait (n + 1) (n + 2)) hanswered.shows (w :=
        { s.world with
          nextId := n + 3
          db := DurableWait.answered services.runtime input wait snapshot (n + 1) s.world.now
            { s.world.db with idempotencyRecords := rows } })
        (congrArg some (hid.symm.trans hanswered.id.symm)) sequence)
      have hr : DurableWait.isRun input.companyId.value input.runId.value l.run = true :=
        List.find?_some hfindRun
      have hresolved := hevent.trans (.resolve s.world.now hevent.shows hwaitId
        hr (fun w hw => hinv.wait_owner hw) (n + 3))
      have hedit := hresolved.committed (DurableWait.answerCommand services.runtime input)
        response
      subst hw₂
      refine .of_edit hl ?_ ?_ (Nat.le_add_right n 5) hedit
        (.answer input l task wait source (n + 1) (n + 2) s.world.now _ _ ?_ ht hwait
          hwaitId.symm hanswerable ?_ ⟨_, _, _, rfl⟩)
      · rw [Db.keys_committed, Db.keys_resolve, Db.keys_appended, Db.keys_answered]
        exact h.unique
      · rw [Db.keys_committed, Db.keys_resolve, Db.keys_appended, Db.keys_answered]
        exact h.drawn.mono (Nat.le_add_right n 5)
      · rw [hl.nextId]
        exact Nat.le_add_right n 5
      · intro a ha
        rw [hwaitId]
        exact hfree a (hl.shows.mem_answers ha)

theorem cancelFixture {companyId runId : UuidText} {actorId : JsString}
    {correlationId : UuidText} (h : s.Inv services.runtime) :
    Steps services.runtime (.cancelFixture companyId runId actorId correlationId) s
      (s.step services (.cancelFixture companyId runId actorId correlationId)) := by
  have hgrows := DurableWait.cancelFixture_keepsContext (R := World.Grows) companyId runId actorId
    correlationId s.world
  rw [Sys.step]
  rcases hrun : DurableWait.cancelFixture companyId runId actorId correlationId s.world with
    ⟨_ | response, world⟩
  · rw [hrun] at hgrows
    exact .of_db_eq h (Op.transaction_error hrun) hgrows
  · obtain ⟨run, sequence, hfindRun, hactive, rfl⟩ := DurableWait.cancelFixture_eq_ok hrun
    obtain ⟨l, hl, hinv, rfl, hcompany, hid⟩ := h.named hfindRun
    set n := s.world.nextId with hn
    set options := DurableWait.cancelEvent companyId runId actorId correlationId l.run.state
      with hoptions
    have hcanceled := Edits.canceled s.world.now hl.shows
      (List.find?_some hfindRun) (fun w hw => hinv.wait_owner hw)
      (fun t ht => hinv.task_owner ht)
      (DomainEvent.eventRow options n sequence s.world.now)
    have hedit := hcanceled.trans (.appended options hcanceled.shows (w :=
      { s.world with
        db := DurableWait.canceled companyId.value runId.value s.world.now s.world.db })
      (congrArg some hid.symm) sequence)
    refine .of_edit hl ?_ ?_ (Nat.le_add_right n 2) hedit
      (.cancel companyId runId actorId correlationId l s.world.now _ _ ?_ hactive
        ⟨_, _, _, rfl⟩)
    · rw [Db.keys_appended, Db.keys_canceled]
      exact h.unique
    · rw [Db.keys_appended, Db.keys_canceled]
      exact h.drawn.mono (Nat.le_add_right n 2)
    · rw [hl.nextId]
      exact Nat.le_add_right n 2

end Sys.Inv

end Aico
