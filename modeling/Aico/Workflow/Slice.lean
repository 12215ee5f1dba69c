import Aico.Workflow.Owned

/-!
# The rows of one run

`Db.ofRun` selects the rows of a run from every table, and `Shows` says that they
are those of a `Life`. The statements of the workers find their rows by the keys
of tasks, attempts and effects; because keys are unique (`Keyed`), a statement
for one run leaves the rows of all others alone (`Edits`).
-/

namespace Aico

@[ext] structure RunRows where
  runs : List RunRow
  tasks : List TaskRow
  attempts : List TaskAttemptRow
  effects : List ModelInvocationEffectRow
  artifacts : List ArtifactRow
  versions : List ArtifactVersionRow
  waits : List HumanWaitRow
  answers : List ClarificationAnswerVersionRow
  events : List EventRow

def Db.ofRun (db : Db) (r : Uuid) : RunRows where
  runs := db.runs.filter fun x => x.id = r
  tasks := db.tasks.filter fun x => x.runId = r
  attempts := db.taskAttempts.filter fun x => x.runId = r
  effects := db.modelInvocationEffects.filter fun x => x.runId = r
  artifacts := db.artifacts.filter fun x => x.runId = r
  versions := db.artifactVersions.filter fun x => x.runId = r
  waits := db.humanWaits.filter fun x => x.runId = r
  answers := db.clarificationAnswerVersions.filter fun x => x.runId = r
  events := db.events.filter fun x => x.runId = some r

def RunRows.empty : RunRows := ⟨[], [], [], [], [], [], [], [], []⟩

def Life.rows (l : Life) : RunRows where
  runs := [l.run]
  tasks := l.task.toList
  attempts := l.attempts
  effects := l.effect.toList
  artifacts := l.artifacts
  versions := l.versions
  waits := l.waits
  answers := l.answers
  events := l.events

/-- The keys that rows of different runs must not share. -/
@[ext] structure Keys where
  runs : List Uuid
  tasks : List Uuid
  attempts : List Uuid
  effects : List Digest
  artifacts : List Uuid
  waits : List Uuid

def Db.keys (db : Db) : Keys where
  runs := db.runs.map RunRow.id
  tasks := db.tasks.map TaskRow.id
  attempts := db.taskAttempts.map TaskAttemptRow.id
  effects := db.modelInvocationEffects.map ModelInvocationEffectRow.effectKey
  artifacts := db.artifacts.map ArtifactRow.id
  waits := db.humanWaits.map HumanWaitRow.id

theorem Db.keys_appended {options : AppendEventOptions} {sequence : Option ℕ} {w : World} :
    (DomainEvent.appended options sequence w).db.keys = w.db.keys := rfl

/-- No two rows share a key. -/
structure Keys.Unique (k : Keys) : Prop where
  runs : k.runs.Nodup
  tasks : k.tasks.Nodup
  attempts : k.attempts.Nodup
  effects : k.effects.Nodup
  artifacts : k.artifacts.Nodup
  waits : k.waits.Nodup

structure Keys.Drawn (k : Keys) (nextId : ℕ) : Prop where
  runs : ∀ id ∈ k.runs, id < nextId
  tasks : ∀ id ∈ k.tasks, id < nextId
  attempts : ∀ id ∈ k.attempts, id < nextId
  artifacts : ∀ id ∈ k.artifacts, id < nextId
  waits : ∀ id ∈ k.waits, id < nextId

theorem Keys.Drawn.mono {k : Keys} {n n' : ℕ} (h : k.Drawn n) (hn : n ≤ n') :
    k.Drawn n' where
  runs id hid := (h.runs id hid).trans_le hn
  tasks id hid := (h.tasks id hid).trans_le hn
  attempts id hid := (h.attempts id hid).trans_le hn
  artifacts id hid := (h.artifacts id hid).trans_le hn
  waits id hid := (h.waits id hid).trans_le hn

theorem Keys.Drawn.run_ne {k : Keys} {n n' : ℕ} (h : k.Drawn n) (hn : n ≤ n') :
    ∀ id ∈ k.runs, id ≠ n' :=
  fun id hid => ((h.runs id hid).trans_le hn).ne

theorem Keys.Drawn.task_ne {k : Keys} {n n' : ℕ} (h : k.Drawn n) (hn : n ≤ n') :
    ∀ id ∈ k.tasks, id ≠ n' :=
  fun id hid => ((h.tasks id hid).trans_le hn).ne

/-- The database shows the record. -/
abbrev Shows (db : Db) (l : Life) : Prop := db.ofRun l.run.id = l.rows

namespace Shows

variable {db : Db} {l : Life}

theorem mem_runs (h : Shows db l) : l.run ∈ db.runs := by
  have hmem : l.run ∈ (db.ofRun l.run.id).runs := by
    rw [h]
    exact List.mem_singleton_self _
  exact (List.mem_filter.mp hmem).1

theorem mem_tasks (h : Shows db l) {t : TaskRow} (ht : l.task = some t) :
    t ∈ db.tasks ∧ t.runId = l.run.id := by
  have hmem : t ∈ (db.ofRun l.run.id).tasks := by
    rw [h]
    simp [Life.rows, ht]
  exact ⟨(List.mem_filter.mp hmem).1, of_decide_eq_true (List.mem_filter.mp hmem).2⟩

theorem mem_attempts (h : Shows db l) {a : TaskAttemptRow} (ha : a ∈ l.attempts) :
    a ∈ db.taskAttempts ∧ a.runId = l.run.id := by
  have hmem : a ∈ (db.ofRun l.run.id).attempts := by
    rw [h]
    exact ha
  exact ⟨(List.mem_filter.mp hmem).1, of_decide_eq_true (List.mem_filter.mp hmem).2⟩

theorem mem_waits (h : Shows db l) {w : HumanWaitRow} (hw : w ∈ l.waits) :
    w ∈ db.humanWaits ∧ w.runId = l.run.id := by
  have hmem : w ∈ (db.ofRun l.run.id).waits := by
    rw [h]
    exact hw
  obtain ⟨hmem, hid⟩ := List.mem_filter.mp hmem
  exact ⟨hmem, of_decide_eq_true hid⟩

theorem mem_artifacts (h : Shows db l) {a : ArtifactRow} (ha : a ∈ l.artifacts) :
    a ∈ db.artifacts ∧ a.runId = l.run.id := by
  have hmem : a ∈ (db.ofRun l.run.id).artifacts := by
    rw [h]
    exact ha
  obtain ⟨hmem, hid⟩ := List.mem_filter.mp hmem
  exact ⟨hmem, of_decide_eq_true hid⟩

theorem mem_effects (h : Shows db l) {e : ModelInvocationEffectRow}
    (he : l.effect = some e) : e ∈ db.modelInvocationEffects ∧ e.runId = l.run.id := by
  have hmem : e ∈ (db.ofRun l.run.id).effects := by
    rw [h]
    simp [Life.rows, he]
  exact ⟨(List.mem_filter.mp hmem).1, of_decide_eq_true (List.mem_filter.mp hmem).2⟩

end Shows

/-- A change of the database that is a change of the record and of nothing
else. -/
structure Edits (db db' : Db) (l l' : Life) : Prop where
  id : l'.run.id = l.run.id
  rows : db'.ofRun l.run.id = l'.rows
  frame : ∀ r, r ≠ l.run.id → db'.ofRun r = db.ofRun r
  workers : l'.workers = l.workers := by rfl
  calls : l'.calls = l.calls := by rfl

namespace Edits

variable {db db' db'' : Db} {l l' l'' : Life}

theorem refl (h : Shows db l) : Edits db db l l where
  id := rfl
  rows := h
  frame _ _ := rfl
  workers := rfl
  calls := rfl

theorem trans (h : Edits db db' l l') (h' : Edits db' db'' l' l'') :
    Edits db db'' l l'' where
  id := h'.id.trans h.id
  rows := h.id ▸ h'.rows
  frame r hr := (h'.frame r (h.id ▸ hr)).trans (h.frame r hr)
  workers := h'.workers.trans h.workers
  calls := h'.calls.trans h.calls

theorem shows (h : Edits db db' l l') : Shows db' l' := by
  rw [Shows, h.id]
  exact h.rows

theorem congr (h : Edits db db' l l') (heq : l' = l'') : Edits db db' l l'' := heq ▸ h

theorem of_db_eq (h : Shows db l) (hdb : db' = db) : Edits db db' l l := by
  subst hdb
  exact refl h

/-- A change of tables that hold no rows of runs. -/
theorem of_rows (h : Shows db l) (hrows : ∀ r, db'.ofRun r = db.ofRun r) :
    Edits db db' l l where
  id := rfl
  rows := (hrows _).trans h
  frame r _ := hrows r
  workers := rfl
  calls := rfl

/-! ## One statement -/

theorem updateRun (h : Shows db l) {p : RunRow → Bool} {f : RunRow → RunRow}
    (hselect : ∀ r ∈ db.runs, p r = true → r.id = l.run.id) (hf : ∀ r, (f r).id = r.id) :
    Edits db { db with runs := Table.updateWhere p f db.runs } l
      { l with run := if p l.run then f l.run else l.run } where
  id := by
    split
    · exact hf l.run
    · rfl
  rows := by
    have hrows : { db with runs := Table.updateWhere p f db.runs }.ofRun l.run.id =
        { db.ofRun l.run.id with
          runs := Table.updateWhere p f (db.ofRun l.run.id).runs } :=
      RunRows.ext (Table.filter_updateWhere (fun r => by rw [hf]) _)
        rfl rfl rfl rfl rfl rfl rfl rfl
    rw [hrows, h]
    rfl
  frame r hr :=
    RunRows.ext (Table.filter_updateWhere_of_ne hselect hf hr)
      rfl rfl rfl rfl rfl rfl rfl rfl
  workers := rfl
  calls := rfl

theorem updateTask (h : Shows db l) {p : TaskRow → Bool} {f : TaskRow → TaskRow}
    (hselect : ∀ t ∈ db.tasks, p t = true → t.runId = l.run.id)
    (hf : ∀ t, (f t).runId = t.runId) :
    Edits db { db with tasks := Table.updateWhere p f db.tasks } l
      { l with task := l.task.map fun t => if p t then f t else t } where
  id := rfl
  rows := by
    have hrows : { db with tasks := Table.updateWhere p f db.tasks }.ofRun l.run.id =
        { db.ofRun l.run.id with
          tasks := Table.updateWhere p f (db.ofRun l.run.id).tasks } :=
      RunRows.ext rfl (Table.filter_updateWhere (fun t => by rw [hf]) _)
        rfl rfl rfl rfl rfl rfl rfl
    rw [hrows, h]
    exact RunRows.ext rfl (Table.updateWhere_toList p f l.task) rfl rfl rfl rfl rfl rfl rfl
  frame r hr :=
    RunRows.ext rfl (Table.filter_updateWhere_of_ne hselect hf hr)
      rfl rfl rfl rfl rfl rfl rfl
  workers := rfl
  calls := rfl

theorem updateAttempts (h : Shows db l) {p : TaskAttemptRow → Bool}
    {f : TaskAttemptRow → TaskAttemptRow}
    (hselect : ∀ a ∈ db.taskAttempts, p a = true → a.runId = l.run.id)
    (hf : ∀ a, (f a).runId = a.runId) :
    Edits db { db with taskAttempts := Table.updateWhere p f db.taskAttempts } l
      { l with attempts := Table.updateWhere p f l.attempts } where
  id := rfl
  rows := by
    have hrows : { db with
          taskAttempts := Table.updateWhere p f db.taskAttempts }.ofRun l.run.id =
        { db.ofRun l.run.id with
          attempts := Table.updateWhere p f (db.ofRun l.run.id).attempts } :=
      RunRows.ext rfl rfl (Table.filter_updateWhere (fun a => by rw [hf]) _)
        rfl rfl rfl rfl rfl rfl
    rw [hrows, h]
    rfl
  frame r hr :=
    RunRows.ext rfl rfl (Table.filter_updateWhere_of_ne hselect hf hr)
      rfl rfl rfl rfl rfl rfl
  workers := rfl
  calls := rfl

theorem updateEffect (h : Shows db l) {p : ModelInvocationEffectRow → Bool}
    {f : ModelInvocationEffectRow → ModelInvocationEffectRow}
    (hselect : ∀ e ∈ db.modelInvocationEffects, p e = true → e.runId = l.run.id)
    (hf : ∀ e, (f e).runId = e.runId) :
    Edits db
      { db with
        modelInvocationEffects := Table.updateWhere p f db.modelInvocationEffects } l
      { l with effect := l.effect.map fun e => if p e then f e else e } where
  id := rfl
  rows := by
    have hrows : { db with modelInvocationEffects :=
          Table.updateWhere p f db.modelInvocationEffects }.ofRun l.run.id =
        { db.ofRun l.run.id with
          effects := Table.updateWhere p f (db.ofRun l.run.id).effects } :=
      RunRows.ext rfl rfl rfl (Table.filter_updateWhere (fun e => by rw [hf]) _)
        rfl rfl rfl rfl rfl
    rw [hrows, h]
    exact RunRows.ext rfl rfl rfl (Table.updateWhere_toList p f l.effect)
      rfl rfl rfl rfl rfl
  frame r hr :=
    RunRows.ext rfl rfl rfl (Table.filter_updateWhere_of_ne hselect hf hr)
      rfl rfl rfl rfl rfl
  workers := rfl
  calls := rfl

theorem updateArtifacts (h : Shows db l) {p : ArtifactRow → Bool}
    {f : ArtifactRow → ArtifactRow}
    (hselect : ∀ a ∈ db.artifacts, p a = true → a.runId = l.run.id)
    (hf : ∀ a, (f a).runId = a.runId) :
    Edits db { db with artifacts := Table.updateWhere p f db.artifacts } l
      { l with artifacts := Table.updateWhere p f l.artifacts } where
  id := rfl
  rows := by
    have hrows : { db with
          artifacts := Table.updateWhere p f db.artifacts }.ofRun l.run.id =
        { db.ofRun l.run.id with
          artifacts := Table.updateWhere p f (db.ofRun l.run.id).artifacts } :=
      RunRows.ext rfl rfl rfl rfl (Table.filter_updateWhere (fun a => by rw [hf]) _)
        rfl rfl rfl rfl
    rw [hrows, h]
    rfl
  frame r hr :=
    RunRows.ext rfl rfl rfl rfl (Table.filter_updateWhere_of_ne hselect hf hr)
      rfl rfl rfl rfl
  workers := rfl
  calls := rfl

theorem updateWaits (h : Shows db l) {p : HumanWaitRow → Bool}
    {f : HumanWaitRow → HumanWaitRow}
    (hselect : ∀ w ∈ db.humanWaits, p w = true → w.runId = l.run.id)
    (hf : ∀ w, (f w).runId = w.runId) :
    Edits db { db with humanWaits := Table.updateWhere p f db.humanWaits } l
      { l with waits := Table.updateWhere p f l.waits } where
  id := rfl
  rows := by
    have hrows : { db with
          humanWaits := Table.updateWhere p f db.humanWaits }.ofRun l.run.id =
        { db.ofRun l.run.id with
          waits := Table.updateWhere p f (db.ofRun l.run.id).waits } :=
      RunRows.ext rfl rfl rfl rfl rfl rfl (Table.filter_updateWhere (fun w => by rw [hf]) _)
        rfl rfl
    rw [hrows, h]
    rfl
  frame r hr :=
    RunRows.ext rfl rfl rfl rfl rfl rfl (Table.filter_updateWhere_of_ne hselect hf hr)
      rfl rfl
  workers := rfl
  calls := rfl

theorem insertAttempt (h : Shows db l) {a : TaskAttemptRow} (ha : a.runId = l.run.id) :
    Edits db { db with taskAttempts := db.taskAttempts ++ [a] } l
      { l with attempts := l.attempts ++ [a] } where
  id := rfl
  rows := by
    have hrows : { db with taskAttempts := db.taskAttempts ++ [a] }.ofRun l.run.id =
        { db.ofRun l.run.id with attempts := (db.ofRun l.run.id).attempts ++ [a] } :=
      RunRows.ext rfl rfl (Table.filter_append_of_eq ha) rfl rfl rfl rfl rfl rfl
    rw [hrows, h]
    rfl
  frame r hr :=
    RunRows.ext rfl rfl (Table.filter_append_of_ne (ha.trans_ne hr.symm))
      rfl rfl rfl rfl rfl rfl
  workers := rfl
  calls := rfl

theorem insertEffect (h : Shows db l) {e : ModelInvocationEffectRow}
    (hnone : l.effect = none) (he : e.runId = l.run.id) :
    Edits db { db with modelInvocationEffects := db.modelInvocationEffects ++ [e] } l
      { l with effect := some e } where
  id := rfl
  rows := by
    have hrows : { db with
          modelInvocationEffects := db.modelInvocationEffects ++ [e] }.ofRun l.run.id =
        { db.ofRun l.run.id with effects := (db.ofRun l.run.id).effects ++ [e] } :=
      RunRows.ext rfl rfl rfl (Table.filter_append_of_eq he) rfl rfl rfl rfl rfl
    rw [hrows, h]
    simp [Life.rows, hnone]
  frame r hr :=
    RunRows.ext rfl rfl rfl (Table.filter_append_of_ne (he.trans_ne hr.symm))
      rfl rfl rfl rfl rfl
  workers := rfl
  calls := rfl

theorem insertArtifact (h : Shows db l) {a : ArtifactRow} (ha : a.runId = l.run.id) :
    Edits db { db with artifacts := db.artifacts ++ [a] } l
      { l with artifacts := l.artifacts ++ [a] } where
  id := rfl
  rows := by
    have hrows : { db with artifacts := db.artifacts ++ [a] }.ofRun l.run.id =
        { db.ofRun l.run.id with artifacts := (db.ofRun l.run.id).artifacts ++ [a] } :=
      RunRows.ext rfl rfl rfl rfl (Table.filter_append_of_eq ha) rfl rfl rfl rfl
    rw [hrows, h]
    rfl
  frame r hr :=
    RunRows.ext rfl rfl rfl rfl (Table.filter_append_of_ne (ha.trans_ne hr.symm))
      rfl rfl rfl rfl
  workers := rfl
  calls := rfl

theorem insertVersion (h : Shows db l) {v : ArtifactVersionRow}
    (hv : v.runId = l.run.id) :
    Edits db { db with artifactVersions := db.artifactVersions ++ [v] } l
      { l with versions := l.versions ++ [v] } where
  id := rfl
  rows := by
    have hrows : { db with
          artifactVersions := db.artifactVersions ++ [v] }.ofRun l.run.id =
        { db.ofRun l.run.id with versions := (db.ofRun l.run.id).versions ++ [v] } :=
      RunRows.ext rfl rfl rfl rfl rfl (Table.filter_append_of_eq hv) rfl rfl rfl
    rw [hrows, h]
    rfl
  frame r hr :=
    RunRows.ext rfl rfl rfl rfl rfl (Table.filter_append_of_ne (hv.trans_ne hr.symm))
      rfl rfl rfl
  workers := rfl
  calls := rfl

theorem insertWait (h : Shows db l) {w : HumanWaitRow} (hw : w.runId = l.run.id) :
    Edits db { db with humanWaits := db.humanWaits ++ [w] } l
      { l with waits := l.waits ++ [w] } where
  id := rfl
  rows := by
    have hrows : { db with humanWaits := db.humanWaits ++ [w] }.ofRun l.run.id =
        { db.ofRun l.run.id with waits := (db.ofRun l.run.id).waits ++ [w] } :=
      RunRows.ext rfl rfl rfl rfl rfl rfl (Table.filter_append_of_eq hw) rfl rfl
    rw [hrows, h]
    rfl
  frame r hr :=
    RunRows.ext rfl rfl rfl rfl rfl rfl (Table.filter_append_of_ne (hw.trans_ne hr.symm))
      rfl rfl
  workers := rfl
  calls := rfl

theorem insertAnswer (h : Shows db l) {a : ClarificationAnswerVersionRow}
    (ha : a.runId = l.run.id) :
    Edits db
      { db with clarificationAnswerVersions := db.clarificationAnswerVersions ++ [a] } l
      { l with answers := l.answers ++ [a] } where
  id := rfl
  rows := by
    have hrows : { db with clarificationAnswerVersions :=
          db.clarificationAnswerVersions ++ [a] }.ofRun l.run.id =
        { db.ofRun l.run.id with answers := (db.ofRun l.run.id).answers ++ [a] } :=
      RunRows.ext rfl rfl rfl rfl rfl rfl rfl (Table.filter_append_of_eq ha) rfl
    rw [hrows, h]
    rfl
  frame r hr :=
    RunRows.ext rfl rfl rfl rfl rfl rfl rfl (Table.filter_append_of_ne (ha.trans_ne hr.symm))
      rfl
  workers := rfl
  calls := rfl

theorem insertEvent (h : Shows db l) {e : EventRow} (he : e.runId = some l.run.id) :
    Edits db { db with events := db.events ++ [e] } l
      { l with events := l.events ++ [e] } where
  id := rfl
  rows := by
    have hrows : { db with events := db.events ++ [e] }.ofRun l.run.id =
        { db.ofRun l.run.id with events := (db.ofRun l.run.id).events ++ [e] } :=
      RunRows.ext rfl rfl rfl rfl rfl rfl rfl rfl (Table.filter_append_of_eq he)
    rw [hrows, h]
    rfl
  frame r hr := by
    refine RunRows.ext rfl rfl rfl rfl rfl rfl rfl rfl (Table.filter_append_of_ne ?_)
    rw [he]
    exact fun heq => hr (Option.some.inj heq).symm
  workers := rfl
  calls := rfl

/-- An event of the run, with its counter and its outbox message. -/
theorem appended {w : World} (options : AppendEventOptions) (h : Shows w.db l)
    (hrun : options.runId.map UuidText.value = some l.run.id) (sequence : Option ℕ) :
    Edits w.db (DomainEvent.appended options sequence w).db l
      { l with
        events := l.events ++ [DomainEvent.eventRow options w.nextId sequence w.now] } := by
  have hevent := insertEvent h (e := DomainEvent.eventRow options w.nextId sequence w.now)
    hrun
  exact ⟨hevent.id, hevent.rows, hevent.frame, rfl, rfl⟩

end Edits

end Aico
