import Aico.Workflow.ContextSteps

/-!
# The answers of a snapshot

A context snapshot keeps the list of its answers, and the join table is to hold
one row for each of them. An answer copies the list of the snapshot its wait was
opened on and adds its own, but inserts the row of its own alone (`lastRow`). So
the rows agree with the list until a run is asked a second time: a snapshot with
two answers has only the row of the second.
-/

namespace Aico

namespace ContextSnapshotRow

def answerRows (cs : ContextSnapshotRow) : List ContextSnapshotAnswerRow :=
  cs.answerVersionIds.zipIdx.map fun entry =>
    { companyId := cs.companyId, contextSnapshotId := cs.id,
      answerVersionId := entry.1, ordinal := entry.2 }

def lastRow (cs : ContextSnapshotRow) : List ContextSnapshotAnswerRow :=
  cs.answerVersionIds.getLast?.toList.map fun answerVersionId =>
    { companyId := cs.companyId, contextSnapshotId := cs.id,
      answerVersionId := answerVersionId, ordinal := cs.answerVersionIds.length - 1 }

theorem answerRows_of_length_le {cs : ContextSnapshotRow}
    (h : cs.answerVersionIds.length ≤ 1) : cs.answerRows = cs.lastRow := by
  unfold answerRows lastRow
  match cs.answerVersionIds, h with
  | [], _ => rfl
  | [a], _ => rfl

theorem length_answerRows (cs : ContextSnapshotRow) :
    cs.answerRows.length = cs.answerVersionIds.length := by
  simp [answerRows]

theorem length_lastRow_le (cs : ContextSnapshotRow) : cs.lastRow.length ≤ 1 := by
  unfold lastRow
  cases cs.answerVersionIds.getLast? <;> simp

end ContextSnapshotRow

namespace Db

def answersOf (db : Db) (snapshotId : Uuid) : List ContextSnapshotAnswerRow :=
  db.contextSnapshotAnswers.filter fun row => row.contextSnapshotId = snapshotId

/-- The rows of the snapshot are those its list of answers calls for. -/
def AnswersAgree (db : Db) (cs : ContextSnapshotRow) : Prop :=
  (db.answersOf cs.id).Perm cs.answerRows

end Db

structure World.LastAnswers (w : World) : Prop where
  drawn : ∀ cs ∈ w.db.contextSnapshots, cs.id < w.nextId
  rows : ∀ row ∈ w.db.contextSnapshotAnswers, row.contextSnapshotId < w.nextId
  last : ∀ cs ∈ w.db.contextSnapshots, w.db.answersOf cs.id = cs.lastRow

namespace World.LastAnswers

variable {p : Program} {act : ProgramAction} {w w' : World}

theorem agree_iff (h : w.LastAnswers) {cs : ContextSnapshotRow}
    (hcs : cs ∈ w.db.contextSnapshots) :
    w.db.AnswersAgree cs ↔ cs.answerVersionIds.length ≤ 1 := by
  rw [Db.AnswersAgree, h.last cs hcs]
  constructor
  · intro hperm
    rw [← cs.length_answerRows, ← hperm.length_eq]
    exact cs.length_lastRow_le
  · intro hle
    rw [ContextSnapshotRow.answerRows_of_length_le hle]

/-- New snapshots and rows of new snapshots leave the rows of the others alone. -/
theorem append (h : w.LastAnswers) (hn : w.nextId ≤ w'.nextId) {c : ContextSnapshotRow}
    (hid : w.nextId ≤ c.id ∧ c.id < w'.nextId)
    (hsnapshots : w'.db.contextSnapshots = w.db.contextSnapshots ++ [c])
    (hrows : w'.db.contextSnapshotAnswers = w.db.contextSnapshotAnswers ++ c.lastRow) :
    w'.LastAnswers := by
  have hown : ∀ row ∈ c.lastRow, row.contextSnapshotId = c.id := by
    intro row hrow
    obtain ⟨_, -, rfl⟩ := List.mem_map.mp hrow
    rfl
  refine ⟨fun cs' hcs' => ?_, fun row hrow => ?_, fun cs' hcs' => ?_⟩
  · rw [hsnapshots] at hcs'
    rcases List.mem_append.mp hcs' with hcs' | hcs'
    · exact (h.drawn cs' hcs').trans_le hn
    · rw [List.mem_singleton.mp hcs']
      exact hid.2
  · rw [hrows] at hrow
    rcases List.mem_append.mp hrow with hrow | hrow
    · exact (h.rows row hrow).trans_le hn
    · rw [hown row hrow]
      exact hid.2
  · rw [hsnapshots] at hcs'
    rw [Db.answersOf, hrows]
    rcases List.mem_append.mp hcs' with hcs' | hcs'
    · have hne : ∀ row ∈ c.lastRow, row.contextSnapshotId ≠ cs'.id := by
        intro row hrow heq
        rw [hown row hrow] at heq
        exact absurd (h.drawn cs' hcs') (Nat.not_lt.mpr (heq ▸ hid.1))
      rw [Table.filter_append_of_forall_ne hne]
      exact h.last cs' hcs'
    · obtain rfl := List.mem_singleton.mp hcs'
      have hnone : w.db.contextSnapshotAnswers.filter
          (fun row => row.contextSnapshotId = cs'.id) = [] :=
        List.filter_eq_nil_iff.mpr fun row hrow heq =>
          absurd (h.rows row hrow) (Nat.not_lt.mpr (of_decide_eq_true heq ▸ hid.1))
      rw [Table.filter_append_of_forall_eq hown, hnone, List.nil_append]

theorem step (h : w.LastAnswers) (hn : w.nextId ≤ w'.nextId) (hstep : ContextStep p act w w') :
    w'.LastAnswers := by
  cases hstep with
  | kept hpointers hanswers =>
      obtain ⟨hsnapshots, hrows⟩ := hanswers
      refine ⟨fun cs hcs => ?_, fun row hrow => ?_, fun cs hcs => ?_⟩
      · exact (h.drawn cs (hsnapshots ▸ hcs)).trans_le hn
      · exact (h.rows row (hrows ▸ hrow)).trans_le hn
      · rw [Db.answersOf, hrows]
        exact h.last cs (hsnapshots ▸ hcs)
  | started actor initiativeId expectedVersion idempotencyKey correlationId dto companyId
      qualification rows response w₁ hact hstart hcommit =>
      have hextends := World.Extends.started hstart
      obtain ⟨profileVersionId, sequence, sequence', -, rfl⟩ := Initiatives.startRun_eq_ok hstart
      subst hcommit
      refine h.append hn (c := Initiatives.contextSnapshotRow companyId
        (Initiatives.runIds _ (w.nextId + 1)) profileVersionId w.now) ?_ rfl
        (List.append_nil _).symm
      refine ⟨Nat.le_add_right w.nextId 2, ?_⟩
      exact hextends.snapshots.forall_key_lt hextends.nextId
        (fun cs hcs => (h.drawn cs hcs).trans (Nat.lt_succ_self _)) _
        (List.mem_append_right _ (List.mem_singleton_self _))
  | answered input rows response w₁ hact hresolve hcommit =>
      have hextends := World.Extends.resolved hresolve
      obtain ⟨wait, run, task, source, sequence, -, -, -, -, -, -, w₂, rfl, rfl⟩ :=
        DurableWait.resolveWait_eq_ok hresolve
      subst hcommit
      refine h.append hn (c := DurableWait.resumedSnapshotRow input source (w.nextId + 2)
        (w.nextId + 1) w.now) ?_ rfl ?_
      · refine ⟨Nat.le_add_right w.nextId 2, ?_⟩
        change w.nextId + 2 < w.nextId + 1 + 4
        omega
      · simp [ContextSnapshotRow.lastRow, DurableWait.resumedSnapshotRow, World.reserved,
          DomainEvent.appended, DurableWait.answered, DurableWait.resolve,
          CommandExecutor.committed]

theorem initial (init : InitialProgram) : init.sys.world.LastAnswers := by
  have hsnapshots : init.sys.world.db.contextSnapshots = [] := init.contextSnapshots
  have hrows : init.sys.world.db.contextSnapshotAnswers = [] := init.contextSnapshotAnswers
  refine ⟨?_, ?_, ?_⟩
  · rw [hsnapshots]
    exact nofun
  · rw [hrows]
    exact nofun
  · rw [hsnapshots]
    exact nofun

end World.LastAnswers

namespace Program

/-! ## Histories -/

theorem lastAnswers_after (p : Program) (init : InitialProgram) (acts : List ProgramAction) :
    (p.after init acts).world.LastAnswers := by
  refine Transition.run_invariant (P := fun s : Sys => s.world.LastAnswers) (fun s act h => ?_)
    (World.LastAnswers.initial init) acts
  obtain ⟨hextends, hstep⟩ := p.contextStep s act
  exact h.step hextends.nextId hstep

/-- Every wait that the action answers was opened on a snapshot without answers. -/
def FirstAnswer (s : Sys) : ProgramAction → Prop
  | .work (.answer input) _ =>
      ∀ wait ∈ s.world.db.humanWaits,
        DurableWait.isWait input.companyId.value input.runId.value input.waitId.value wait = true →
        ∀ cs ∈ s.world.db.contextSnapshots, cs.companyId = input.companyId.value →
          cs.id = wait.contextSnapshotId → cs.answerVersionIds = []
  | _ => True

/-- A step that answers no wait a second time adds no second answer. -/
theorem length_answers_le {p : Program} {s : Sys} {act : ProgramAction}
    (h : ∀ cs ∈ s.world.db.contextSnapshots, cs.answerVersionIds.length ≤ 1)
    (hfirst : FirstAnswer s act) :
    ∀ cs ∈ (p.step s act).world.db.contextSnapshots, cs.answerVersionIds.length ≤ 1 := by
  intro cs hcs
  cases (p.contextStep s act).2 with
  | kept hpointers hanswers => exact h cs (hanswers.1 ▸ hcs)
  | started actor initiativeId expectedVersion idempotencyKey correlationId dto companyId
      qualification rows response w₁ hact hstart hcommit =>
      obtain ⟨profileVersionId, sequence, sequence', -, rfl⟩ := Initiatives.startRun_eq_ok hstart
      rw [hcommit] at hcs
      rcases List.mem_append.mp hcs with hcs | hcs
      · exact h cs hcs
      · rw [List.mem_singleton.mp hcs]
        exact Nat.zero_le 1
  | answered input rows response w₁ hact hresolve hcommit =>
      obtain ⟨wait, run, task, source, sequence, hwait, -, -, -, hsource, -, w₂, rfl, rfl⟩ :=
        DurableWait.resolveWait_eq_ok hresolve
      subst hact
      rw [hcommit] at hcs
      rcases List.mem_append.mp hcs with hcs | hcs
      · exact h cs hcs
      · obtain ⟨hmem, hfound⟩ := List.mem_filter.mp (List.mem_of_mem_head? hsource)
        obtain ⟨hcompany, hid⟩ := of_decide_eq_true hfound
        have hnone := hfirst wait (List.mem_of_find?_eq_some hwait) (List.find?_some hwait)
          source hmem hcompany hid
        rw [List.mem_singleton.mp hcs]
        simp [DurableWait.resumedSnapshotRow, hnone]

/-- The rows of a snapshot agree with its list of answers exactly where the list has
one element at most; in a history that answers no wait opened on an answered
snapshot they always do. -/
theorem answersAgree_after (p : Program) (init : InitialProgram) (acts : List ProgramAction) :
    (∀ cs ∈ (p.after init acts).world.db.contextSnapshots,
      (p.after init acts).world.db.AnswersAgree cs ↔ cs.answerVersionIds.length ≤ 1) ∧
    (Transition.EachStep p.step FirstAnswer init.sys acts →
      ∀ cs ∈ (p.after init acts).world.db.contextSnapshots,
        (p.after init acts).world.db.AnswersAgree cs) := by
  have hlast := p.lastAnswers_after init acts
  refine ⟨fun cs hcs => hlast.agree_iff hcs, fun hfirst cs hcs => (hlast.agree_iff hcs).mpr ?_⟩
  refine Transition.run_invariant_of_eachStep
    (P := fun s : Sys => ∀ cs ∈ s.world.db.contextSnapshots, cs.answerVersionIds.length ≤ 1)
    (fun s act h hfirst => length_answers_le h hfirst) ?_ hfirst cs hcs
  have hnone : init.sys.world.db.contextSnapshots = [] := init.contextSnapshots
  rw [hnone]
  exact nofun

def demoCycle (version : ℕ) (waitId requestId key : Uuid) : List ProgramAction :=
  [.work (.openWait
      { actorId := .ofUuid 0, companyId := .ofUuid 2, runId := .ofUuid 13, taskId := .ofUuid 14,
        correlationId := .ofUuid 0, expectedRunVersion := version, injectRollback := false }) rfl,
    .work (.answer
      { actorId := .ofUuid 0, companyId := .ofUuid 2, runId := .ofUuid 13,
        waitId := .ofUuid waitId, requestId := .ofUuid requestId, requestVersion := 1,
        workflowVersion := "mvp-v1", expectedRunVersion := version + 1,
        schemaId := "durable-wait-response", schemaVersion := "1.0",
        content := .object [("decision", .text "CONTINUE"), ("note", .text "ok")],
        idempotencyKey := key, correlationId := .ofUuid 0 }) rfl]

/-- The founder is asked twice: the last snapshot has two answers and one row. -/
theorem answersAgree_fails :
    ∃ cs ∈ (demo.after demoFounding
        (demoOpening ++ demoCycle 1 20 21 4 ++ demoCycle 3 29 30 5)).world.db.contextSnapshots,
      ¬ (demo.after demoFounding
        (demoOpening ++ demoCycle 1 20 21 4 ++ demoCycle 3 29 30 5)).world.db.AnswersAgree cs := by
  have htwo : ((demo.after demoFounding
      (demoOpening ++ demoCycle 1 20 21 4 ++ demoCycle 3 29 30 5)).world.db.contextSnapshots.any
      fun cs => cs.answerVersionIds.length = 2) = true := by decide +kernel
  obtain ⟨cs, hcs, hlength⟩ := List.any_eq_true.mp htwo
  refine ⟨cs, hcs, fun hagree => ?_⟩
  have hle := ((demo.lastAnswers_after demoFounding _).agree_iff hcs).mp hagree
  rw [of_decide_eq_true hlength] at hle
  exact absurd hle (by decide)

/-- The founder is asked once. -/
theorem answersAgree_demo :
    (((demo.after demoFounding (demoOpening ++ demoCycle 1 20 21 4)).world.db.contextSnapshots.any
      fun cs => cs.answerVersionIds = [25]) = true) ∧
    ∀ cs ∈ (demo.after demoFounding
        (demoOpening ++ demoCycle 1 20 21 4)).world.db.contextSnapshots,
      (demo.after demoFounding (demoOpening ++ demoCycle 1 20 21 4)).world.db.AnswersAgree cs := by
  refine ⟨by decide +kernel, (answersAgree_after demo demoFounding _).2 ?_⟩
  have hnone : ((Transition.run demo.step demoFounding.sys
      (demoOpening ++ (demoCycle 1 20 21 4).take 1)).world.db.contextSnapshots.all
      fun cs => cs.answerVersionIds = []) = true := by decide +kernel
  have hsplit : demoOpening ++ demoCycle 1 20 21 4 =
      (demoOpening ++ (demoCycle 1 20 21 4).take 1) ++ (demoCycle 1 20 21 4).drop 1 := rfl
  rw [hsplit, Transition.eachStep_append]
  refine ⟨⟨trivial, trivial, trivial, trivial, trivial⟩, fun wait _ _ cs hcs _ _ => ?_, trivial⟩
  exact of_decide_eq_true (List.all_eq_true.mp hnone cs hcs)

end Program

end Aico
