import Aico.Workflow.Coherence

/-!
# Waits and their answers

A wait leaves `OPEN` once: an answer resolves it and leaves one answer version
and one event for it, a cancellation leaves neither. While a wait is open the
run stands still, at the version the wait expects, so the wait stays answerable.
-/

namespace Aico

def IsResolution (waitId : Uuid) (e : EventRow) : Bool :=
  e.type = "founder_input_resolved" ∧ e.causationId = some waitId

def IsAnswerTo (waitId : Uuid) (a : ClarificationAnswerVersionRow) : Bool :=
  a.waitId = waitId

def WaitStatus.answers : WaitStatus → ℕ
  | .resolved => 1
  | _ => 0

structure Life.Open (l : Life) (wait : HumanWaitRow) : Prop where
  state : l.run.state = .awaitingFounderInput
  version : l.run.rowVersion = wait.expectedRunRowVersion
  task : ∃ t, l.task = some t ∧ wait.taskId = some t.id ∧ t.state = .awaitingInput

/-- The invariant of a run, third part. -/
structure Life.Waiting (l : Life) : Prop where
  nodup : (l.waits.map HumanWaitRow.id).Nodup
  owned : ∀ w ∈ l.waits, w.id < l.nextId ∧ w.runId = l.run.id ∧
    w.companyId = l.run.companyId ∧ w.expectedRunState = .awaitingFounderInput
  task : ∀ w ∈ l.waits, ∃ t, l.task = some t ∧ w.taskId = some t.id
  opened : ∀ w ∈ l.waits, w.status = .opened → l.Open w
  single : ∀ w ∈ l.waits, ∀ w' ∈ l.waits, w.status = .opened → w'.status = .opened → w = w'
  answered : ∀ a ∈ l.answers, a.waitId ∈ l.waits.map HumanWaitRow.id
  resolved : ∀ e ∈ l.events, ∀ c, IsResolution c e = true →
    c ∈ l.waits.map HumanWaitRow.id
  answers : ∀ w ∈ l.waits, l.answers.countP (IsAnswerTo w.id) = w.status.answers
  events : ∀ w ∈ l.waits, l.events.countP (IsResolution w.id) = w.status.answers

/-- The event is about something else than the resolution of a wait. -/
def Unresolving (e : EventRow) : Prop := e.type ≠ "founder_input_resolved"

namespace Unresolving

variable {event : EventRow}

theorem isResolution (h : Unresolving event) (waitId : Uuid) :
    IsResolution waitId event = false := by
  simp [IsResolution, show event.type ≠ "founder_input_resolved" from h]

theorem of_isEventOf {options : AppendEventOptions} (type : String)
    (h : IsEventOf options event) (htype : options.type = type)
    (hne : type ≠ "founder_input_resolved") : Unresolving event := by
  obtain ⟨eventId, sequence, occurredAt, rfl⟩ := h
  exact htype.trans_ne hne

end Unresolving

namespace Life

variable {rt : Runtime} {l l' : Life} {t : TaskRow}

theorem Open.of_eq {wait : HumanWaitRow} (h : l.Open wait) (hrun : l'.run = l.run)
    (htask : l'.task = l.task) : l'.Open wait where
  state := by rw [hrun, h.state]
  version := by rw [hrun, h.version]
  task := by
    rw [htask]
    exact h.task

namespace Waiting

/-- Transitions that touch neither waits nor answers keep the invariant where
they keep the open wait as it is. -/
theorem of_eq (h : l.Waiting) (hid : l'.run.id = l.run.id)
    (hcompanyId : l'.run.companyId = l.run.companyId)
    (htask : ∀ t, l.task = some t → ∃ t', l'.task = some t' ∧ t'.id = t.id)
    (hwaits : l'.waits = l.waits) (hanswers : l'.answers = l.answers)
    (hn : l.nextId ≤ l'.nextId)
    (hevents : l'.events = l.events ∨
      ∃ e, l'.events = l.events ++ [e] ∧ Unresolving e)
    (hopen : ∀ w ∈ l.waits, w.status = .opened → l'.Open w) : l'.Waiting where
  nodup := by
    rw [hwaits]
    exact h.nodup
  owned w hw := by
    rw [hwaits] at hw
    obtain ⟨hlt, hrun, hcompany, hexpected⟩ := h.owned w hw
    exact ⟨hlt.trans_le hn, hrun.trans hid.symm, hcompany.trans hcompanyId.symm, hexpected⟩
  task w hw := by
    rw [hwaits] at hw
    obtain ⟨t, ht, hwt⟩ := h.task w hw
    obtain ⟨t', ht', hid'⟩ := htask t ht
    exact ⟨t', ht', by rw [hwt, hid']⟩
  opened w hw hstatus := by
    rw [hwaits] at hw
    exact hopen w hw hstatus
  single := by
    rw [hwaits]
    exact h.single
  answered a ha := by
    rw [hanswers] at ha
    rw [hwaits]
    exact h.answered a ha
  resolved e he c hc := by
    rw [hwaits]
    rcases hevents with hevents | ⟨e', hevents, hother⟩ <;> rw [hevents] at he
    · exact h.resolved e he c hc
    · rcases List.mem_append.mp he with he | he
      · exact h.resolved e he c hc
      · obtain rfl := List.mem_singleton.mp he
        rw [hother.isResolution] at hc
        cases hc
  answers w hw := by
    rw [hwaits] at hw
    rw [hanswers]
    exact h.answers w hw
  events w hw := by
    rw [hwaits] at hw
    rcases hevents with hevents | ⟨e', hevents, hother⟩ <;> rw [hevents]
    · exact h.events w hw
    · rw [List.countP_append, List.countP_singleton, hother.isResolution]
      exact h.events w hw

/-- Transitions that touch attempts, effect and artifacts only. -/
theorem of_quiet (h : l.Waiting) (hrun : l'.run = l.run) (htask : l'.task = l.task)
    (hwaits : l'.waits = l.waits) (hanswers : l'.answers = l.answers)
    (hevents : l'.events = l.events) (hn : l.nextId ≤ l'.nextId) : l'.Waiting := by
  refine h.of_eq (congrArg _ hrun) (congrArg _ hrun) ?_ hwaits hanswers hn (.inl hevents) ?_
  · intro t ht
    exact ⟨t, htask.trans ht, rfl⟩
  · intro w hw hopened
    exact (h.opened w hw hopened).of_eq hrun htask

theorem id_lt (h : l.Waiting) {id : Uuid} (hid : id ∈ l.waits.map HumanWaitRow.id) :
    id < l.nextId := by
  obtain ⟨w, hw, rfl⟩ := List.mem_map.mp hid
  exact (h.owned w hw).1

theorem not_opened (h : l.Waiting) (hstate : l.run.state ≠ .awaitingFounderInput)
    {w : HumanWaitRow} (hw : w ∈ l.waits) : w.status ≠ .opened :=
  fun hopened => hstate (h.opened w hw hopened).state

/-- Transitions of the holder of the lease: the run does not wait. -/
theorem of_held (h : l.Waiting) (hcoherence : l.Coherence) {claim : ClaimedTask}
    (hheld : l.Held claim t) {t' : TaskRow} {event : EventRow}
    (hid : l'.run.id = l.run.id) (hcompanyId : l'.run.companyId = l.run.companyId)
    (ht' : l'.task = some t') (hid' : t'.id = t.id) (hwaits : l'.waits = l.waits)
    (hanswers : l'.answers = l.answers) (hevents : l'.events = l.events ++ [event])
    (hevent : Unresolving event) (hn : l.nextId ≤ l'.nextId) : l'.Waiting := by
  have hstate : l.run.state ≠ .awaitingFounderInput := by
    simp [hheld.qualifying hcoherence]
  refine h.of_eq hid hcompanyId ?_ hwaits hanswers hn (.inr ⟨event, hevents, hevent⟩) ?_
  · intro u hu
    rw [hheld.1] at hu
    obtain rfl := Option.some.inj hu
    exact ⟨t', ht', hid'⟩
  · intro w hw hopened
    exact absurd hopened (h.not_opened hstate hw)

variable {now : Timestamp} {event : EventRow}

theorem openWait (h : l.Waiting) {wait : HumanWaitRow} {n : ℕ} (ht : l.task = some t)
    (hdraft : l.run.state = .draft) (hid : l.nextId ≤ wait.id ∧ wait.id < n)
    (hrun : wait.runId = l.run.id) (hcompany : wait.companyId = l.run.companyId)
    (hexpected : wait.expectedRunState = .awaitingFounderInput)
    (hversion : wait.expectedRunRowVersion = l.run.rowVersion + 1)
    (htaskId : wait.taskId = some t.id) (hstatus : wait.status = .opened)
    (hevent : Unresolving event) :
    ((l.openWait t wait now event).drawn n).Waiting where
  nodup := by
    refine Table.nodup_key_append h.nodup ?_
    intro w hw heq
    have hlt := (h.owned w hw).1
    rw [heq] at hlt
    exact absurd hlt (not_lt.mpr hid.1)
  owned w hw := by
    rcases List.mem_append.mp hw with hw | hw
    · obtain ⟨hlt, hrest⟩ := h.owned w hw
      exact ⟨hlt.trans (hid.1.trans_lt hid.2), hrest⟩
    · obtain rfl := List.mem_singleton.mp hw
      exact ⟨hid.2, hrun, hcompany, hexpected⟩
  task w hw := by
    refine ⟨_, rfl, ?_⟩
    rcases List.mem_append.mp hw with hw | hw
    · obtain ⟨t', ht', hwt⟩ := h.task w hw
      rw [ht] at ht'
      obtain rfl := Option.some.inj ht'
      exact hwt
    · obtain rfl := List.mem_singleton.mp hw
      exact htaskId
  opened w hw hopened := by
    rcases List.mem_append.mp hw with hw | hw
    · exact absurd hopened (h.not_opened (by simp [hdraft]) hw)
    · obtain rfl := List.mem_singleton.mp hw
      exact ⟨rfl, hversion.symm, _, rfl, htaskId, rfl⟩
  single w hw w' hw' hopened hopened' := by
    rcases List.mem_append.mp hw with hw | hw
    · exact absurd hopened (h.not_opened (by simp [hdraft]) hw)
    · rcases List.mem_append.mp hw' with hw' | hw'
      · exact absurd hopened' (h.not_opened (by simp [hdraft]) hw')
      · rw [List.mem_singleton.mp hw, List.mem_singleton.mp hw']
  answered a ha := by
    rw [Life.drawn, Life.openWait, List.map_append]
    exact List.mem_append_left _ (h.answered a ha)
  resolved e he c hc := by
    rw [Life.drawn, Life.openWait, List.map_append]
    rcases List.mem_append.mp he with he | he
    · exact List.mem_append_left _ (h.resolved e he c hc)
    · obtain rfl := List.mem_singleton.mp he
      rw [hevent.isResolution] at hc
      cases hc
  answers w hw := by
    rcases List.mem_append.mp hw with hw | hw
    · exact h.answers w hw
    · obtain rfl := List.mem_singleton.mp hw
      rw [hstatus]
      refine List.countP_eq_zero.mpr ?_
      intro a ha hanswer
      have hlt := h.id_lt (h.answered a ha)
      rw [of_decide_eq_true hanswer] at hlt
      exact absurd hlt (not_lt.mpr hid.1)
  events w hw := by
    simp only [Life.drawn, Life.openWait, List.countP_append, List.countP_singleton,
      hevent.isResolution]
    rcases List.mem_append.mp hw with hw | hw
    · exact h.events w hw
    · obtain rfl := List.mem_singleton.mp hw
      rw [hstatus]
      refine List.countP_eq_zero.mpr ?_
      intro e he hresolution
      exact absurd (h.id_lt (h.resolved e he _ hresolution)) (not_lt.mpr hid.1)

theorem forall_resolved {p : HumanWaitRow → Bool} {f : HumanWaitRow → HumanWaitRow}
    {Q : HumanWaitRow → Prop} (hQ : ∀ w ∈ l.waits, Q w) (hf : ∀ w, Q w → Q (f w)) :
    ∀ w ∈ Table.updateWhere p f l.waits, Q w := by
  refine Table.forall_mem_updateWhere.mpr ?_
  intro w hw
  split
  · exact hf w (hQ w hw)
  · exact hQ w hw

/-- One more record of the answered wait, where the records of each wait were as
many as its status says. -/
theorem countP_answered {ρ : Type} {rows : List ρ} {row : ρ} {about : Uuid → ρ → Bool}
    {wait : HumanWaitRow} {p : HumanWaitRow → Bool} {input : AnswerWaitInput}
    {eventId : Uuid} (h : ∀ w ∈ l.waits, rows.countP (about w.id) = w.status.answers)
    (hselect : ∀ w ∈ l.waits, p w = true ↔ w = wait) (hopened : wait.status = .opened)
    (habout : ∀ id, about id row = true ↔ wait.id = id)
    (hid : ∀ w ∈ l.waits, wait.id = w.id → w = wait) :
    ∀ w ∈ Table.updateWhere p (DurableWait.resolvedWait input eventId now) l.waits,
      (rows ++ [row]).countP (about w.id) = w.status.answers := by
  refine Table.forall_mem_updateWhere.mpr ?_
  intro w hw
  have hold := h w hw
  rw [List.countP_append, List.countP_singleton]
  split
  · next hp =>
      obtain rfl := (hselect w hw).mp hp
      rw [hopened] at hold
      have hnew : about w.id row = true := (habout w.id).mpr rfl
      simp only [DurableWait.resolvedWait, hold, hnew, if_true]
      rfl
  · next hp =>
      have hnew : about w.id row ≠ true := by
        intro hrow
        exact hp ((hselect w hw).mpr (hid w hw ((habout w.id).mp hrow)))
      rw [if_neg hnew]
      exact hold

theorem answer (h : l.Waiting) {wait : HumanWaitRow} {snapshot : ContextSnapshotRow}
    {input : AnswerWaitInput} {answerRow : ClarificationAnswerVersionRow} {n : ℕ}
    (hn : l.nextId ≤ n) (ht : l.task = some t) (hwait : wait ∈ l.waits)
    (hopened : wait.status = .opened) (hanswer : answerRow.waitId = wait.id)
    (hevent : ∀ c, IsResolution c event = true ↔ c = wait.id) :
    ((l.answer t wait snapshot input answerRow now event).drawn n).Waiting := by
  have hselect : ∀ w ∈ l.waits, decide (w.id = wait.id ∧ w.status = .opened) = true ↔
      w = wait := by
    intro w hw
    rw [decide_eq_true_iff]
    constructor
    · rintro ⟨hid, -⟩
      exact Table.eq_of_key_eq h.nodup hw hwait hid
    · rintro rfl
      exact ⟨rfl, hopened⟩
  have hother : ∀ w ∈ l.waits, w ≠ wait → w.status ≠ .opened := by
    intro w hw hne hstatus
    exact hne (h.single w hw wait hwait hstatus hopened)
  have hid : ∀ w ∈ l.waits, wait.id = w.id → w = wait :=
    fun w hw heq => Table.eq_of_key_eq h.nodup hw hwait heq.symm
  have hclosed : ∀ w ∈ Table.updateWhere (fun w => w.id = wait.id ∧ w.status = .opened)
      (DurableWait.resolvedWait input event.id now) l.waits, w.status ≠ .opened := by
    refine Table.forall_mem_updateWhere.mpr ?_
    intro w hw
    split
    · simp [DurableWait.resolvedWait]
    · next hp => exact hother w hw fun heq => hp ((hselect w hw).mpr heq)
  have hkey : ∀ w, (DurableWait.resolvedWait input event.id now w).id = w.id :=
    fun _ => rfl
  have hmap := Table.map_updateWhere hkey l.waits
    (p := fun w => decide (w.id = wait.id ∧ w.status = .opened))
  refine
    { nodup := hmap ▸ h.nodup
      owned := ?_
      task := ?_
      opened := fun w hw hstatus => absurd hstatus (hclosed w hw)
      single := fun w hw _ _ hstatus => absurd hstatus (hclosed w hw)
      answered := ?_
      resolved := ?_
      answers := ?_
      events := ?_ }
  · refine forall_resolved (fun w hw => ?_) fun w hw => hw
    obtain ⟨hw, hrest⟩ := h.owned w hw
    exact ⟨hw.trans_le hn, hrest⟩
  · refine forall_resolved (fun w hw => ?_) fun w hw => hw
    obtain ⟨t', ht', hwt⟩ := h.task w hw
    rw [ht] at ht'
    obtain rfl := Option.some.inj ht'
    exact ⟨_, rfl, hwt⟩
  · intro a ha
    rw [Life.drawn, Life.answer, hmap]
    rcases List.mem_append.mp ha with ha | ha
    · exact h.answered a ha
    · obtain rfl := List.mem_singleton.mp ha
      exact hanswer ▸ List.mem_map_of_mem hwait
  · intro e he c hc
    rw [Life.drawn, Life.answer, hmap]
    rcases List.mem_append.mp he with he | he
    · exact h.resolved e he c hc
    · obtain rfl := List.mem_singleton.mp he
      obtain rfl := (hevent c).mp hc
      exact List.mem_map_of_mem hwait
  · exact countP_answered h.answers hselect hopened (fun w => by simp [IsAnswerTo, hanswer]) hid
  · exact countP_answered h.events hselect hopened (fun w => (hevent w).trans eq_comm) hid

theorem cancel (h : l.Waiting) {n : ℕ} (hn : l.nextId ≤ n) (hevent : Unresolving event) :
    ((l.cancel now event).drawn n).Waiting := by
  have hclosed : ∀ w ∈ Table.updateWhere (fun w => w.status = .opened)
      (DurableWait.canceledWait now) l.waits, w.status ≠ .opened := by
    refine Table.forall_mem_updateWhere.mpr ?_
    intro w hw
    split
    · simp [DurableWait.canceledWait]
    · next hp => exact fun hstatus => hp (decide_eq_true hstatus)
  have hcount : ∀ {ρ : Type} {rows : List ρ} {about : Uuid → ρ → Bool},
      (∀ w ∈ l.waits, rows.countP (about w.id) = w.status.answers) →
      ∀ w ∈ Table.updateWhere (fun w => w.status = .opened)
        (DurableWait.canceledWait now) l.waits,
        rows.countP (about w.id) = w.status.answers := by
    intro ρ rows about hrows
    refine Table.forall_mem_updateWhere.mpr ?_
    intro w hw
    have hold := hrows w hw
    split
    · next hp =>
        rw [of_decide_eq_true hp] at hold
        exact hold
    · exact hold
  have hkey : ∀ w, (DurableWait.canceledWait now w).id = w.id := fun _ => rfl
  have hmap := Table.map_updateWhere hkey l.waits (p := fun w => decide (w.status = .opened))
  refine
    { nodup := hmap ▸ h.nodup
      owned := ?_
      task := ?_
      opened := fun w hw hstatus => absurd hstatus (hclosed w hw)
      single := fun w hw _ _ hstatus => absurd hstatus (hclosed w hw)
      answered := fun a ha => hmap ▸ h.answered a ha
      resolved := ?_
      answers := hcount h.answers
      events := ?_ }
  · refine forall_resolved (fun w hw => ?_) fun w hw => hw
    obtain ⟨hw, hrest⟩ := h.owned w hw
    exact ⟨hw.trans_le hn, hrest⟩
  · refine forall_resolved (fun w hw => ?_) fun w hw => hw
    obtain ⟨t, ht, hwt⟩ := h.task w hw
    refine ⟨if DurableWait.cancelable t.state then DurableWait.canceledTask now t else t,
      congrArg (Option.map _) ht, ?_⟩
    rw [hwt]
    split <;> rfl
  · intro e he c hc
    rw [Life.drawn, Life.cancel, hmap]
    rcases List.mem_append.mp he with he | he
    · exact h.resolved e he c hc
    · obtain rfl := List.mem_singleton.mp he
      rw [hevent.isResolution] at hc
      cases hc
  · refine hcount fun w hw => ?_
    simp only [Life.drawn, Life.cancel, List.countP_append, List.countP_singleton,
      hevent.isResolution]
    exact h.events w hw

/-- Every transition keeps the waits and their answers together. -/
theorem step {act : Action} (h : l.Waiting) (hcoherence : l.Coherence)
    (hstep : LifeStep rt act l l') : l'.Waiting := by
  cases hstep with
  | rest _ _ n hn => exact h.of_quiet rfl rfl rfl rfl rfl hn
  | move _ _ w pc n hn => exact h.of_quiet rfl rfl rfl rfl rfl hn
  | claim w config runId locked _ t leaseToken attemptId policyDecisionId now event n
      hpc htask hclaimable hleaseToken hattemptId hevent =>
      have hstate : l.run.state ≠ .awaitingFounderInput := by
        rcases claimable_cases hcoherence htask hclaimable with ⟨hs, -⟩ | ⟨hs, -⟩ <;>
          simp [hs]
      refine h.of_eq ?_ ?_ ?_ rfl rfl (hleaseToken.1.trans hleaseToken.2.le)
        (.inr ⟨event, rfl, .of_isEventOf "task_started" hevent rfl (by decide)⟩) ?_
      · simp only [Life.moved, Life.claim]
        split <;> rfl
      · simp only [Life.moved, Life.claim]
        split <;> rfl
      · intro t' ht'
        rw [htask] at ht'
        obtain rfl := Option.some.inj ht'
        exact ⟨_, rfl, rfl⟩
      · intro w hw hopened
        exact absurd hopened (h.not_opened hstate hw)
  | begin w _ claim context e n hn => exact h.of_quiet rfl rfl rfl rfl rfl hn
  | refuse w _ claim context n hn => exact h.of_quiet rfl rfl rfl rfl rfl hn
  | invoke => exact h.of_quiet rfl rfl rfl rfl rfl le_rfl
  | abandon _ w _ claim resultClass now n hn => exact h.of_quiet rfl rfl rfl rfl rfl hn
  | block w _ claim t now event n hn hpc hheld hevent =>
      exact h.of_held hcoherence hheld rfl rfl rfl rfl rfl rfl rfl
        (.of_isEventOf Worker.reconciliationRequired hevent rfl (by decide)) hn
  | staleComplete w _ claim result now n hn => exact h.of_quiet rfl rfl rfl rfl rfl hn
  | complete w _ claim result t artifactId artifactVersionId now event n hn hpc hheld
      hevent =>
      exact h.of_held hcoherence hheld rfl rfl rfl rfl rfl rfl rfl
        (.of_isEventOf "product_brief_published" hevent rfl (by decide)) hn
  | staleFail w _ claim now n hn => exact h.of_quiet rfl rfl rfl rfl rfl hn
  | fail w _ claim t now event n hn hpc hheld hevent =>
      exact h.of_held hcoherence hheld rfl rfl rfl rfl rfl rfl rfl
        (.of_isEventOf Worker.reconciliationRequired hevent rfl (by decide)) hn
  | openWait input _ t waitId requestId now event n hwaitId htask hcompany hrun htaskId
      hversion hdraft hready hlease hevent =>
      exact h.openWait htask hdraft hwaitId hrun hcompany rfl rfl (congrArg some htaskId)
        rfl (.of_isEventOf "founder_input_requested" hevent rfl (by decide))
  | answer input _ t wait source answerVersionId resumedContextSnapshotId now event n hn
      htask hwait hwaitId hanswerable hunanswered hevent =>
      have hopened := (DurableWait.answerable_iff.mp hanswerable).opened
      refine h.answer hn htask hwait hopened hwaitId fun c => ?_
      obtain ⟨eventId, sequence, occurredAt, rfl⟩ := hevent
      simp [IsResolution, DomainEvent.eventRow, DurableWait.inputResolvedEvent, hwaitId,
        eq_comm]
  | cancel companyId runId actorId correlationId _ now event n hn hactive hevent =>
      exact h.cancel hn (.of_isEventOf "durability_cancel_probe" hevent rfl (by decide))

end Waiting

end Life

end Aico
