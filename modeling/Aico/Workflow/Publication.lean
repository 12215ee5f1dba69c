import Aico.Workflow.Owned
import Aico.Workflow.Coherence

/-!
# What a run publishes

The task succeeds in the transaction that publishes the artifact, and in no
other. A late worker only touches attempts that are still running, so the
accepted attempt stays the one that produced the version.
-/

namespace Aico

def IsPublication (e : EventRow) : Bool := e.type = "product_brief_published"

/-- The event names the artifact version. -/
def EventRow.Names (e : EventRow) (artifactVersionId : Uuid) : Prop :=
  e.payload.field "artifact_version_id" = some (.uuid artifactVersionId)

def IsAccepted (a : TaskAttemptRow) : Bool := a.status = .succeeded

theorem Worker.names_publishedEvent (claim : ClaimedTask)
    (artifactId artifactVersionId : Uuid) :
    (publishedEvent claim artifactId artifactVersionId).payload.field
      "artifact_version_id" = some (.uuid artifactVersionId) := by
  have htask : js "task_id" ≠ js "artifact_version_id" := by decide
  have hattempt : js "attempt_id" ≠ js "artifact_version_id" := by decide
  have hnumber : js "attempt_number" ≠ js "artifact_version_id" := by decide
  have hartifact : js "artifact_id" ≠ js "artifact_version_id" := by decide
  simp [publishedEvent, Json.field, Json.object, htask, hattempt, hnumber, hartifact]

namespace Life

/-- The run has published the version `v` of its artifact `a`. -/
structure Publishes (l : Life) (a : ArtifactRow) (v : ArtifactVersionRow) : Prop where
  artifacts : l.artifacts = [a]
  versions : l.versions = [v]
  type : a.type = "product_brief"
  current : a.currentVersionId = some v.id
  version : v.artifactId = a.id
  event : ∃ e, l.events.filter IsPublication = [e] ∧ e.Names v.id
  attempt : ∃ attempt, l.attempts.filter IsAccepted = [attempt] ∧
    attempt.outputRefs = [v.id]

/-- The run has published nothing. -/
structure Unpublished (l : Life) : Prop where
  artifacts : l.artifacts = []
  versions : l.versions = []
  events : l.events.filter IsPublication = []
  attempts : l.attempts.filter IsAccepted = []

def Succeeded (l : Life) : Prop := ∃ t, l.task = some t ∧ t.state = .succeeded

/-- The invariant of a run, fifth part. -/
structure Publication (l : Life) : Prop where
  published : l.Succeeded → ∃ a v, l.Publishes a v
  unpublished : ¬ l.Succeeded → l.Unpublished

variable {rt : Runtime} {l l' : Life} {t : TaskRow} {claim : ClaimedTask}
  {now : Timestamp} {event : EventRow}

/-- What a transition must leave alone to keep what has been published. -/
structure Keeps (l l' : Life) : Prop where
  artifacts : l'.artifacts = l.artifacts
  versions : l'.versions = l.versions
  events : l'.events.filter IsPublication = l.events.filter IsPublication
  attempts : l'.attempts.filter IsAccepted = l.attempts.filter IsAccepted
  succeeded : l'.Succeeded ↔ l.Succeeded

theorem Publication.of_keeps (h : l.Publication) (hkeeps : l.Keeps l') :
    l'.Publication where
  published hs := by
    obtain ⟨a, v, hp⟩ := h.published (hkeeps.succeeded.mp hs)
    refine ⟨a, v, hkeeps.artifacts.trans hp.artifacts, hkeeps.versions.trans hp.versions,
      hp.type, hp.current, hp.version, ?_, ?_⟩
    · rw [hkeeps.events]
      exact hp.event
    · rw [hkeeps.attempts]
      exact hp.attempt
  unpublished hs := by
    have hu := h.unpublished (mt hkeeps.succeeded.mpr hs)
    exact ⟨hkeeps.artifacts.trans hu.artifacts, hkeeps.versions.trans hu.versions,
      hkeeps.events.trans hu.events, hkeeps.attempts.trans hu.attempts⟩

namespace Keeps

theorem trans {l'' : Life} (h : l.Keeps l') (h' : l'.Keeps l'') : l.Keeps l'' where
  artifacts := h'.artifacts.trans h.artifacts
  versions := h'.versions.trans h.versions
  events := h'.events.trans h.events
  attempts := h'.attempts.trans h.attempts
  succeeded := h'.succeeded.trans h.succeeded

theorem moved (w : ℕ) (pc : Pc) (n : ℕ) : l.Keeps (l.moved w pc n) :=
  ⟨rfl, rfl, rfl, rfl, Iff.rfl⟩

theorem drawn (n : ℕ) : l.Keeps (l.drawn n) := ⟨rfl, rfl, rfl, rfl, Iff.rfl⟩

theorem filter_attempts {attempts : List TaskAttemptRow} {p : TaskAttemptRow → Bool}
    {f : TaskAttemptRow → TaskAttemptRow} (hp : ∀ a, p a = true → a.status = .running)
    (hf : ∀ a, IsAccepted (f a) = false) :
    (Table.updateWhere p f attempts).filter IsAccepted = attempts.filter IsAccepted := by
  refine Table.filter_updateWhere_of_not (fun a ha => ?_) hf _
  simp [IsAccepted, hp a ha]

theorem abandon (resultClass : String) : l.Keeps (l.abandon claim resultClass now) where
  artifacts := rfl
  versions := rfl
  events := rfl
  attempts := filter_attempts (fun _ ha => (of_decide_eq_true ha).2.2) fun _ => rfl
  succeeded := Iff.rfl

theorem failAttempt : l.Keeps (l.failAttempt claim now) where
  artifacts := rfl
  versions := rfl
  events := rfl
  attempts := filter_attempts (fun _ ha => (of_decide_eq_true ha).2.2) fun _ => rfl
  succeeded := Iff.rfl

theorem markUnknown : l.Keeps (l.markUnknown now) := ⟨rfl, rfl, rfl, rfl, Iff.rfl⟩

theorem filter_append {events : List EventRow} {options : AppendEventOptions}
    (type : String) (hevent : IsEventOf options event) (htype : options.type = type)
    (hne : type ≠ "product_brief_published") :
    (events ++ [event]).filter IsPublication = events.filter IsPublication := by
  obtain ⟨eventId, sequence, occurredAt, rfl⟩ := hevent
  have hnot : IsPublication (DomainEvent.eventRow options eventId sequence occurredAt) =
      false := by
    rw [IsPublication, decide_eq_false_iff_not]
    exact htype.trans_ne hne
  rw [List.filter_append, List.filter_singleton, hnot]
  exact List.append_nil _

theorem succeeded_iff {t' : TaskRow} (ht : l.task = some t) (hstate : t.state ≠ .succeeded)
    (ht' : l'.task = some t') (hstate' : t'.state ≠ .succeeded) :
    l'.Succeeded ↔ l.Succeeded := by
  constructor
  · rintro ⟨u, hu, hs⟩
    rw [ht'] at hu
    exact absurd (Option.some.inj hu ▸ hs) hstate'
  · rintro ⟨u, hu, hs⟩
    rw [ht] at hu
    exact absurd (Option.some.inj hu ▸ hs) hstate

theorem block (hheld : l.Held claim t) (bump : ℕ) (now : Timestamp)
    (hevent : IsEventOf (Worker.reconciliationEvent claim) event) :
    l.Keeps (l.block t bump now event) where
  artifacts := rfl
  versions := rfl
  events := filter_append Worker.reconciliationRequired hevent rfl (by decide)
  attempts := rfl
  succeeded :=
    succeeded_iff hheld.1 (by simp [hheld.running]) rfl (by simp [Worker.blockedTask])

theorem leased (ht : l.task = some t) (hstate : t.state ≠ .succeeded)
    {config : WorkerConfig} {policyDecisionId : Uuid}
    (hevent : IsEventOf (Worker.taskStartedEvent config claim) event) :
    l.Keeps (l.claim config t claim policyDecisionId now event) where
  artifacts := rfl
  versions := rfl
  events := filter_append "task_started" hevent rfl (by decide)
  attempts := by
    simp only [Life.claim, List.filter_append]
    rw [filter_attempts (fun _ ha => (of_decide_eq_true ha).2.2) fun _ => rfl]
    exact List.append_nil _
  succeeded := succeeded_iff ht hstate rfl (by simp [Worker.leased])

theorem cancel {companyId runId : UuidText} {actorId : JsString} {correlationId : UuidText}
    {priorState : RunState}
    (hevent : IsEventOf (DurableWait.cancelEvent companyId runId actorId correlationId
      priorState) event) : l.Keeps (l.cancel now event) where
  artifacts := rfl
  versions := rfl
  events := filter_append "durability_cancel_probe" hevent rfl (by decide)
  attempts := rfl
  succeeded := by
    constructor
    · rintro ⟨u, hu, hs⟩
      obtain ⟨t, ht, rfl⟩ := Option.map_eq_some_iff.mp hu
      refine ⟨t, ht, ?_⟩
      split at hs
      · cases hs
      · exact hs
    · rintro ⟨t, ht, hs⟩
      refine ⟨t, ?_, hs⟩
      simp [Life.cancel, ht, hs, DurableWait.cancelable]

end Keeps

theorem Publication.publish (h : l.Publication) (howned : l.Owned rt)
    (hheld : l.Held claim t) {w : ℕ} (hclaim : (l.workers w).claim = some claim)
    {result : ModelResult} {artifactId artifactVersionId : Uuid}
    (hevent : IsEventOf (Worker.publishedEvent claim artifactId artifactVersionId) event) :
    (l.publish rt claim t result artifactId artifactVersionId now event).Publication where
  published := by
    rintro -
    have hnot : ¬ l.Succeeded := by
      rintro ⟨u, hu, hs⟩
      rw [hheld.1] at hu
      obtain rfl := Option.some.inj hu
      rw [hheld.running] at hs
      cases hs
    have hu := h.unpublished hnot
    obtain ⟨hholds, -⟩ := howned.claim w claim hclaim
    obtain ⟨o, ho, hid⟩ := hholds.attempt
    obtain ⟨attempt, hmem, rfl⟩ := List.mem_map.mp ho
    refine ⟨publishedArtifact claim artifactId artifactVersionId now,
      Worker.artifactVersionRow rt claim result artifactId artifactVersionId, ?_, ?_, rfl,
      rfl, rfl, ?_, ?_⟩
    · simp only [Life.publish, hu.artifacts, List.nil_append]
    · simp only [Life.publish, hu.versions, List.nil_append]
    · refine ⟨event, ?_, ?_⟩
      · obtain ⟨eventId, sequence, occurredAt, rfl⟩ := hevent
        simp only [Life.publish, List.filter_append, hu.events, List.nil_append]
        rfl
      · obtain ⟨eventId, sequence, occurredAt, rfl⟩ := hevent
        exact Worker.names_publishedEvent claim artifactId artifactVersionId
    · refine ⟨Worker.succeededAttempt artifactVersionId result now attempt, ?_, rfl⟩
      have hselect : l.attempts.filter (fun a => a.companyId = claim.companyId ∧
          a.id = claim.attemptId) = [attempt] := by
        have hnodup : (l.attempts.map TaskAttemptRow.id).Nodup := by
          have := howned.attempt_nodup
          simp only [Life.owners, List.map_map] at this
          exact this
        refine Table.filter_eq_singleton hnodup hmem fun a ha => ?_
        have hcompany := (howned.attempt a.owner (List.mem_map_of_mem ha)).2.1
        rw [decide_eq_true_iff, hholds.companyId, ← hid]
        exact and_iff_right hcompany
      simp only [Life.publish]
      rw [Table.filter_updateWhere_of_empty hu.attempts fun a => rfl, hselect,
        List.map_singleton]
  unpublished hs := absurd ⟨_, rfl, rfl⟩ hs

/-- Every transition keeps the task and what it publishes together. -/
theorem Publication.step {act : Action} (h : l.Publication) (howned : l.Owned rt)
    (hcoherence : l.Coherence) (hstep : LifeStep rt act l l') : l'.Publication := by
  cases hstep with
  | rest => exact h.of_keeps (.drawn _)
  | move => exact h.of_keeps (.moved _ _ _)
  | claim w config runId locked _ t leaseToken attemptId policyDecisionId now event n
      hpc htask hclaimable hleaseToken hattemptId hevent =>
      have hstate : t.state ≠ .succeeded := by
        rcases claimable_cases hcoherence htask hclaimable with ⟨-, hs | hs⟩ | ⟨-, hs⟩ <;>
          simp [hs]
      exact h.of_keeps ((Keeps.leased htask hstate hevent).trans (.moved _ _ _))
  | begin => exact h.of_keeps ⟨rfl, rfl, rfl, rfl, Iff.rfl⟩
  | refuse => exact h.of_keeps (.moved _ _ _)
  | invoke => exact h.of_keeps ⟨rfl, rfl, rfl, rfl, Iff.rfl⟩
  | abandon => exact h.of_keeps ((Keeps.abandon _).trans (.moved _ _ _))
  | block w _ claim t now event n hn hpc hheld hevent =>
      have hblock := Keeps.block (l := l.abandon claim "UNKNOWN_EXTERNAL_OUTCOME" now)
        hheld 1 now hevent
      exact h.of_keeps (((Keeps.abandon _).trans hblock).trans (.moved _ _ _))
  | staleComplete w _ claim result now n hn =>
      exact h.of_keeps (((Keeps.abandon _).trans .markUnknown).trans (.moved _ _ _))
  | complete w _ claim result t artifactId artifactVersionId now event n hn hpc hheld
      hevent =>
      have hclaim : (l.workers w).claim = some claim := by
        rw [hpc]
        rfl
      exact (h.publish howned hheld hclaim hevent).of_keeps (.moved _ _ _)
  | staleFail w _ claim now n hn =>
      exact h.of_keeps (((Keeps.abandon _).trans .markUnknown).trans (.moved _ _ _))
  | fail w _ claim t now event n hn hpc hheld hevent =>
      have hblock := Keeps.block (l := (l.failAttempt claim now).markUnknown now)
        hheld 0 now hevent
      exact h.of_keeps (((Keeps.failAttempt.trans .markUnknown).trans hblock).trans
        (.moved _ _ _))
  | openWait input _ t waitId requestId now event n hwaitId htask hcompany hrun htaskId
      hversion hdraft hready hlease hevent =>
      refine h.of_keeps ⟨rfl, rfl, ?_, rfl, ?_⟩
      · exact Keeps.filter_append "founder_input_requested" hevent rfl (by decide)
      · refine Keeps.succeeded_iff htask ?_ rfl (by simp [DurableWait.awaitingTask])
        rcases hready with hs | hs <;> simp [hs]
  | answer input _ t wait source answerVersionId resumedContextSnapshotId now event n hn
      htask hwait hwaitId hanswerable hunanswered hevent =>
      have hstate := (DurableWait.answerable_iff.mp hanswerable).awaiting
      refine h.of_keeps ⟨rfl, rfl, ?_, rfl, ?_⟩
      · exact Keeps.filter_append "founder_input_resolved" hevent rfl (by decide)
      · exact Keeps.succeeded_iff htask (by simp [hstate]) rfl
          (by simp [DurableWait.readyTask])
  | cancel companyId runId actorId correlationId _ now event n hn hactive hevent =>
      exact h.of_keeps ((Keeps.cancel hevent).trans (.drawn _))

end Life

end Aico
