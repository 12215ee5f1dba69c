import Aico.Workflow.Invocation
import Aico.Workflow.Publication

/-!
# The evidence of an unknown outcome

A task is blocked by `failTask`, which marks the effect as unknown, or by
`blockUnknownModelOutcome`, which does not. In the second case the worker that
has begun the invocation is the one to mark it, with its late completion or its
failure; if that worker is gone nobody does.
-/

namespace Aico.Life

variable {rt : Runtime} {l l' : Life} {t : TaskRow} {claim : ClaimedTask}
  {now : Timestamp} {event : EventRow}

/-- Some worker is between its begun invocation and its completion or failure. -/
def Live (l : Life) : Prop := ∃ w, (l.workers w).live = true

/-- The outcome of the invocation is recorded, as known or unknown. -/
def Settled (l : Life) : Prop := ∃ e, l.effect = some e ∧ e.status ≠ .running

/-- A blocked task has its outcome recorded as unknown, or a worker that will
record it. -/
structure Evidenced (l : Life) : Prop where
  unknown : ∀ e, l.effect = some e → e.status = .unknown → e.completedAt.isSome
  succeeded : ∀ e, l.effect = some e → e.status = .succeeded → l.Succeeded
  blocked : ∀ t, l.task = some t → t.state = .blocked → l.Live ∨ l.Settled

namespace Evidenced

/-- A change that leaves the task, the effect and the workers alone. -/
theorem of_eq (h : l.Evidenced) (heffect : l'.effect = l.effect) (htask : l'.task = l.task)
    (hworkers : l'.workers = l.workers) : l'.Evidenced where
  unknown := by
    rw [heffect]
    exact h.unknown
  succeeded := by
    rw [heffect, Life.Succeeded, htask]
    exact h.succeeded
  blocked := by
    rw [htask, Settled, heffect, Live, hworkers]
    exact h.blocked

theorem of_moved (h : l.Evidenced) {w : ℕ} {pc : Pc} {n : ℕ}
    (hlive : (l.workers w).live = true → pc.live = true ∨
      ∀ t, l.task = some t → t.state = .blocked → l.Settled) :
    (l.moved w pc n).Evidenced where
  unknown := h.unknown
  succeeded := h.succeeded
  blocked t ht hblocked := by
    rcases h.blocked t ht hblocked with ⟨w', hw'⟩ | hsettled
    · by_cases hw : w' = w
      · subst hw
        rcases hlive hw' with hpc | hsettled
        · refine .inl ⟨w', ?_⟩
          change (Function.update l.workers w' pc w').live = true
          rw [Function.update_self, hpc]
        · exact .inr (hsettled t ht hblocked)
      · refine .inl ⟨w', ?_⟩
        change (Function.update l.workers w pc w').live = true
        rw [Function.update_of_ne hw, hw']
    · exact .inr hsettled

theorem of_moved_idle (h : l.Evidenced) {w : ℕ} (hidle : (l.workers w).live = false) (pc : Pc)
    (n : ℕ) : (l.moved w pc n).Evidenced :=
  h.of_moved fun hlive => absurd (hidle.symm.trans hlive) Bool.false_ne_true

theorem of_unblocked (h : l.Evidenced) (heffect : l'.effect = l.effect)
    (hsucceeded : l.Succeeded → l'.Succeeded)
    (htask : ∀ t, l'.task = some t → t.state ≠ .blocked) : l'.Evidenced where
  unknown := by
    rw [heffect]
    exact h.unknown
  succeeded := by
    rw [heffect]
    exact fun e he hstatus => hsucceeded (h.succeeded e he hstatus)
  blocked t ht hblocked := absurd hblocked (htask t ht)

theorem settled_markUnknown (he : l.effect.isSome) (now : Timestamp) :
    (l.markUnknown now).Settled := by
  obtain ⟨e, he⟩ := Option.isSome_iff_exists.mp he
  refine ⟨unknownEffect now e, by simp [Life.markUnknown, he], ?_⟩
  unfold unknownEffect
  split <;> simp_all

theorem markUnknown (h : l.Evidenced) (he : l.effect.isSome) (now : Timestamp) :
    (l.markUnknown now).Evidenced where
  unknown e he' hstatus := by
    obtain ⟨e₀, he₀, rfl⟩ := Option.map_eq_some_iff.mp he'
    unfold unknownEffect at hstatus ⊢
    split at hstatus
    next hrunning => simp [hrunning]
    next hrunning =>
      rw [if_neg hrunning]
      exact h.unknown e₀ he₀ hstatus
  succeeded e he' hstatus := by
    obtain ⟨e₀, he₀, rfl⟩ := Option.map_eq_some_iff.mp he'
    refine h.succeeded e₀ he₀ ?_
    unfold unknownEffect at hstatus
    split at hstatus
    next => cases hstatus
    next => exact hstatus
  blocked _ _ _ := .inr (settled_markUnknown he now)

theorem marked (h : l.Evidenced) (he : l.effect.isSome) (now : Timestamp) (w : ℕ) (pc : Pc)
    (n : ℕ) : ((l.markUnknown now).moved w pc n).Evidenced :=
  (h.markUnknown he now).of_moved fun _ => .inr fun _ _ _ => settled_markUnknown he now

theorem abandoned (h : l.Evidenced) (claim : ClaimedTask) (resultClass : String)
    (now : Timestamp) : (l.abandon claim resultClass now).Evidenced :=
  h.of_eq rfl rfl rfl

/-- Blocking the task leaves evidence behind where there is a live worker or the
outcome is settled. -/
theorem block (h : l.Evidenced) (hheld : l.Held claim t) (hevidence : l.Live ∨ l.Settled)
    (bump : ℕ) : (l.block t bump now event).Evidenced where
  unknown := h.unknown
  succeeded e he hstatus := by
    obtain ⟨u, hu, hs⟩ := h.succeeded e he hstatus
    rw [hheld.1] at hu
    obtain rfl := Option.some.inj hu
    rw [hheld.running] at hs
    cases hs
  blocked _ _ _ := hevidence

/-- The evidence of a blocked task is not lost: the task is blocked at an unsettled
outcome only under a live worker, and that worker does not go away. -/
structure Safe (l : Life) (act : Action) : Prop where
  block : ∀ w c t, act = .blockUnknownModelOutcome w → l.workers w = .outcomeUnknown c →
    l.Held c t → l.Live ∨ l.Settled
  drop : ∀ w t, act.Drops w (l.workers w) → (l.workers w).live = true → l.task = some t →
    t.state = .blocked → l.Settled

theorem not_succeeded (ht : l.task = some t) (hstate : t.state ≠ .succeeded) :
    ¬ l.Succeeded := by
  rintro ⟨u, hu, hs⟩
  rw [ht] at hu
  obtain rfl := Option.some.inj hu
  exact hstate hs

/-- A new lease. -/
theorem taken (h : l.Evidenced) (hcoherence : l.Coherence) (ht : l.task = some t)
    {runId : Option Uuid} (hclaimable : Worker.claimable now runId t l.run = true)
    {config : WorkerConfig} {policyDecisionId : Uuid} (w : ℕ) (n : ℕ) :
    ((l.claim config t claim policyDecisionId now event).moved w (.claimed claim)
      n).Evidenced := by
  have hnot : ¬ l.Succeeded := by
    refine not_succeeded ht fun hs => ?_
    rcases claimable_cases hcoherence ht hclaimable with ⟨-, hstate | hstate⟩ | ⟨-, hstate⟩ <;>
      simp [hs] at hstate
  have hnew : ∀ e, (l.effect.getD (Worker.effectRow claim)) = e → e.status ≠ .running →
      l.effect = some e := by
    rintro e rfl hstatus
    cases he : l.effect with
    | none =>
        rw [he] at hstatus
        exact absurd rfl hstatus
    | some e => rfl
  refine { unknown := fun e he hstatus => ?_, succeeded := fun e he hstatus => ?_,
           blocked := fun u hu hblocked => ?_ }
  · exact h.unknown e (hnew e (Option.some.inj he) (by simp [hstatus])) hstatus
  · exact absurd (h.succeeded e (hnew e (Option.some.inj he) (by simp [hstatus])) hstatus) hnot
  · obtain rfl := Option.some.inj hu
    cases hblocked

/-- The invocation begins, and its worker is live. -/
theorem begun {e : ModelInvocationEffectRow} (hrunning : e.status = .running)
    (w : ℕ) (context : ContextRow) (n : ℕ) :
    ({ l with effect := some { e with invocationCount := 1 } }.moved w
      (.begun claim context) n).Evidenced where
  unknown e' he' hstatus := by
    obtain rfl := Option.some.inj he'
    rw [hrunning] at hstatus
    cases hstatus
  succeeded e' he' hstatus := by
    obtain rfl := Option.some.inj he'
    rw [hrunning] at hstatus
    cases hstatus
  blocked _ _ _ := by
    refine .inl ⟨w, ?_⟩
    change (Function.update l.workers w (.begun claim context) w).live = true
    rw [Function.update_self]
    rfl

theorem published (h : l.Evidenced) {result : ModelResult}
    {artifactId artifactVersionId : Uuid} :
    (l.publish rt claim t result artifactId artifactVersionId now event).Evidenced where
  unknown e he hstatus := by
    obtain ⟨e₀, he₀, rfl⟩ := Option.map_eq_some_iff.mp he
    by_cases hrunning : e₀.status = .running
    · rw [if_pos hrunning] at hstatus
      cases hstatus
    · rw [if_neg hrunning] at hstatus ⊢
      exact h.unknown e₀ he₀ hstatus
  succeeded _ _ _ := ⟨_, rfl, rfl⟩
  blocked u hu hblocked := by
    obtain rfl := Option.some.inj hu
    cases hblocked

theorem failed (h : l.Evidenced) (hheld : l.Held claim t) (he : l.effect.isSome)
    (now : Timestamp) (w : ℕ) (pc : Pc) (n : ℕ) :
    ((((l.failAttempt claim now).markUnknown now).block t 0 now event).moved w pc n).Evidenced := by
  have hfail : (l.failAttempt claim now).Evidenced := h.of_eq rfl rfl rfl
  have hsettled : ((l.failAttempt claim now).markUnknown now).Settled :=
    settled_markUnknown he now
  have hheld' : ((l.failAttempt claim now).markUnknown now).Held claim t := hheld
  exact ((hfail.markUnknown he now).block hheld' (.inr hsettled) 0).of_moved
    fun _ => .inr fun _ _ _ => hsettled

theorem of_unfinished (h : l.Evidenced) (ht : l.task = some t) (hstate : t.state ≠ .succeeded)
    (heffect : l'.effect = l.effect) {t' : TaskRow} (ht' : l'.task = some t')
    (hstate' : t'.state ≠ .blocked) : l'.Evidenced := by
  refine h.of_unblocked heffect (fun hs => absurd hs (not_succeeded ht hstate)) fun u hu => ?_
  obtain rfl := Option.some.inj (ht'.symm.trans hu)
  exact hstate'

/-- A safe transition keeps the evidence. -/
theorem step {act : Action} (h : l.Evidenced) (howned : l.Owned rt)
    (hcoherence : l.Coherence) (hsafe : Safe l act) (hstep : LifeStep rt act l l') :
    l'.Evidenced := by
  have heffect : ∀ {w c}, (l.workers w).claim = some c → l.effect.isSome := by
    intro w c hc
    simpa [owners] using (howned.claim w c hc).1.effect
  cases hstep with
  | rest => exact h.of_eq rfl rfl rfl
  | move _ _ w pc n hn hclaim hinvoked hpending hunknown hlive =>
      refine h.of_moved fun hw => (hlive hw).imp_right ?_
      rintro (hdrop | ⟨c, t, hheld⟩) u hu hblocked
      · exact hsafe.drop w u hdrop hw hu hblocked
      · rw [hheld.1] at hu
        obtain rfl := Option.some.inj hu
        rw [hheld.running] at hblocked
        cases hblocked
  | claim w config runId locked _ t leaseToken attemptId policyDecisionId now event n
      hpc htask hclaimable =>
      exact h.taken hcoherence htask hclaimable w n
  | begin w _ claim context e n hn hpc heffect hbegin =>
      exact begun (canBegin_iff.mp hbegin).1 w context n
  | refuse w _ claim context n hn hpc => exact h.of_moved_idle (by rw [hpc]; rfl) _ n
  | invoke w _ claim context hpc =>
      have hcalls : ({ l with calls := claim :: l.calls } : Life).Evidenced :=
        h.of_eq rfl rfl rfl
      exact hcalls.of_moved fun _ => .inl rfl
  | abandon _ w _ claim resultClass now n hn hpc hlive =>
      exact (h.abandoned claim resultClass now).of_moved_idle hlive _ n
  | block w _ claim t now event n hn hpc hheld =>
      have habandon := h.abandoned claim "UNKNOWN_EXTERNAL_OUTCOME" now
      have hheld' : (l.abandon claim "UNKNOWN_EXTERNAL_OUTCOME" now).Held claim t := hheld
      have hevidence := hsafe.block w claim t rfl hpc hheld
      exact (habandon.block hheld' hevidence 1).of_moved_idle (congrArg Pc.live hpc) _ n
  | staleComplete w _ claim result now n hn hpc hstale =>
      exact (h.abandoned claim "STALE_COMPLETION" now).marked (heffect (congrArg Pc.claim hpc))
        now w _ n
  | complete w _ claim result t artifactId artifactVersionId now event n hn hpc hheld =>
      refine h.published.of_moved fun _ => .inr fun u hu hblocked => ?_
      obtain rfl := Option.some.inj hu
      cases hblocked
  | staleFail w _ claim now n hn hpc hstale =>
      obtain ⟨begun, hpc⟩ := hpc
      exact (h.abandoned claim "STALE_FAILURE" now).marked (heffect (congrArg Pc.claim hpc))
        now w _ n
  | fail w _ claim t now event n hn hpc hheld =>
      obtain ⟨begun, hpc⟩ := hpc
      exact h.failed hheld (heffect (congrArg Pc.claim hpc)) now w _ n
  | openWait input _ t waitId requestId now event n hwaitId htask hcompany hrun htaskId
      hversion hdraft hready =>
      refine h.of_unfinished htask ?_ rfl rfl (by simp [DurableWait.awaitingTask])
      rcases hready with hr | hr <;> simp [hr]
  | answer input _ t wait source answerVersionId resumedContextSnapshotId now event n hn
      htask hwait hwaitId hanswerable =>
      have hstate : t.state = .awaitingInput := (DurableWait.answerable_iff.mp hanswerable).awaiting
      exact h.of_unfinished htask (by simp [hstate]) rfl rfl (by simp [DurableWait.readyTask])
  | cancel companyId runId actorId correlationId _ now event n hn hactive hevent =>
      have hkeeps : l.Keeps (l.cancel now event) := .cancel hevent
      have hblocked : ∀ t, (l.cancel now event).task = some t → t.state ≠ .blocked :=
        fun _ => state_ne_blocked_of_cancel
      exact h.of_unblocked rfl hkeeps.succeeded.mpr hblocked

end Evidenced

end Aico.Life
