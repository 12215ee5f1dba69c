import Aico.Workflow.SystemInvariant

/-!
# One invocation for each task

Whatever the workers do, the model provider is called at most once for a task,
and not more often than the effect of the task records.
-/

namespace Aico

namespace Sys

def callsFor (s : Sys) (taskId : Uuid) : List ClaimedTask :=
  s.calls.filter fun c => c.id = taskId

def effectsOf (s : Sys) (taskId : Uuid) : List ModelInvocationEffectRow :=
  s.world.db.modelInvocationEffects.filter fun e => e.taskId = taskId

/-- The provider is called at most once for each task, and no more often than its
one effect row says. -/
structure InvokedOnce (s : Sys) : Prop where
  calls_le_one : ∀ taskId, (s.callsFor taskId).length ≤ 1
  effects_le_one : ∀ taskId, (s.effectsOf taskId).length ≤ 1
  calls_le_count : ∀ taskId, s.callsFor taskId ≠ [] →
    ∃ e, s.effectsOf taskId = [e] ∧ (s.callsFor taskId).length ≤ e.invocationCount

variable {rt : Runtime} {s : Sys}

theorem Inv.invokedOnce (h : s.Inv rt) : s.InvokedOnce where
  calls_le_one taskId := by
    cases hcalls : s.callsFor taskId with
    | nil => exact Nat.zero_le 1
    | cons c calls =>
        have hc : c ∈ s.callsFor taskId := by simp [hcalls]
        obtain ⟨hmem, htask⟩ := List.mem_filter.mp hc
        obtain ⟨l, t, hl, -, ht, hid, hinv⟩ := h.task_of_call hmem
        obtain rfl : t.id = taskId := hid.symm.trans (of_decide_eq_true htask)
        rw [← hcalls, callsFor, h.calls_of_task hl ht]
        exact hinv.invocation.calls_le.trans hinv.invocation.count_le
  effects_le_one taskId := by
    cases heffects : s.effectsOf taskId with
    | nil => exact Nat.zero_le 1
    | cons e effects =>
        have he : e ∈ s.effectsOf taskId := by simp [heffects]
        obtain ⟨hmem, htask⟩ := List.mem_filter.mp he
        obtain ⟨l, t, hl, -, ht, hid, hinv⟩ := h.task_of_effect hmem
        obtain rfl : t.id = taskId := hid.symm.trans (of_decide_eq_true htask)
        rw [← heffects, effectsOf, h.effects_of_task hl ht]
        cases l.effect <;> simp
  calls_le_count taskId hne := by
    obtain ⟨c, hc⟩ := List.exists_mem_of_ne_nil _ hne
    obtain ⟨hmem, htask⟩ := List.mem_filter.mp hc
    obtain ⟨l, t, hl, -, ht, hid, hinv⟩ := h.task_of_call hmem
    obtain rfl : t.id = taskId := hid.symm.trans (of_decide_eq_true htask)
    have hcalls := h.calls_of_task hl ht
    have hle := hinv.invocation.calls_le
    have hpos : 0 < l.calls.length := by
      rw [← hcalls]
      exact List.length_pos_of_mem hc
    cases he : l.effect with
    | none =>
        rw [Life.invocationCount, he] at hle
        exact absurd hpos (Nat.not_lt.mpr hle)
    | some e =>
        refine ⟨e, ?_, ?_⟩
        · rw [effectsOf, h.effects_of_task hl ht, he]
          rfl
        · rw [Life.invocationCount, he] at hle
          rw [callsFor, hcalls]
          exact hle

/-- In every reachable state the provider has been called at most once for each
task. -/
theorem invokedOnce_after (services : Services) (init : InitialWorld)
    (acts : List Action) : (init.sys.after services acts).InvokedOnce :=
  (inv_after services init acts).invokedOnce

end Sys

end Aico
