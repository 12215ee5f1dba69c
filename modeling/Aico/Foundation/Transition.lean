import Mathlib.Data.List.Induction
import Mathlib.Logic.Relation

/-!
# Runs of a step function

A system is a total step function `step : S → A → S`; an action that is not
enabled leaves the state where it is. A run is the fold of the step function
over a list of actions, so a reachable state is `run step s acts` for some
list, and a history is the list itself.

Every safety statement is an instance of one of the two rules below: an
invariant that each step preserves (`run_invariant`), and an invariant that a
step preserves whenever a side condition holds before it
(`run_invariant_of_eachStep`). `run_relates` is the same rule for a relation
between an earlier and a later state.
-/

namespace Transition

variable {S A : Type*}

/-- The state reached from `s` by the actions of the list, in order. -/
def run (step : S → A → S) (s : S) (acts : List A) : S :=
  acts.foldl step s

@[simp] theorem run_nil (step : S → A → S) (s : S) : run step s [] = s := rfl

@[simp] theorem run_cons (step : S → A → S) (s : S) (a : A) (acts : List A) :
    run step s (a :: acts) = run step (step s a) acts := rfl

theorem run_append (step : S → A → S) (s : S) (acts acts' : List A) :
    run step s (acts ++ acts') = run step (run step s acts) acts' :=
  List.foldl_append

/-- Every step of the run meets the condition `C`, read at the state before the
step. -/
def EachStep (step : S → A → S) (C : S → A → Prop) : S → List A → Prop
  | _, [] => True
  | s, a :: acts => C s a ∧ EachStep step C (step s a) acts

@[simp] theorem eachStep_nil (step : S → A → S) (C : S → A → Prop) (s : S) :
    EachStep step C s [] := trivial

@[simp] theorem eachStep_cons (step : S → A → S) (C : S → A → Prop)
    (s : S) (a : A) (acts : List A) :
    EachStep step C s (a :: acts) ↔ C s a ∧ EachStep step C (step s a) acts :=
  Iff.rfl

instance EachStep.decidable (step : S → A → S) (C : S → A → Prop)
    [∀ s a, Decidable (C s a)] : ∀ (s : S) (acts : List A),
    Decidable (EachStep step C s acts)
  | _, [] => isTrue trivial
  | s, a :: acts =>
      haveI := EachStep.decidable step C (step s a) acts
      inferInstanceAs (Decidable (C s a ∧ EachStep step C (step s a) acts))

theorem eachStep_append (step : S → A → S) (C : S → A → Prop) :
    ∀ (s : S) (acts acts' : List A),
      EachStep step C s (acts ++ acts') ↔
        EachStep step C s acts ∧ EachStep step C (run step s acts) acts'
  | s, [], acts' => by simp
  | s, a :: acts, acts' => by
      have ih := eachStep_append step C (step s a) acts acts'
      simp only [List.cons_append, eachStep_cons, run_cons]
      rw [ih, and_assoc]

theorem eachStep_iff {step : S → A → S} {C : S → A → Prop} {s : S} {acts : List A} :
    EachStep step C s acts ↔
      ∀ acts₁ a acts₂, acts = acts₁ ++ a :: acts₂ → C (run step s acts₁) a := by
  constructor
  · rintro h acts₁ a acts₂ rfl
    exact ((eachStep_append step C s acts₁ (a :: acts₂)).mp h).2.1
  · intro h
    induction acts generalizing s with
    | nil => trivial
    | cons a acts ih =>
        refine ⟨h [] a acts rfl, ih fun acts₁ a' acts₂ hacts => ?_⟩
        exact h (a :: acts₁) a' acts₂ (by rw [hacts, List.cons_append])

/-- A condition that the actions meet in every state. -/
theorem eachStep_of_forall {step : S → A → S} {C : S → A → Prop} {acts : List A}
    (h : ∀ a ∈ acts, ∀ s, C s a) (s : S) : EachStep step C s acts := by
  induction acts generalizing s with
  | nil => trivial
  | cons a acts ih =>
      obtain ⟨ha, hacts⟩ := List.forall_mem_cons.mp h
      exact ⟨ha s, ih hacts (step s a)⟩

/-- Two conditions that agree in the states of an invariant are met by the same runs. -/
theorem eachStep_congr {step : S → A → S} {C D : S → A → Prop} {P : S → Prop}
    (hstep : ∀ s a, P s → P (step s a)) (h : ∀ s a, P s → (C s a ↔ D s a)) {s : S} (hs : P s)
    (acts : List A) : EachStep step C s acts ↔ EachStep step D s acts := by
  induction acts generalizing s with
  | nil => exact Iff.rfl
  | cons a acts ih => exact and_congr (h s a hs) (ih (hstep s a hs))

/-- A predicate that holds at the start and is preserved by each step holds at
the end of every run. -/
theorem run_invariant {step : S → A → S} {P : S → Prop}
    (hstep : ∀ s a, P s → P (step s a)) {s : S} (hs : P s) (acts : List A) :
    P (run step s acts) := by
  induction acts generalizing s with
  | nil => exact hs
  | cons a acts ih => exact ih (hstep s a hs)

/-- The conditional rule: the step need only preserve the predicate where the
side condition holds. -/
theorem run_invariant_of_eachStep {step : S → A → S} {C : S → A → Prop}
    {P : S → Prop} (hstep : ∀ s a, P s → C s a → P (step s a))
    {s : S} (hs : P s) {acts : List A} (hC : EachStep step C s acts) :
    P (run step s acts) := by
  induction acts generalizing s with
  | nil => exact hs
  | cons a acts ih => exact ih (hstep s a hs hC.1) hC.2

/-- Where a step that breaks the side condition is seen in the state it leads to,
good states along the run mean that each step meets the condition. -/
theorem eachStep_of_seen {step : S → A → S} {C : S → A → Prop} {P Q : S → Prop}
    (hstep : ∀ s a, P s → C s a → P (step s a))
    (hseen : ∀ s a, P s → Q (step s a) → C s a) {s : S} (hs : P s) {acts : List A}
    (hQ : ∀ acts₁ acts₂, acts = acts₁ ++ acts₂ → Q (run step s acts₁)) :
    EachStep step C s acts := by
  induction acts generalizing s with
  | nil => trivial
  | cons a acts ih =>
      have ha : C s a := hseen s a hs (hQ [a] acts rfl)
      refine ⟨ha, ih (hstep s a hs ha) fun acts₁ acts₂ hacts => ?_⟩
      exact hQ (a :: acts₁) acts₂ (by rw [hacts, List.cons_append])

/-- A property of histories with the state they reach, kept by every next step. -/
theorem run_history {step : S → A → S} {s : S} {P : List A → S → Prop} (hnil : P [] s)
    (hstep : ∀ acts a, P acts (run step s acts) → P (acts ++ [a]) (step (run step s acts) a))
    (acts : List A) : P acts (run step s acts) := by
  induction acts using List.reverseRecOn with
  | nil => exact hnil
  | append_singleton acts a ih =>
      rw [run_append]
      exact hstep acts a ih

/-- Some step of the run met the condition `C`, read at the state before the step. -/
def SomeStep (step : S → A → S) (C : S → A → Prop) (s : S) (acts : List A) : Prop :=
  ∃ acts₁ a acts₂, acts = acts₁ ++ a :: acts₂ ∧ C (run step s acts₁) a

theorem SomeStep.append {step : S → A → S} {C : S → A → Prop} {s : S} {acts : List A}
    (h : SomeStep step C s acts) (acts' : List A) : SomeStep step C s (acts ++ acts') := by
  obtain ⟨acts₁, a, acts₂, rfl, hC⟩ := h
  exact ⟨acts₁, a, acts₂ ++ acts', by simp, hC⟩

theorem SomeStep.imp {step : S → A → S} {C C' : S → A → Prop} {s : S} {acts : List A}
    (h : SomeStep step C s acts) (hC : ∀ s a, C s a → C' s a) : SomeStep step C' s acts := by
  obtain ⟨acts₁, a, acts₂, hacts, ha⟩ := h
  exact ⟨acts₁, a, acts₂, hacts, hC _ a ha⟩

theorem SomeStep.last {step : S → A → S} {C : S → A → Prop} {s : S} {acts : List A} {a : A}
    (h : C (run step s acts) a) : SomeStep step C s (acts ++ [a]) :=
  ⟨acts, a, [], rfl, h⟩

/-- No two steps of the run meet the condition `C`, each read at the state before it. -/
def AtMostOnce (step : S → A → S) (C : S → A → Prop) (s : S) (acts : List A) : Prop :=
  ∀ acts₁ a acts₂ b acts₃, acts = acts₁ ++ a :: acts₂ ++ b :: acts₃ →
    C (run step s acts₁) a → ¬ C (run step s (acts₁ ++ a :: acts₂)) b

/-- A step that meets the condition leaves a mark which every later step keeps, and no step
meets it where the mark is. -/
theorem atMostOnce_of_spent {step : S → A → S} {C : S → A → Prop} {P : S → Prop}
    (Spent : S → Prop)
    (hP : ∀ s a, P s → P (step s a)) (hspends : ∀ s a, P s → C s a → Spent (step s a))
    (hkeeps : ∀ s a, P s → Spent s → Spent (step s a)) (hspent : ∀ s a, P s → Spent s → ¬ C s a)
    {s : S} (hs : P s) (acts : List A) : AtMostOnce step C s acts := by
  rintro acts₁ a acts₂ b acts₃ - hC
  have h₁ : P (run step s acts₁) := run_invariant hP hs acts₁
  have h₂ : P (run step (step (run step s acts₁) a) acts₂) ∧
      Spent (run step (step (run step s acts₁) a) acts₂) :=
    run_invariant (P := fun s => P s ∧ Spent s) (fun t c h => ⟨hP t c h.1, hkeeps t c h.1 h.2⟩)
      ⟨hP _ a h₁, hspends _ a h₁ hC⟩ acts₂
  rw [run_append, run_cons]
  exact hspent _ b h₂.1 h₂.2

/-- A reflexive and transitive relation that each step from an invariant state
respects relates every state to the states reached from it. -/
theorem run_relates {step : S → A → S} {P : S → Prop} {R : S → S → Prop}
    (hrefl : ∀ s, R s s) (htrans : ∀ s t u, R s t → R t u → R s u)
    (hP : ∀ s a, P s → P (step s a)) (hR : ∀ s a, P s → R s (step s a))
    {s : S} (hs : P s) (acts : List A) : R s (run step s acts) := by
  induction acts generalizing s with
  | nil => exact hrefl s
  | cons a acts ih =>
      exact htrans s (step s a) _ (hR s a hs) (ih (hP s a hs))

end Transition
