import Aico.Foundation.Program

/-!
# Programs that keep an invariant

`Maintains I bad Q p` says three things of every run of `p` from a store that
satisfies `I`: the store it leaves satisfies `I`, also when it throws; a value it
returns satisfies `Q`; and an error it throws is not one of the `bad` ones. It holds
of a program when it holds of its statements, each under what the statements before
it have established.
-/

universe u

namespace Prog

variable {σ ε α β : Type u} {I : σ → Prop} {bad : ε → Prop} {Q Q' : α → Prop}

structure Maintains (I : σ → Prop) (bad : ε → Prop) (Q : α → Prop) (p : Prog σ ε α) :
    Prop where
  store : ∀ s, I s → I (p s).2
  value : ∀ s a, I s → (p s).1 = .ok a → Q a
  error : ∀ s e, I s → (p s).1 = .error e → ¬ bad e

namespace Maintains

theorem weaken {p : Prog σ ε α} (hp : Maintains I bad Q p) (h : ∀ a, Q a → Q' a) :
    Maintains I bad Q' p where
  store := hp.store
  value s a hs ha := h a (hp.value s a hs ha)
  error := hp.error

theorem pure {a : α} (ha : Q a) : Maintains I bad Q (Pure.pure a : Prog σ ε α) where
  store _ hs := hs
  value _ _ _ heq := by
    obtain rfl := Except.ok.inj heq
    exact ha
  error _ _ _ heq := by cases heq

theorem throw {e : ε} (he : ¬ bad e) : Maintains I bad Q (throw e : Prog σ ε α) where
  store _ hs := hs
  value _ _ _ heq := by cases heq
  error _ _ _ heq := by
    obtain rfl := Except.error.inj heq
    exact he

theorem gets {f : σ → α} (hf : ∀ s, I s → Q (f s)) : Maintains I bad Q (gets f : Prog σ ε α) where
  store _ hs := hs
  value s _ hs heq := by
    obtain rfl := Except.ok.inj heq
    exact hf s hs
  error _ _ _ heq := by cases heq

theorem modify {f : σ → σ} {Q : PUnit → Prop} (hQ : Q ⟨⟩) (hf : ∀ s, I s → I (f s)) :
    Maintains I bad Q (modify f : Prog σ ε PUnit) where
  store s hs := hf s hs
  value _ _ _ _ := hQ
  error _ _ _ heq := by cases heq

/-- What a passed check has established. -/
theorem ensure {c : Prop} [Decidable c] {e : ε} (he : ¬ c → ¬ bad e) :
    Maintains I bad (fun _ => c) (ensure c e : Prog σ ε PUnit) := by
  unfold Prog.ensure
  split
  · next hc => exact .pure hc
  · next hc => exact .throw (he hc)

theorem require {o : Option α} {e : ε} (he : ¬ bad e) :
    Maintains I bad (fun a => o = some a) (require o e : Prog σ ε α) := by
  cases o with
  | none => exact .throw he
  | some a => exact .pure rfl

theorem check {c : Prop} [Decidable c] {e : ε} (he : ¬ bad e) :
    Maintains I bad (fun _ => True) (Prog.ensure c e : Prog σ ε PUnit) :=
  .weaken (.ensure fun _ => he) fun _ _ => trivial

/-- A check that passes. -/
theorem ensure_of {c : Prop} [Decidable c] {e : ε} (hc : c) :
    Maintains I bad (fun _ => True) (Prog.ensure c e : Prog σ ε PUnit) :=
  .weaken (.ensure fun hnot => absurd hc hnot) fun _ _ => trivial

/-- A value with an error that is not bad. -/
theorem requireSome {o : Option α} {e : ε} (he : ¬ bad e) :
    Maintains I bad (fun _ => True) (Prog.require o e : Prog σ ε α) :=
  .weaken (.require he) fun _ _ => trivial

theorem bind {p : Prog σ ε α} {f : α → Prog σ ε β} {R : β → Prop}
    (hp : Maintains I bad Q p) (hf : ∀ a, Q a → Maintains I bad R (f a)) :
    Maintains I bad R (p >>= f) := by
  have hcases (s : σ) (hs : I s) : (∃ a s₁, I s₁ ∧ Q a ∧ (p >>= f) s = f a s₁) ∨
      ∃ e s₁, I s₁ ∧ ¬ bad e ∧ (p >>= f) s = (.error e, s₁) := by
    rcases hrun : p s with ⟨e | a, s₁⟩
    · have herror := hp.error s e hs (by rw [hrun])
      have hstore := hp.store s hs
      rw [hrun] at hstore
      exact .inr ⟨e, s₁, hstore, herror, bind_of_error hrun⟩
    · have hvalue := hp.value s a hs (by rw [hrun])
      have hstore := hp.store s hs
      rw [hrun] at hstore
      exact .inl ⟨a, s₁, hstore, hvalue, bind_of_ok hrun⟩
  constructor
  · intro s hs
    rcases hcases s hs with ⟨a, s₁, hs₁, ha, heq⟩ | ⟨e, s₁, hs₁, -, heq⟩
    · rw [heq]
      exact (hf a ha).store s₁ hs₁
    · rw [heq]
      exact hs₁
  · intro s b hs hb
    rcases hcases s hs with ⟨a, s₁, hs₁, ha, heq⟩ | ⟨e, s₁, -, -, heq⟩
    · exact (hf a ha).value s₁ b hs₁ (heq ▸ hb)
    · rw [heq] at hb
      cases hb
  · intro s e hs he
    rcases hcases s hs with ⟨a, s₁, hs₁, ha, heq⟩ | ⟨e', s₁, -, he', heq⟩
    · exact (hf a ha).error s₁ e hs₁ (heq ▸ he)
    · rw [heq] at he
      obtain rfl := Except.error.inj he
      exact he'

/-- A statement whose value is not used further. -/
theorem seq {p : Prog σ ε α} {f : α → Prog σ ε β} {R : β → Prop}
    (hp : Maintains I bad (fun _ => True) p) (hf : ∀ a, Maintains I bad R (f a)) :
    Maintains I bad R (p >>= f) :=
  hp.bind fun a _ => hf a

theorem ite {c : Prop} [Decidable c] {p q : Prog σ ε α} (hp : c → Maintains I bad Q p)
    (hq : ¬ c → Maintains I bad Q q) : Maintains I bad Q (if c then p else q) := by
  split
  · next hc => exact hp hc
  · next hc => exact hq hc

theorem transaction {restore : σ → σ → σ} {p : Prog σ ε α} (hp : Maintains I bad Q p)
    (hrestore : ∀ s s', I s → I s' → I (restore s s')) :
    Maintains I bad Q (transaction restore p) where
  store s hs := by
    have hstore := hp.store s hs
    unfold Prog.transaction
    rcases hrun : p s with ⟨e | a, s₁⟩
    · rw [hrun] at hstore
      exact hrestore s s₁ hs hstore
    · rw [hrun] at hstore
      exact hstore
  value s a hs ha := by
    refine hp.value s a hs ?_
    unfold Prog.transaction at ha
    rcases hrun : p s with ⟨e | a', s₁⟩
    · rw [hrun] at ha
      cases ha
    · rw [hrun] at ha
      exact ha
  error s e hs he := by
    refine hp.error s e hs ?_
    unfold Prog.transaction at he
    rcases hrun : p s with ⟨e' | a, s₁⟩
    · rw [hrun] at he
      exact he
    · rw [hrun] at he
      cases he

theorem mapError {p : Prog σ ε α} {f : ε → ε} (hp : Maintains I bad Q p)
    (hf : ∀ e, ¬ bad e → ¬ bad (f e)) :
    Maintains I bad Q (catchError p fun e => Prog.throw (f e)) where
  store s hs := by
    have hstore := hp.store s hs
    rw [catchError_apply]
    rcases hrun : p s with ⟨e | a, s₁⟩ <;> rw [hrun] at hstore <;> exact hstore
  value s a hs ha := by
    refine hp.value s a hs ?_
    rw [catchError_apply] at ha
    rcases hrun : p s with ⟨e | a', s₁⟩
    · rw [hrun] at ha
      cases ha
    · rw [hrun] at ha
      exact ha
  error s e hs he := by
    rw [catchError_apply] at he
    rcases hrun : p s with ⟨e' | a, s₁⟩
    · rw [hrun] at he
      obtain rfl := Except.error.inj he
      exact hf e' (hp.error s e' hs (by rw [hrun]))
    · rw [hrun] at he
      cases he

end Maintains

end Prog
