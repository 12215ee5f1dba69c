import Mathlib.Data.List.Forall2
import Aico.Foundation.Outcome

/-!
# Programs that fail before they write

`Atomic good p` says that `p` leaves the store as it found it when it throws, and that the
error is a good one. A program is atomic that reads and checks first (`Reading`) and then
does things that never fail (`Total`).
-/

universe u

namespace Except

variable {ε α β : Type u} {f : α → Except ε β}

/-- The error of a sequence of steps is that of one of them. -/
theorem exists_mem_of_mapM_eq_error {as : List α} {e : ε} (h : as.mapM f = .error e) :
    ∃ a ∈ as, f a = .error e := by
  induction as with
  | nil => cases h
  | cons a as ih =>
      rw [List.mapM_cons] at h
      cases ha : f a with
      | error e' =>
          rw [ha] at h
          obtain rfl := Except.error.inj h
          exact ⟨a, List.mem_cons_self, ha⟩
      | ok b =>
          rw [ha] at h
          cases has : as.mapM f with
          | error e' =>
              rw [has] at h
              obtain rfl := Except.error.inj h
              obtain ⟨a', ha', hf⟩ := ih has
              exact ⟨a', List.mem_cons_of_mem a ha', hf⟩
          | ok bs =>
              rw [has] at h
              cases h

/-- The values of a sequence of steps, one for each. -/
theorem forall₂_of_mapM_eq_ok {as : List α} {bs : List β} (h : as.mapM f = .ok bs) :
    List.Forall₂ (fun a b => f a = .ok b) as bs := by
  induction as generalizing bs with
  | nil =>
      obtain rfl := Except.ok.inj h
      exact .nil
  | cons a as ih =>
      rw [List.mapM_cons] at h
      cases ha : f a with
      | error e =>
          rw [ha] at h
          cases h
      | ok b =>
          rw [ha] at h
          cases has : as.mapM f with
          | error e =>
              rw [has] at h
              cases h
          | ok bs' =>
              rw [has] at h
              obtain rfl := Except.ok.inj h
              exact .cons ha (ih has)

theorem exists_mem_of_mapM_eq_ok {as : List α} {bs : List β} (h : as.mapM f = .ok bs) {a : α}
    (ha : a ∈ as) : ∃ b ∈ bs, f a = .ok b := by
  have hall := forall₂_of_mapM_eq_ok h
  clear h
  induction hall with
  | nil => cases ha
  | @cons a' b as bs hab _ ih =>
      obtain rfl | ha := List.mem_cons.mp ha
      · exact ⟨b, List.mem_cons_self, hab⟩
      · obtain ⟨b', hb', hf⟩ := ih ha
        exact ⟨b', List.mem_cons_of_mem b hb', hf⟩

theorem exists_mem_of_mem_mapM {as : List α} {bs : List β} (h : as.mapM f = .ok bs) {b : β}
    (hb : b ∈ bs) : ∃ a ∈ as, f a = .ok b := by
  have hall := forall₂_of_mapM_eq_ok h
  clear h
  induction hall with
  | nil => cases hb
  | @cons a b' as bs hab _ ih =>
      obtain rfl | hb := List.mem_cons.mp hb
      · exact ⟨a, List.mem_cons_self, hab⟩
      · obtain ⟨a', ha', hf⟩ := ih hb
        exact ⟨a', List.mem_cons_of_mem a ha', hf⟩

end Except

namespace Prog

variable {σ ε α β : Type u} {good : ε → Prop}

@[simp] theorem pure_bind (a : α) (f : α → Prog σ ε β) : (pure a >>= f) = f a := rfl

@[simp] theorem bind_pure (p : Prog σ ε α) : (p >>= fun a => pure a) = p := by
  funext s
  rw [bind_apply]
  rcases p s with ⟨r, s'⟩
  cases r <;> rfl

theorem bind_assoc {γ : Type u} (p : Prog σ ε α) (f : α → Prog σ ε β) (g : β → Prog σ ε γ) :
    (p >>= f >>= g) = p >>= fun a => f a >>= g := by
  funext s
  simp only [bind_apply]
  rcases p s with ⟨r, s'⟩
  cases r <;> rfl

theorem bind_eq_error {p : Prog σ ε α} {f : α → Prog σ ε β} {s s' : σ} {e : ε} :
    (p >>= f) s = (.error e, s') ↔
      p s = (.error e, s') ∨ ∃ a s₁, p s = (.ok a, s₁) ∧ f a s₁ = (.error e, s') := by
  rw [bind_apply]
  rcases p s with ⟨e' | a, s₁⟩ <;> simp

/-- The program changes nothing. -/
abbrev Reading (p : Prog σ ε α) : Prop := Respects (· = ·) p

/-- The program returns. -/
def Total (p : Prog σ ε α) : Prop := ∀ s, ∃ a s', p s = (.ok a, s')

/-- An error comes before every change, and is a good one. -/
def Atomic (good : ε → Prop) (p : Prog σ ε α) : Prop :=
  ∀ s e s', p s = (.error e, s') → s' = s ∧ good e

theorem Reading.eq_of_run {p : Prog σ ε α} (hp : Reading p) {s s' : σ} {r : Except ε α}
    (h : p s = (r, s')) : s' = s := by
  have hreads := hp s
  rw [h] at hreads
  exact hreads.symm

theorem Reading.lift (r : Except ε α) : Reading (lift r : Prog σ ε α) := fun _ => rfl

theorem Reading.catching {ε' : Type u} {p : Prog σ ε α} {handler : ε → Prog σ ε' α}
    (hp : Reading p) (hhandler : ∀ e, Reading (handler e)) : Reading (catching p handler) := by
  intro s
  rcases hrun : p s with ⟨e | a, s'⟩
  · rw [catching_of_error hrun]
    exact (hp.eq_of_run hrun).symm.trans (hhandler e s')
  · rw [catching_of_ok hrun]
    exact (hp.eq_of_run hrun).symm

namespace Total

theorem pure (a : α) : Total (Pure.pure a : Prog σ ε α) := fun s => ⟨a, s, rfl⟩

theorem gets (f : σ → α) : Total (gets f : Prog σ ε α) := fun s => ⟨f s, s, rfl⟩

theorem modify (f : σ → σ) : Total (modify f : Prog σ ε PUnit) := fun s => ⟨⟨⟩, f s, rfl⟩

theorem bind {p : Prog σ ε α} {f : α → Prog σ ε β} (hp : Total p) (hf : ∀ a, Total (f a)) :
    Total (p >>= f) := by
  intro s
  obtain ⟨a, s₁, hrun⟩ := hp s
  rw [bind_of_ok hrun]
  exact hf a s₁

theorem catching {ε' : Type u} {p : Prog σ ε α} {handler : ε → Prog σ ε' α} (hp : Total p) :
    Total (catching p handler) := by
  intro s
  obtain ⟨a, s', hrun⟩ := hp s
  exact ⟨a, s', catching_of_ok hrun⟩

end Total

namespace Atomic

theorem pure (a : α) : Atomic good (Pure.pure a : Prog σ ε α) := by
  intro s e s' h
  cases h

theorem throw {e : ε} (he : good e) : Atomic good (throw e : Prog σ ε α) := by
  intro s e' s' h
  obtain ⟨herror, rfl⟩ := Prod.mk.inj h
  obtain rfl := Except.error.inj herror
  exact ⟨rfl, he⟩

theorem gets (f : σ → α) : Atomic good (gets f : Prog σ ε α) := by
  intro s e s' h
  cases h

theorem ensure {c : Prop} [Decidable c] {e : ε} (he : good e) :
    Atomic good (ensure c e : Prog σ ε PUnit) := by
  unfold Prog.ensure
  split
  · exact .pure _
  · exact .throw he

theorem require {o : Option α} {e : ε} (he : good e) :
    Atomic good (require o e : Prog σ ε α) := by
  cases o with
  | none => exact .throw he
  | some a => exact .pure a

theorem of_total {p : Prog σ ε α} (hp : Total p) : Atomic good p := by
  intro s e s' h
  obtain ⟨a, s₁, hrun⟩ := hp s
  rw [hrun] at h
  cases h

/-- Reading first. -/
theorem bind {p : Prog σ ε α} {f : α → Prog σ ε β} (hreads : Reading p) (hp : Atomic good p)
    (hf : ∀ a, Atomic good (f a)) : Atomic good (p >>= f) := by
  intro s e s' h
  rcases hrun : p s with ⟨e' | a, s₁⟩
  · rw [bind_of_error hrun] at h
    obtain ⟨herror, rfl⟩ := Prod.mk.inj h
    obtain rfl := Except.error.inj herror
    exact hp s e' s₁ hrun
  · rw [bind_of_ok hrun] at h
    obtain rfl := hreads.eq_of_run hrun
    exact hf a _ e s' h

/-- Nothing fails after the write. -/
theorem bind_total {p : Prog σ ε α} {f : α → Prog σ ε β} (hp : Atomic good p)
    (hf : ∀ a, Total (f a)) : Atomic good (p >>= f) := by
  intro s e s' h
  rcases hrun : p s with ⟨e' | a, s₁⟩
  · rw [bind_of_error hrun] at h
    obtain ⟨herror, rfl⟩ := Prod.mk.inj h
    obtain rfl := Except.error.inj herror
    exact hp s e' s₁ hrun
  · rw [bind_of_ok hrun] at h
    obtain ⟨b, s₂, hrun'⟩ := hf a s₁
    rw [hrun'] at h
    cases h

/-- A handler that throws on other errors. -/
theorem mapError {ε' : Type u} {good' : ε' → Prop} {p : Prog σ ε α} {f : ε → ε'}
    (hp : Atomic good p) (hf : ∀ e, good e → good' (f e)) :
    Atomic good' (catching p fun e => Prog.throw (f e)) := by
  intro s e s' h
  rcases hrun : p s with ⟨e₀ | a, s₁⟩
  · rw [catching_of_error hrun] at h
    obtain ⟨herror, rfl⟩ := Prod.mk.inj h
    obtain rfl := Except.error.inj herror
    obtain ⟨hs, he⟩ := hp s e₀ s₁ hrun
    exact ⟨hs, hf e₀ he⟩
  · rw [catching_of_ok hrun] at h
    cases h

end Atomic

/-! ## Reading a run forwards -/

theorem gets_bind_apply (f : σ → α) (g : α → Prog σ ε β) (s : σ) :
    (gets f >>= g) s = g (f s) s := rfl

theorem gets_bind_eq_ok {f : σ → α} {g : α → Prog σ ε β} {b : β} {s s' : σ} :
    (gets f >>= g) s = (.ok b, s') ↔ g (f s) s = (.ok b, s') := Iff.rfl

theorem modify_bind_eq_ok {f : σ → σ} {g : PUnit → Prog σ ε β} {b : β} {s s' : σ} :
    (modify f >>= g) s = (.ok b, s') ↔ g ⟨⟩ (f s) = (.ok b, s') := Iff.rfl

theorem catching_throw_eq_ok {ε' : Type u} {p : Prog σ ε α} {f : ε → ε'} {a : α} {s s' : σ} :
    catching p (fun e => throw (f e)) s = (.ok a, s') ↔ p s = (.ok a, s') := by
  rcases hrun : p s with ⟨e | b, s₁⟩
  · rw [catching_of_error hrun]
    simp [throw]
  · rw [catching_of_ok hrun]
    constructor <;> (intro h; cases h; rfl)

end Prog
