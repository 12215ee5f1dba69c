import Aico.Foundation.Coroutine

/-!
# Interrupted programs that keep a relation

`Upholds I R C P p Q` is a triple for a coroutine among others. The invariant `I` holds
whenever another one runs, and a store reached later is related by `R` to an earlier one:
the program may rely on both while it is stopped, and it guarantees both itself. `C` is
what is known of a store in which a point is answered. From a store where `P` holds, a
value the program returns satisfies `Q` together with the store it returns in.

A machine all of whose stopped calls are safe (`Machine.Ready`) stays so by a call, an
answer or an outside change, and every one of them moves the store by `R`.
-/

/-- The rest of a program is safe, since the store `s₀` in which it last went on. -/
def Course.Safe {σ ι η ε α : Type} (I : σ → Prop) (R : σ → σ → Prop) (C : η → ι → σ → Prop)
    (Q : α → σ → Prop) : σ → Course σ ι η ε α → Prop
  | s₀, .done (.ok a) s => I s ∧ R s₀ s ∧ Q a s
  | s₀, .done (.error _) s => I s ∧ R s₀ s
  | s₀, .paused h s resume =>
      I s ∧ R s₀ s ∧ ∀ i s', I s' → R s s' → C h i s' → (resume i s').Safe I R C Q s'

theorem Course.Safe.weaken {σ ι η ε α : Type} {I : σ → Prop} {R : σ → σ → Prop}
    {C : η → ι → σ → Prop} {Q Q' : α → σ → Prop} {c : Course σ ι η ε α} {s₀ : σ} (hc : c.Safe I R C Q s₀)
    (h : ∀ a s, I s → Q a s → Q' a s) : c.Safe I R C Q' s₀ := by
  induction c generalizing s₀ with
  | done r s =>
      cases r with
      | error e => exact hc
      | ok a => exact ⟨hc.1, hc.2.1, h a s hc.1 hc.2.2⟩
  | paused point s resume ih =>
      exact ⟨hc.1, hc.2.1, fun i s' hI hR hC => ih i s' (hc.2.2 i s' hI hR hC)⟩

theorem Course.Safe.of_later {σ ι η ε α : Type} {I : σ → Prop} {R : σ → σ → Prop}
    [IsPreorder σ R] {C : η → ι → σ → Prop} {Q : α → σ → Prop} {c : Course σ ι η ε α}
    {s₀ s₁ : σ} (h : R s₀ s₁) (hc : c.Safe I R C Q s₁) : c.Safe I R C Q s₀ := by
  cases c with
  | done r s =>
      cases r with
      | error e => exact ⟨hc.1, Trans.trans h hc.2⟩
      | ok a => exact ⟨hc.1, Trans.trans h hc.2.1, hc.2.2⟩
  | paused point s resume => exact ⟨hc.1, Trans.trans h hc.2.1, hc.2.2⟩

/-- What every later store keeps, the program keeps. -/
theorem Course.Safe.frame {σ ι η ε α : Type} {I : σ → Prop} {R : σ → σ → Prop}
    {C : η → ι → σ → Prop} {Q : α → σ → Prop} {P : σ → Prop} (hP : ∀ s s', P s → R s s' → P s')
    {c : Course σ ι η ε α} {s₀ : σ} (hs₀ : P s₀) (hc : c.Safe I R C Q s₀) :
    c.Safe I R C (fun a s => P s ∧ Q a s) s₀ := by
  induction c generalizing s₀ with
  | done r s =>
      cases r with
      | error e => exact hc
      | ok a => exact ⟨hc.1, hc.2.1, hP s₀ s hs₀ hc.2.1, hc.2.2⟩
  | paused point s resume ih =>
      refine ⟨hc.1, hc.2.1, fun i s' hI hR hC => ?_⟩
      have hs : P s := hP s₀ s hs₀ hc.2.1
      exact ih i s' (hP s s' hs hR) (hc.2.2 i s' hI hR hC)

namespace Coroutine

variable {σ ι η ε ε' α β : Type} {I : σ → Prop} {R : σ → σ → Prop} {C : η → ι → σ → Prop}

/-- From a store where `P` holds the program is safe and returns values that satisfy `Q`. -/
def Upholds (I : σ → Prop) (R : σ → σ → Prop) (C : η → ι → σ → Prop) (P : σ → Prop)
    (p : Coroutine σ ι η ε α) (Q : α → σ → Prop) : Prop :=
  ∀ s₀ s, I s → R s₀ s → P s → (p s).Safe I R C Q s₀

namespace Upholds

variable {P P' : σ → Prop} {Q Q' : α → σ → Prop}

theorem weaken {p : Coroutine σ ι η ε α} (hp : Upholds I R C P p Q) (hP : ∀ s, P' s → P s)
    (hQ : ∀ a s, I s → Q a s → Q' a s) : Upholds I R C P' p Q' :=
  fun s₀ s hI hR h => (hp s₀ s hI hR (hP s h)).weaken hQ

theorem pure {a : α} (h : ∀ s, P s → Q a s) :
    Upholds I R C P (Pure.pure a : Coroutine σ ι η ε α) Q :=
  fun _ s hI hR hP => ⟨hI, hR, h s hP⟩

theorem throw {e : ε} : Upholds I R C P (throw e : Coroutine σ ι η ε α) Q :=
  fun _ _ hI hR _ => ⟨hI, hR⟩

theorem gets {f : σ → α} (h : ∀ s, I s → P s → Q (f s) s) :
    Upholds I R C P (gets f : Coroutine σ ι η ε α) Q :=
  fun _ s hI hR hP => ⟨hI, hR, h s hI hP⟩

/-- What a passed check has established. -/
theorem ensure {c : Prop} [Decidable c] {e : ε} :
    Upholds I R C P (ensure c e : Coroutine σ ι η ε PUnit) fun _ s => P s ∧ c := by
  unfold Coroutine.ensure
  split
  · next hc => exact .pure fun s hP => ⟨hP, hc⟩
  · exact .throw

theorem require {o : Option α} {e : ε} :
    Upholds I R C P (require o e : Coroutine σ ι η ε α) fun a s => P s ∧ o = some a := by
  cases o with
  | none => exact .throw
  | some a => exact .pure fun s hP => ⟨hP, rfl⟩

theorem lift {r : Except ε α} :
    Upholds I R C P (lift r : Coroutine σ ι η ε α) fun a s => P s ∧ r = .ok a := by
  cases r with
  | error e => exact .throw
  | ok a => exact .pure fun s hP => ⟨hP, rfl⟩

/-- A stop: the store that is found is a later one, and the program goes on where `C`
holds. -/
theorem pause [IsPreorder σ R] {h : η} :
    Upholds I R C P (pause h : Coroutine σ ι η ε ι) fun i s' =>
      C h i s' ∧ ∃ s, P s ∧ R s s' :=
  fun _ s hI hR hP => ⟨hI, hR, fun _ s' hI' hR' hC => ⟨hI', refl s', hC, s, hP, hR'⟩⟩

/-- A fact that every later store keeps holds after the program, too. -/
theorem frame [IsPreorder σ R] {T : σ → Prop} (hT : ∀ s s', T s → R s s' → T s')
    {p : Coroutine σ ι η ε α} (hp : Upholds I R C P p Q) :
    Upholds I R C (fun s => T s ∧ P s) p fun a s => T s ∧ Q a s :=
  fun _ s hI hR h => ((hp s s hI (refl s) h.2).frame hT h.1).of_later hR

/-- A change the program makes. -/
theorem modify [IsPreorder σ R] {f : σ → σ} {Q : PUnit → σ → Prop}
    (h : ∀ s, I s → P s → I (f s) ∧ R s (f s) ∧ Q ⟨⟩ (f s)) :
    Upholds I R C P (modify f : Coroutine σ ι η ε PUnit) Q := by
  intro s₀ s hI hR hP
  obtain ⟨hI', hR', hQ⟩ := h s hI hP
  exact ⟨hI', Trans.trans hR hR', hQ⟩

theorem bind {p : Coroutine σ ι η ε α} {f : α → Coroutine σ ι η ε β} {T : β → σ → Prop}
    (hp : Upholds I R C P p Q) (hf : ∀ a, Upholds I R C (Q a) (f a) T) :
    Upholds I R C P (p >>= f) T := by
  have hcourse : ∀ (c : Course σ ι η ε α) (s₀ : σ), c.Safe I R C Q s₀ →
      (c.bind f).Safe I R C T s₀ := by
    intro c
    induction c with
    | done r s =>
        intro s₀ hc
        cases r with
        | error e => exact hc
        | ok a => exact hf a s₀ s hc.1 hc.2.1 hc.2.2
    | paused point s resume ih =>
        intro s₀ hc
        exact ⟨hc.1, hc.2.1, fun i s' hI hR hC => ih i s' s' (hc.2.2 i s' hI hR hC)⟩
  exact fun s₀ s hI hR hP => hcourse (p s) s₀ (hp s₀ s hI hR hP)

/-- A value read off the store. -/
theorem bind_gets {f : σ → α} {k : α → Coroutine σ ι η ε β} {T : β → σ → Prop}
    (h : ∀ a, Upholds I R C (fun s => P s ∧ a = f s) (k a) T) :
    Upholds I R C P (Coroutine.gets f >>= k) T :=
  .bind (.gets fun _ _ hP => ⟨hP, rfl⟩) h

/-- A check whose condition is known afterwards. -/
theorem bind_ensure {c : Prop} [Decidable c] {e : ε} {k : PUnit → Coroutine σ ι η ε β}
    {T : β → σ → Prop} (h : ∀ u, c → Upholds I R C P (k u) T) :
    Upholds I R C P (Coroutine.ensure c e >>= k) T := by
  unfold Coroutine.ensure
  split
  · next hc => exact h ⟨⟩ hc
  · exact fun _ _ hI hR _ => ⟨hI, hR⟩

/-- A value that is known afterwards. -/
theorem bind_require {o : Option α} {e : ε} {k : α → Coroutine σ ι η ε β}
    {T : β → σ → Prop} (h : ∀ a, o = some a → Upholds I R C P (k a) T) :
    Upholds I R C P (Coroutine.require o e >>= k) T := by
  cases o with
  | none => exact fun _ _ hI hR _ => ⟨hI, hR⟩
  | some a => exact h a rfl

/-- Nothing is known where the handler starts. -/
theorem catching {p : Coroutine σ ι η ε α} {handler : ε → Coroutine σ ι η ε' α}
    (hp : Upholds I R C P p Q)
    (hhandler : ∀ e, Upholds I R C (fun _ => True) (handler e) Q) :
    Upholds I R C P (catching p handler) Q := by
  have hcourse : ∀ (c : Course σ ι η ε α) (s₀ : σ), c.Safe I R C Q s₀ →
      (c.catching handler).Safe I R C Q s₀ := by
    intro c
    induction c with
    | done r s =>
        intro s₀ hc
        cases r with
        | error e => exact hhandler e s₀ s hc.1 hc.2 trivial
        | ok a => exact hc
    | paused point s resume ih =>
        intro s₀ hc
        exact ⟨hc.1, hc.2.1, fun i s' hI hR hC => ih i s' s' (hc.2.2 i s' hI hR hC)⟩
  exact fun s₀ s hI hR hP => hcourse (p s) s₀ (hp s₀ s hI hR hP)

theorem ite {c : Prop} [Decidable c] {p q : Coroutine σ ι η ε α} (hp : c → Upholds I R C P p Q)
    (hq : ¬ c → Upholds I R C P q Q) : Upholds I R C P (if c then p else q) Q := by
  split
  · next hc => exact hp hc
  · next hc => exact hq hc

end Upholds

/-- The program is safe from every store. -/
def Steady (I : σ → Prop) (R : σ → σ → Prop) (C : η → ι → σ → Prop)
    (p : Coroutine σ ι η ε α) : Prop :=
  Upholds I R C (fun _ => True) p fun _ _ => True

namespace Steady

/-- A program that is safe from every store keeps what every later store keeps. -/
theorem upholds [IsPreorder σ R] {p : Coroutine σ ι η ε α} (hp : Steady I R C p) {P : σ → Prop}
    (hP : ∀ s s', P s → R s s' → P s') : Upholds I R C P p fun _ s => P s :=
  (hp.frame hP).weaken (fun _ h => ⟨h, trivial⟩) fun _ _ _ h => h.1

theorem pure {a : α} : Steady I R C (Pure.pure a : Coroutine σ ι η ε α) :=
  Upholds.pure fun _ _ => trivial

theorem throw {e : ε} : Steady I R C (throw e : Coroutine σ ι η ε α) := Upholds.throw

theorem gets {f : σ → α} : Steady I R C (gets f : Coroutine σ ι η ε α) :=
  Upholds.gets fun _ _ _ => trivial

theorem ensure {c : Prop} [Decidable c] {e : ε} :
    Steady I R C (ensure c e : Coroutine σ ι η ε PUnit) :=
  Upholds.ensure.weaken (fun _ h => h) fun _ _ _ _ => trivial

theorem require {o : Option α} {e : ε} : Steady I R C (require o e : Coroutine σ ι η ε α) :=
  Upholds.require.weaken (fun _ h => h) fun _ _ _ _ => trivial

theorem lift {r : Except ε α} : Steady I R C (lift r : Coroutine σ ι η ε α) :=
  Upholds.lift.weaken (fun _ h => h) fun _ _ _ _ => trivial

theorem pause [IsPreorder σ R] {h : η} : Steady I R C (pause h : Coroutine σ ι η ε ι) :=
  Upholds.pause.weaken (fun _ h => h) fun _ _ _ _ => trivial

theorem modify [IsPreorder σ R] {f : σ → σ} (h : ∀ s, I s → I (f s) ∧ R s (f s)) :
    Steady I R C (modify f : Coroutine σ ι η ε PUnit) :=
  Upholds.modify fun s hI _ => ⟨(h s hI).1, (h s hI).2, trivial⟩

theorem bind {p : Coroutine σ ι η ε α} {f : α → Coroutine σ ι η ε β} (hp : Steady I R C p)
    (hf : ∀ a, Steady I R C (f a)) : Steady I R C (p >>= f) :=
  Upholds.bind hp hf

theorem catching {p : Coroutine σ ι η ε α} {handler : ε → Coroutine σ ι η ε' α}
    (hp : Steady I R C p) (hhandler : ∀ e, Steady I R C (handler e)) :
    Steady I R C (catching p handler) :=
  Upholds.catching hp hhandler

theorem ite {c : Prop} [Decidable c] {p q : Coroutine σ ι η ε α} (hp : Steady I R C p)
    (hq : Steady I R C q) : Steady I R C (if c then p else q) :=
  Upholds.ite (fun _ => hp) fun _ => hq

end Steady

end Coroutine

namespace Machine

variable {σ ι η ε α : Type} {I : σ → Prop} {R : σ → σ → Prop} {C : η → ι → σ → Prop}

/-- Every stopped call is safe from every store that may come, and will return a value
with `Q`. -/
def Returns (I : σ → Prop) (R : σ → σ → Prop) (C : η → ι → σ → Prop) (Q : α → Prop)
    (m : Machine σ ι η ε α) : Prop :=
  I m.store ∧ ∀ call ∈ m.stack, ∀ i s, I s → R m.store s → C call.1 i s →
    (call.2 i s).Safe I R C (fun a _ => Q a) s

def Ready (I : σ → Prop) (R : σ → σ → Prop) (C : η → ι → σ → Prop)
    (m : Machine σ ι η ε α) : Prop :=
  I m.store ∧ ∀ call ∈ m.stack, ∀ i s, I s → R m.store s → C call.1 i s →
    (call.2 i s).Safe I R C (fun _ _ => True) s

theorem returns_idle {Q : α → Prop} {s : σ} (h : I s) :
    Returns I R C Q (idle s : Machine σ ι η ε α) :=
  ⟨h, nofun⟩

theorem ready_idle {s : σ} (h : I s) : Ready I R C (idle s : Machine σ ι η ε α) :=
  returns_idle h

section

variable [IsPreorder σ R] {m : Machine σ ι η ε α} {Q : α → Prop}

theorem Returns.settle {s₀ : σ} {stack : List (η × (ι → σ → Course σ ι η ε α))}
    (hstack : ∀ call ∈ stack, ∀ i s, I s → R s₀ s → C call.1 i s →
      (call.2 i s).Safe I R C (fun a _ => Q a) s)
    {c : Course σ ι η ε α} (hc : c.Safe I R C (fun a _ => Q a) s₀) :
    Returns I R C Q (settle stack c) ∧ R s₀ (settle stack c).store := by
  cases c with
  | done r s =>
      have hs : I s ∧ R s₀ s := by
        cases r with
        | error e => exact hc
        | ok a => exact ⟨hc.1, hc.2.1⟩
      refine ⟨⟨hs.1, fun call hcall i s' hI hR => ?_⟩, hs.2⟩
      exact hstack call hcall i s' hI (Trans.trans hs.2 hR)
  | paused point s resume =>
      obtain ⟨hI, hR, hresume⟩ := hc
      refine ⟨⟨hI, ?_⟩, hR⟩
      intro call hcall i s' hI' hR' hC
      rcases List.mem_cons.mp hcall with rfl | hcall
      · exact hresume i s' hI' hR' hC
      · exact hstack call hcall i s' hI' (Trans.trans hR hR') hC

theorem Returns.update (hm : m.Returns I R C Q) {f : σ → σ} (hI : I (f m.store))
    (hR : R m.store (f m.store)) :
    (m.update f).Returns I R C Q ∧ R m.store (m.update f).store :=
  ⟨⟨hI, fun call hcall i s hI' hR' => hm.2 call hcall i s hI' (Trans.trans hR hR')⟩, hR⟩

theorem Ready.call (hm : m.Ready I R C) {p : Coroutine σ ι η ε α}
    (hp : p.Upholds I R C (fun _ => True) fun _ _ => True) :
    (m.call p).Ready I R C ∧ R m.store (m.call p).store :=
  Returns.settle hm.2 (hp m.store m.store hm.1 (refl m.store) trivial)

/-- The innermost stopped call is answered in a store where its point allows it. -/
theorem Ready.answer (hm : m.Ready I R C) {i : ι}
    (hC : ∀ point ∈ m.point, C point i m.store) :
    (m.answer i).Ready I R C ∧ R m.store (m.answer i).store := by
  obtain ⟨s, stack⟩ := m
  cases stack with
  | nil => exact ⟨hm, refl s⟩
  | cons call rest =>
      have hsafe := hm.2 call List.mem_cons_self i s hm.1 (refl s) (hC call.1 rfl)
      exact Returns.settle (fun call' hcall' => hm.2 call' (List.mem_cons_of_mem call hcall')) hsafe

theorem Ready.update (hm : m.Ready I R C) {f : σ → σ} (hI : I (f m.store))
    (hR : R m.store (f m.store)) :
    (m.update f).Ready I R C ∧ R m.store (m.update f).store :=
  Returns.update hm hI hR

end

end Machine

namespace Journal

variable {σ ι η ε α : Type} {I : σ → Prop} {R : σ → σ → Prop} {C : η → ι → σ → Prop}
  {Q : α → Prop}

/-- What was returned has `Q`, and what the stopped calls will return. -/
def Keeps (I : σ → Prop) (R : σ → σ → Prop) (C : η → ι → σ → Prop) (Q : α → Prop)
    (j : Journal σ ι η ε α) : Prop :=
  j.machine.Returns I R C Q ∧ ∀ a ∈ j.returned, Q a

theorem keeps_idle {s : σ} (h : I s) : (idle s : Journal σ ι η ε α).Keeps I R C Q :=
  ⟨Machine.returns_idle h, nofun⟩

variable [IsPreorder σ R] {j : Journal σ ι η ε α}

theorem Keeps.settle {s₀ : σ} {stack : List (η × (ι → σ → Course σ ι η ε α))}
    (hstack : ∀ call ∈ stack, ∀ i s, I s → R s₀ s → C call.1 i s →
      (call.2 i s).Safe I R C (fun a _ => Q a) s)
    {returned : List α} (hreturned : ∀ a ∈ returned, Q a)
    {c : Course σ ι η ε α} (hc : c.Safe I R C (fun a _ => Q a) s₀) :
    (Journal.settle returned stack c).Keeps I R C Q := by
  refine ⟨(Machine.Returns.settle hstack hc).1, fun a ha => ?_⟩
  unfold Journal.settle at ha
  dsimp only at ha
  split at ha
  · rcases List.mem_append.mp ha with ha | ha
    · exact hreturned a ha
    · obtain rfl := List.mem_singleton.mp ha
      exact hc.2.2
  · exact hreturned a ha

/-- A call that returns only values with `Q` from where it starts. -/
theorem Keeps.call (hj : j.Keeps I R C Q) {p : Coroutine σ ι η ε α}
    (hp : p.Upholds I R C (· = j.machine.store) fun a _ => Q a) : (j.call p).Keeps I R C Q :=
  Keeps.settle hj.1.2 hj.2 (hp j.machine.store j.machine.store hj.1.1 (refl _) rfl)

theorem Keeps.answer (hj : j.Keeps I R C Q) {i : ι}
    (hC : ∀ point ∈ j.machine.point, C point i j.machine.store) :
    (j.answer i).Keeps I R C Q := by
  obtain ⟨⟨s, stack⟩, returned⟩ := j
  cases stack with
  | nil => exact hj
  | cons call rest =>
      have hsafe := hj.1.2 call List.mem_cons_self i s hj.1.1 (refl s) (hC call.1 rfl)
      exact Keeps.settle (fun call' hcall' => hj.1.2 call' (List.mem_cons_of_mem call hcall'))
        hj.2 hsafe

theorem Keeps.update (hj : j.Keeps I R C Q) {f : σ → σ} (hI : I (f j.machine.store))
    (hR : R j.machine.store (f j.machine.store)) : (j.update f).Keeps I R C Q :=
  ⟨(hj.1.update hI hR).1, hj.2⟩

end Journal
