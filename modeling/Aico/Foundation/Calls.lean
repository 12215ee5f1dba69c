import Mathlib.Algebra.BigOperators.Group.List.Basic
import Mathlib.Data.List.Forall2
import Mathlib.Tactic.Abel
import Aico.Foundation.RelyGuarantee

/-!
# Calls side by side

`Calls` is a store with calls that are stopped side by side: any one of them may be
answered next, and it goes on from the store that the others have left. A call keeps its
dialogue, the points it was stopped at with the answers it was given.

`Tells` says of a program what every dialogue comes to, whatever the store is: an ended
call among others has such a dialogue (`Calls.Holds`). `Alike` relates two programs that
go on in the same way as long as the answers are of the kind `C`; so do two systems of
such calls (`Calls.Alike`).
-/

namespace List.Forall₂

variable {α β : Type*} {R : α → β → Prop} {xs : List α} {ys : List β}

/-- Related lists have related elements in the same places. -/
theorem getElem? (h : Forall₂ R xs ys) (n : ℕ) : Option.Rel R xs[n]? ys[n]? := by
  induction h generalizing n with
  | nil => exact .none
  | cons hxy _ ih =>
      cases n with
      | zero => exact .some hxy
      | succ n => exact ih n

theorem eraseIdx (h : Forall₂ R xs ys) (n : ℕ) : Forall₂ R (xs.eraseIdx n) (ys.eraseIdx n) := by
  induction h generalizing n with
  | nil => exact .nil
  | cons hxy hrest ih =>
      cases n with
      | zero => exact hrest
      | succ n => exact .cons hxy (ih n)

end List.Forall₂

namespace Course

variable {σ ι η ε α : Type} {C : η → ι → Prop}

def point : Course σ ι η ε α → Option η
  | .done _ _ => none
  | .paused h _ _ => some h

/-- The rest of a program, after what it was told and since the store in which it last went
on: `K` holds wherever it stops and `Q` where it ends. An answer is of the kind `C`. -/
def Tells (C : η → ι → Prop) (K : List (η × ι) → σ → η → σ → Prop)
    (Q : List (η × ι) → σ → Except ε α → σ → Prop) :
    List (η × ι) → σ → Course σ ι η ε α → Prop
  | told, s₀, .done r s => Q told s₀ r s
  | told, s₀, .paused h s resume =>
      K told s₀ h s ∧ ∀ i s', C h i → (resume i s').Tells C K Q (told ++ [(h, i)]) s'

/-- The programs stop at the same points in the same stores, go on alike after an answer
of the kind `C` and return the same. -/
def Alike (C : η → ι → Prop) : Course σ ι η ε α → Course σ ι η ε α → Prop
  | .done r s, .done r' s' => r = r' ∧ s = s'
  | .paused h s resume, .paused h' s' resume' =>
      h = h' ∧ s = s' ∧ ∀ i t, C h i → (resume i t).Alike C (resume' i t)
  | _, _ => False

theorem Alike.refl (c : Course σ ι η ε α) : c.Alike C c := by
  induction c with
  | done r s => exact ⟨rfl, rfl⟩
  | paused point s resume ih => exact ⟨rfl, rfl, fun i t _ => ih i t⟩

end Course

namespace Coroutine

variable {σ ι η ε ε' α β : Type} {C : η → ι → Prop} {K : List (η × ι) → σ → η → σ → Prop}

/-- A triple over what was told, the store in which the program last went on and the store
that it is in. -/
def Tells (C : η → ι → Prop) (K : List (η × ι) → σ → η → σ → Prop)
    (P : List (η × ι) → σ → σ → Prop) (p : Coroutine σ ι η ε α)
    (Q : List (η × ι) → σ → Except ε α → σ → Prop) : Prop :=
  ∀ told s₀ s, P told s₀ s → (p s).Tells C K Q told s₀

namespace Tells

variable {P : List (η × ι) → σ → σ → Prop} {T : List (η × ι) → σ → Except ε α → σ → Prop}

theorem pure {a : α} (h : ∀ told s₀ s, P told s₀ s → T told s₀ (.ok a) s) :
    Tells C K P (Pure.pure a : Coroutine σ ι η ε α) T :=
  fun told s₀ s hP => h told s₀ s hP

theorem gets {f : σ → α} (h : ∀ told s₀ s, P told s₀ s → T told s₀ (.ok (f s)) s) :
    Tells C K P (gets f : Coroutine σ ι η ε α) T :=
  fun told s₀ s hP => h told s₀ s hP

/-- A stop lengthens the dialogue by the point and its answer. -/
theorem pause {h : η} {T : List (η × ι) → σ → Except ε ι → σ → Prop}
    (hK : ∀ told s₀ s, P told s₀ s → K told s₀ h s)
    (hT : ∀ told s₀ s i s', P told s₀ s → C h i → T (told ++ [(h, i)]) s' (.ok i) s') :
    Tells C K P (pause h : Coroutine σ ι η ε ι) T :=
  fun told s₀ s hP => ⟨hK told s₀ s hP, fun i s' hC => hT told s₀ s i s' hP hC⟩

theorem bind {p : Coroutine σ ι η ε α} {f : α → Coroutine σ ι η ε β}
    {Q : List (η × ι) → σ → Except ε β → σ → Prop} (hp : Tells C K P p T)
    (hok : ∀ a, Tells C K (fun told s₀ s => T told s₀ (.ok a) s) (f a) Q)
    (herr : ∀ told s₀ e s, T told s₀ (.error e) s → Q told s₀ (.error e) s) :
    Tells C K P (p >>= f) Q := by
  have hcourse : ∀ (c : Course σ ι η ε α) (told : List (η × ι)) (s₀ : σ),
      c.Tells C K T told s₀ → (c.bind f).Tells C K Q told s₀ := by
    intro c
    induction c with
    | done r s =>
        intro told s₀ hc
        cases r with
        | error e => exact herr told s₀ e s hc
        | ok a => exact hok a told s₀ s hc
    | paused point s resume ih =>
        exact fun told s₀ hc => ⟨hc.1, fun i s' hC => ih i s' _ s' (hc.2 i s' hC)⟩
  exact fun told s₀ s hP => hcourse (p s) told s₀ (hp told s₀ s hP)

theorem catching {p : Coroutine σ ι η ε α} {handler : ε → Coroutine σ ι η ε' α}
    {Q : List (η × ι) → σ → Except ε' α → σ → Prop} (hp : Tells C K P p T)
    (hok : ∀ told s₀ a s, T told s₀ (.ok a) s → Q told s₀ (.ok a) s)
    (herr : ∀ e, Tells C K (fun told s₀ s => T told s₀ (.error e) s) (handler e) Q) :
    Tells C K P (catching p handler) Q := by
  have hcourse : ∀ (c : Course σ ι η ε α) (told : List (η × ι)) (s₀ : σ),
      c.Tells C K T told s₀ → (c.catching handler).Tells C K Q told s₀ := by
    intro c
    induction c with
    | done r s =>
        intro told s₀ hc
        cases r with
        | error e => exact herr e told s₀ s hc
        | ok a => exact hok told s₀ a s hc
    | paused point s resume ih =>
        exact fun told s₀ hc => ⟨hc.1, fun i s' hC => ih i s' _ s' (hc.2 i s' hC)⟩
  exact fun told s₀ s hP => hcourse (p s) told s₀ (hp told s₀ s hP)

theorem ite {c : Prop} [Decidable c] {p q : Coroutine σ ι η ε α} (hp : c → Tells C K P p T)
    (hq : ¬ c → Tells C K P q T) : Tells C K P (if c then p else q) T := by
  split
  · next hc => exact hp hc
  · next hc => exact hq hc

end Tells

/-- The programs are alike from every store. -/
def Alike (C : η → ι → Prop) (p q : Coroutine σ ι η ε α) : Prop :=
  ∀ s, (p s).Alike C (q s)

namespace Alike

theorem refl (p : Coroutine σ ι η ε α) : p.Alike C p := fun s => Course.Alike.refl (p s)

theorem bind {p p' : Coroutine σ ι η ε α} {f f' : α → Coroutine σ ι η ε β}
    (hp : p.Alike C p') (hf : ∀ a, (f a).Alike C (f' a)) : (p >>= f).Alike C (p' >>= f') := by
  have hcourse : ∀ c c' : Course σ ι η ε α, c.Alike C c' → (c.bind f).Alike C (c'.bind f') := by
    intro c
    induction c with
    | done r s =>
        intro c' hc
        cases c' with
        | paused h s resume => exact hc.elim
        | done r' s' =>
            obtain ⟨rfl, rfl⟩ := hc
            cases r with
            | error e => exact ⟨rfl, rfl⟩
            | ok a => exact hf a s
    | paused point s resume ih =>
        intro c' hc
        cases c' with
        | done r s => exact hc.elim
        | paused h s' resume' => exact ⟨hc.1, hc.2.1, fun i t hC => ih i t _ (hc.2.2 i t hC)⟩
  exact fun s => hcourse (p s) (p' s) (hp s)

theorem catching {p p' : Coroutine σ ι η ε α} {handler : ε → Coroutine σ ι η ε' α}
    (hp : p.Alike C p') : (catching p handler).Alike C (catching p' handler) := by
  have hcourse : ∀ c c' : Course σ ι η ε α, c.Alike C c' →
      (c.catching handler).Alike C (c'.catching handler) := by
    intro c
    induction c with
    | done r s =>
        intro c' hc
        cases c' with
        | paused h s resume => exact hc.elim
        | done r' s' =>
            obtain ⟨rfl, rfl⟩ := hc
            exact Course.Alike.refl _
    | paused point s resume ih =>
        intro c' hc
        cases c' with
        | done r s => exact hc.elim
        | paused h s' resume' => exact ⟨hc.1, hc.2.1, fun i t hC => ih i t _ (hc.2.2 i t hC)⟩
  exact fun s => hcourse (p s) (p' s) (hp s)

theorem ite {c : Prop} [Decidable c] {p q p' q' : Coroutine σ ι η ε α} (hp : c → p.Alike C p')
    (hq : ¬ c → q.Alike C q') : (if c then p else q).Alike C (if c then p' else q') := by
  split
  · next hc => exact hp hc
  · next hc => exact hq hc

end Alike

end Coroutine

/-- A stopped call: what it was started with, its dialogue so far, the point it is stopped
at and the rest of it. -/
structure StoppedCall (σ ι η ε α τ : Type) where
  tag : τ
  told : List (η × ι)
  point : η
  resume : ι → σ → Course σ ι η ε α

/-- A call that has ended, with its whole dialogue. -/
structure EndedCall (ι η ε α τ : Type) where
  tag : τ
  told : List (η × ι)
  result : Except ε α

structure Calls (σ ι η ε α τ : Type) where
  store : σ
  running : List (StoppedCall σ ι η ε α τ)
  ended : List (EndedCall ι η ε α τ)

namespace Calls

variable {σ ι η ε α τ : Type}

def idle (s : σ) : Calls σ ι η ε α τ where
  store := s
  running := []
  ended := []

/-- The call goes on by the course beside the others. -/
def settle (calls : Calls σ ι η ε α τ) (tag : τ) (told : List (η × ι)) :
    Course σ ι η ε α → Calls σ ι η ε α τ
  | .done r s => { calls with
      store := s
      ended := calls.ended ++ [⟨tag, told, r⟩] }
  | .paused h s resume => { calls with
      store := s
      running := calls.running ++ [⟨tag, told, h, resume⟩] }

def start (calls : Calls σ ι η ε α τ) (tag : τ) (p : Coroutine σ ι η ε α) :
    Calls σ ι η ε α τ :=
  calls.settle tag [] (p calls.store)

def answer (calls : Calls σ ι η ε α τ) (n : ℕ) (i : ι) : Calls σ ι η ε α τ :=
  match calls.running[n]? with
  | none => calls
  | some t => settle { calls with running := calls.running.eraseIdx n } t.tag
      (t.told ++ [(t.point, i)]) (t.resume i calls.store)

def update (calls : Calls σ ι η ε α τ) (f : σ → σ) : Calls σ ι η ε α τ :=
  { calls with store := f calls.store }

def point (calls : Calls σ ι η ε α τ) (n : ℕ) : Option η :=
  calls.running[n]?.map StoppedCall.point

theorem answer_of_none {calls : Calls σ ι η ε α τ} {n : ℕ} {i : ι} (h : calls.point n = none) :
    calls.answer n i = calls := by
  have hnone : calls.running[n]? = none := by simpa [point] using h
  rw [answer, hnone]

theorem answer_of_some {calls : Calls σ ι η ε α τ} {n : ℕ} {i : ι}
    {t : StoppedCall σ ι η ε α τ} (h : calls.running[n]? = some t) :
    calls.answer n i = settle { calls with running := calls.running.eraseIdx n } t.tag
      (t.told ++ [(t.point, i)]) (t.resume i calls.store) := by
  rw [answer, h]

/-- A call that has just been started is the last one that is stopped. -/
theorem point_start (calls : Calls σ ι η ε α τ) (tag : τ) (p : Coroutine σ ι η ε α) :
    (calls.start tag p).point calls.running.length = (p calls.store).point := by
  unfold start point
  generalize p calls.store = c
  cases c with
  | done r s => simp [settle, Course.point]
  | paused point s resume => simp [settle, Course.point]

/-! ## Dialogues -/

/-- Every call that is stopped has come there and goes on as `K` and `Q` say of what it was
started with, and every call that has ended did. -/
structure Holds (C : η → ι → Prop) (K : τ → List (η × ι) → σ → η → σ → Prop)
    (Q : τ → List (η × ι) → σ → Except ε α → σ → Prop) (calls : Calls σ ι η ε α τ) : Prop where
  running : ∀ t ∈ calls.running, ∀ i s, C t.point i →
    (t.resume i s).Tells C (K t.tag) (Q t.tag) (t.told ++ [(t.point, i)]) s
  stopped : ∀ t ∈ calls.running, ∃ s₀ s, K t.tag t.told s₀ t.point s
  ended : ∀ e ∈ calls.ended, ∃ s₀ s, Q e.tag e.told s₀ e.result s

variable {C : η → ι → Prop} {K : τ → List (η × ι) → σ → η → σ → Prop}
  {Q : τ → List (η × ι) → σ → Except ε α → σ → Prop} {calls : Calls σ ι η ε α τ}

namespace Holds

theorem idle (s : σ) : (Calls.idle s : Calls σ ι η ε α τ).Holds C K Q where
  running _ ht := absurd ht List.not_mem_nil
  stopped _ ht := absurd ht List.not_mem_nil
  ended _ he := absurd he List.not_mem_nil

theorem settle (h : calls.Holds C K Q) {tag : τ} {told : List (η × ι)} {s₀ : σ}
    {c : Course σ ι η ε α} (hc : c.Tells C (K tag) (Q tag) told s₀) :
    (calls.settle tag told c).Holds C K Q := by
  cases c with
  | done r s =>
      refine ⟨h.running, h.stopped, fun e he => ?_⟩
      rcases List.mem_append.mp he with he | he
      · exact h.ended e he
      · rw [List.mem_singleton.mp he]
        exact ⟨s₀, s, hc⟩
  | paused point s resume =>
      refine ⟨fun t ht => ?_, fun t ht => ?_, h.ended⟩
      · rcases List.mem_append.mp ht with ht | ht
        · exact h.running t ht
        · rw [List.mem_singleton.mp ht]
          exact hc.2
      · rcases List.mem_append.mp ht with ht | ht
        · exact h.stopped t ht
        · rw [List.mem_singleton.mp ht]
          exact ⟨s₀, s, hc.1⟩

theorem start (h : calls.Holds C K Q) {tag : τ} {p : Coroutine σ ι η ε α}
    (hp : p.Tells C (K tag) (fun told s₀ s => told = [] ∧ s = s₀) (Q tag)) :
    (calls.start tag p).Holds C K Q :=
  h.settle (hp [] calls.store calls.store ⟨rfl, rfl⟩)

theorem resume (h : calls.Holds C K Q) {n : ℕ} {i : ι} {t : StoppedCall σ ι η ε α τ}
    (hn : calls.running[n]? = some t) (hC : ∀ point ∈ calls.point n, C point i) :
    (t.resume i calls.store).Tells C (K t.tag) (Q t.tag) (t.told ++ [(t.point, i)])
      calls.store :=
  h.running t (List.mem_of_getElem? hn) i calls.store (hC t.point (by simp [point, hn]))

theorem answer (h : calls.Holds C K Q) {n : ℕ} {i : ι}
    (hC : ∀ point ∈ calls.point n, C point i) : (calls.answer n i).Holds C K Q := by
  rcases hn : calls.running[n]? with _ | t
  · rw [answer_of_none (by simp [point, hn])]
    exact h
  · have hrest : Holds C K Q { calls with running := calls.running.eraseIdx n } :=
      ⟨fun t' ht' => h.running t' (List.mem_of_mem_eraseIdx ht'),
        fun t' ht' => h.stopped t' (List.mem_of_mem_eraseIdx ht'), h.ended⟩
    rw [answer_of_some hn]
    exact hrest.settle (h.resume hn hC)

theorem update (h : calls.Holds C K Q) (f : σ → σ) : (calls.update f).Holds C K Q :=
  ⟨h.running, h.stopped, h.ended⟩

end Holds

/-! ## What the ended calls leave in the store -/

/-- `J` is kept while a call goes on, and by the end of a call it holds with that call. -/
structure Records (K : τ → List (η × ι) → σ → η → σ → Prop)
    (Q : τ → List (η × ι) → σ → Except ε α → σ → Prop)
    (J : σ → List (EndedCall ι η ε α τ) → Prop) : Prop where
  stops : ∀ tag told s₀ point s ended, K tag told s₀ point s → J s₀ ended → J s ended
  ends : ∀ tag told s₀ r s ended, Q tag told s₀ r s → J s₀ ended →
    J s (ended ++ [⟨tag, told, r⟩])

namespace Records

variable {J : σ → List (EndedCall ι η ε α τ) → Prop}

theorem settle (hJ : Records K Q J) {tag : τ} {told : List (η × ι)} {c : Course σ ι η ε α}
    (hc : c.Tells C (K tag) (Q tag) told calls.store) (h : J calls.store calls.ended) :
    J (calls.settle tag told c).store (calls.settle tag told c).ended := by
  cases c with
  | done r s => exact hJ.ends tag told calls.store r s calls.ended hc h
  | paused point s resume => exact hJ.stops tag told calls.store point s calls.ended hc.1 h

theorem start (hJ : Records K Q J) {tag : τ} {p : Coroutine σ ι η ε α}
    (hp : p.Tells C (K tag) (fun told s₀ s => told = [] ∧ s = s₀) (Q tag))
    (h : J calls.store calls.ended) :
    J (calls.start tag p).store (calls.start tag p).ended :=
  hJ.settle (hp [] calls.store calls.store ⟨rfl, rfl⟩) h

theorem answer (hJ : Records K Q J) (hcalls : calls.Holds C K Q) {n : ℕ} {i : ι}
    (hC : ∀ point ∈ calls.point n, C point i) (h : J calls.store calls.ended) :
    J (calls.answer n i).store (calls.answer n i).ended := by
  rcases hn : calls.running[n]? with _ | t
  · rw [answer_of_none (by simp [point, hn])]
    exact h
  · rw [answer_of_some hn]
    exact hJ.settle (hcalls.resume hn hC) h

end Records

/-! ## Accounts of the dialogues -/

section Accounts

variable {M : Type*} [AddCommMonoid M]

/-- What a stop costs, by the point that it is made at, and an answer. -/
structure Prices (ι η : Type) (M : Type*) where
  stop : η → M
  answer : η → ι → M

/-- What a whole dialogue has cost. -/
def Prices.spent (prices : Prices ι η M) (told : List (η × ι)) : M :=
  (told.map fun e => prices.stop e.1 + prices.answer e.1 e.2).sum

def Prices.due (prices : Prices ι η M) (told : List (η × ι)) : M :=
  told.getLast?.elim 0 fun e => prices.answer e.1 e.2

def spent (prices : Prices ι η M) (calls : Calls σ ι η ε α τ) : M :=
  (calls.running.map fun t => prices.spent t.told + prices.stop t.point).sum +
    (calls.ended.map fun e => prices.spent e.told).sum

/-- The balance of the store goes up by what is due, wherever a call stops or ends. -/
structure Balanced (prices : Prices ι η M) (balance : σ → M)
    (K : τ → List (η × ι) → σ → η → σ → Prop)
    (Q : τ → List (η × ι) → σ → Except ε α → σ → Prop) : Prop where
  stops : ∀ tag told s₀ point s, K tag told s₀ point s →
    balance s = balance s₀ + (prices.due told + prices.stop point)
  ends : ∀ tag told s₀ r s, Q tag told s₀ r s → balance s = balance s₀ + prices.due told

theorem spent_eraseIdx {prices : Prices ι η M} {n : ℕ} {t : StoppedCall σ ι η ε α τ}
    (hn : calls.running[n]? = some t) :
    spent prices { calls with running := calls.running.eraseIdx n } +
      (prices.spent t.told + prices.stop t.point) = calls.spent prices := by
  obtain ⟨hlt, hget⟩ := List.getElem?_eq_some_iff.mp hn
  have hmap : n < (calls.running.map fun t => prices.spent t.told + prices.stop t.point).length := by
    simpa using hlt
  have herase := List.add_sum_eraseIdx hmap fun cost _ => AddCommute.all _ cost
  rw [List.getElem_map, hget, List.eraseIdx_map] at herase
  simp only [spent, ← herase]
  abel

namespace Balanced

variable {prices : Prices ι η M} {balance : σ → M} {base : M}

/-- The rest of a call that has paid for its dialogue so far. -/
theorem settle (hprices : Balanced prices balance K Q) {tag : τ} {told : List (η × ι)} {paid : M}
    {c : Course σ ι η ε α} (hc : c.Tells C (K tag) (Q tag) told calls.store)
    (hpaid : prices.spent told = paid + prices.due told)
    (h : calls.spent prices + paid = base + balance calls.store) :
    (calls.settle tag told c).spent prices = base + balance (calls.settle tag told c).store := by
  cases c with
  | done r s =>
      have hspent : (calls.settle tag told (.done r s)).spent prices =
          (calls.spent prices + paid) + prices.due told := by
        simp [Calls.settle, spent, hpaid, add_assoc]
      rw [hspent, h, add_assoc]
      exact congrArg (base + ·) (hprices.ends tag told calls.store r s hc).symm
  | paused point s resume =>
      have hspent : (calls.settle tag told (.paused point s resume)).spent prices =
          (calls.spent prices + paid) + (prices.due told + prices.stop point) := by
        simp only [Calls.settle, spent, hpaid, List.map_append, List.sum_append,
          List.map_singleton, List.sum_singleton]
        abel
      rw [hspent, h, add_assoc]
      exact congrArg (base + ·) (hprices.stops tag told calls.store point s hc.1).symm

theorem start (hprices : Balanced prices balance K Q) {tag : τ} {p : Coroutine σ ι η ε α}
    (hp : p.Tells C (K tag) (fun told s₀ s => told = [] ∧ s = s₀) (Q tag))
    (h : calls.spent prices = base + balance calls.store) :
    (calls.start tag p).spent prices = base + balance (calls.start tag p).store := by
  have hpaid : prices.spent [] = 0 + prices.due [] := (zero_add _).symm
  exact hprices.settle (hp [] calls.store calls.store ⟨rfl, rfl⟩) hpaid ((add_zero _).trans h)

theorem answer (hprices : Balanced prices balance K Q) (hcalls : calls.Holds C K Q) {n : ℕ}
    {i : ι} (hC : ∀ point ∈ calls.point n, C point i)
    (h : calls.spent prices = base + balance calls.store) :
    (calls.answer n i).spent prices = base + balance (calls.answer n i).store := by
  rcases hn : calls.running[n]? with _ | t
  · rw [answer_of_none (by simp [point, hn]), h]
  · have hpaid : prices.spent (t.told ++ [(t.point, i)]) =
        (prices.spent t.told + prices.stop t.point) + prices.due (t.told ++ [(t.point, i)]) := by
      simp [Prices.spent, Prices.due, add_assoc]
    rw [answer_of_some hn]
    exact hprices.settle (hcalls.resume hn hC) hpaid ((spent_eraseIdx hn).trans h)

end Balanced

end Accounts

/-! ## Calls that go on alike -/

structure StoppedCall.Alike (C : η → ι → Prop) (t t' : StoppedCall σ ι η ε α τ) : Prop where
  tag : t.tag = t'.tag
  told : t.told = t'.told
  point : t.point = t'.point
  resume : ∀ i s, C t.point i → (t.resume i s).Alike C (t'.resume i s)

/-- The stores are the same, the calls that are stopped are alike in their order, and the
same calls have ended in the same way. -/
structure Alike (C : η → ι → Prop) (calls calls' : Calls σ ι η ε α τ) : Prop where
  store : calls.store = calls'.store
  running : List.Forall₂ (StoppedCall.Alike C) calls.running calls'.running
  ended : calls.ended = calls'.ended

namespace Alike

variable {C : η → ι → Prop} {calls calls' : Calls σ ι η ε α τ}

theorem idle (s : σ) : (Calls.idle s : Calls σ ι η ε α τ).Alike C (Calls.idle s) where
  store := rfl
  running := .nil
  ended := rfl

theorem update (h : calls.Alike C calls') (f : σ → σ) :
    (calls.update f).Alike C (calls'.update f) where
  store := congrArg f h.store
  running := h.running
  ended := h.ended

theorem settle (h : calls.Alike C calls') {tag : τ} {told : List (η × ι)}
    {c c' : Course σ ι η ε α} (hc : c.Alike C c') :
    (calls.settle tag told c).Alike C (calls'.settle tag told c') := by
  cases c with
  | done r s =>
      cases c' with
      | paused point s' resume => exact hc.elim
      | done r' s' =>
          obtain ⟨rfl, rfl⟩ := hc
          exact ⟨rfl, h.running, congrArg (· ++ [(⟨tag, told, r⟩ : EndedCall ι η ε α τ)]) h.ended⟩
  | paused point s resume =>
      cases c' with
      | done r s' => exact hc.elim
      | paused point' s' resume' =>
          obtain ⟨rfl, rfl, hrest⟩ := hc
          exact ⟨rfl, List.rel_append h.running (.cons ⟨rfl, rfl, rfl, hrest⟩ .nil), h.ended⟩

theorem start (h : calls.Alike C calls') {tag : τ} {p p' : Coroutine σ ι η ε α}
    (hp : p.Alike C p') : (calls.start tag p).Alike C (calls'.start tag p') := by
  have hstart : (p calls.store).Alike C (p' calls'.store) := by
    rw [← h.store]
    exact hp calls.store
  exact h.settle hstart

theorem point (h : calls.Alike C calls') (n : ℕ) : calls.point n = calls'.point n := by
  have hn := h.running.getElem? n
  unfold Calls.point
  generalize calls.running[n]? = t at hn ⊢
  generalize calls'.running[n]? = t' at hn ⊢
  cases hn with
  | none => rfl
  | some ht => exact congrArg some ht.point

theorem answer (h : calls.Alike C calls') {n : ℕ} {i : ι}
    (hC : ∀ point ∈ calls.point n, C point i) :
    (calls.answer n i).Alike C (calls'.answer n i) := by
  have hn := h.running.getElem? n
  unfold Calls.answer
  rcases ht : calls.running[n]? with _ | t <;> rcases ht' : calls'.running[n]? with _ | t' <;>
    rw [ht, ht'] at hn <;> cases hn
  · exact h
  · next hrel =>
      have hpoint : C t.point i := hC t.point (by simp [Calls.point, ht])
      have hrest : Alike C { calls with running := calls.running.eraseIdx n }
          { calls' with running := calls'.running.eraseIdx n } :=
        ⟨h.store, h.running.eraseIdx n, h.ended⟩
      simp only [← hrel.tag, ← hrel.told, ← hrel.point]
      refine hrest.settle ?_
      rw [← h.store]
      exact hrel.resume i calls.store hpoint

end Alike

end Calls
