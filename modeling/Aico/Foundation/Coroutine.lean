import Aico.Foundation.Program

/-!
# Programs that may be interrupted

A `Coroutine` is a program over the store `σ` that stops at points `η` of its own
choosing and goes on with an answer `ι` from whatever store it then finds: a callback
of the program runs there, and it may change the store or be answered by an error.
What the program has read before a point it keeps.

`run` answers every point at once with the same answer, which makes a coroutine a
`Prog`. A `Machine` is the store with the coroutines that are stopped, the innermost
first: a callback starts calls of its own, and they end before it returns.
-/

/-- How a program goes on: it is done, or it is stopped at a point. -/
inductive Course (σ ι η ε α : Type) : Type where
  | done (result : Except ε α) (store : σ)
  | paused (point : η) (store : σ) (resume : ι → σ → Course σ ι η ε α)

/-- A program over the store `σ` with errors in `ε` that stops at points `η` for answers
`ι`. -/
def Coroutine (σ ι η ε α : Type) : Type := σ → Course σ ι η ε α

namespace Course

variable {σ ι η ε ε' α β : Type}

def bind (f : α → Coroutine σ ι η ε β) : Course σ ι η ε α → Course σ ι η ε β
  | .done (.ok a) s => f a s
  | .done (.error e) s => .done (.error e) s
  | .paused h s resume => .paused h s fun i s' => (resume i s').bind f

def catching (handler : ε → Coroutine σ ι η ε' α) : Course σ ι η ε α → Course σ ι η ε' α
  | .done (.ok a) s => .done (.ok a) s
  | .done (.error e) s => handler e s
  | .paused h s resume => .paused h s fun i s' => (resume i s').catching handler

/-- Answer every point with `i`, in the store the program stopped in. -/
def finish (i : ι) : Course σ ι η ε α → Except ε α × σ
  | .done r s => (r, s)
  | .paused _ s resume => (resume i s).finish i

end Course

namespace Coroutine

variable {σ ι η ε ε' α β : Type}

instance : Monad (Coroutine σ ι η ε) where
  pure a := fun s => .done (.ok a) s
  bind p f := fun s => (p s).bind f

def throw (e : ε) : Coroutine σ ι η ε α := fun s => .done (.error e) s

/-- Read a value off the store. -/
def gets (f : σ → α) : Coroutine σ ι η ε α := fun s => .done (.ok (f s)) s

/-- Change the store. -/
def modify (f : σ → σ) : Coroutine σ ι η ε PUnit := fun s => .done (.ok ⟨⟩) (f s)

/-- Throw the error unless the condition holds. -/
def ensure (c : Prop) [Decidable c] (e : ε) : Coroutine σ ι η ε PUnit :=
  if c then pure ⟨⟩ else throw e

/-- The value of the option, or the error when there is none. -/
def require (o : Option α) (e : ε) : Coroutine σ ι η ε α :=
  match o with
  | some a => pure a
  | none => throw e

/-- Return the value, or throw the error. -/
def lift (r : Except ε α) : Coroutine σ ι η ε α := fun s => .done r s

/-- Stop at the point and go on with the answer. -/
def pause (h : η) : Coroutine σ ι η ε ι := fun s => .paused h s fun i s' => .done (.ok i) s'

/-- Run the handler on an error. Its own errors are thrown on. -/
def catching (p : Coroutine σ ι η ε α) (handler : ε → Coroutine σ ι η ε' α) :
    Coroutine σ ι η ε' α :=
  fun s => (p s).catching handler

def run (i : ι) (p : Coroutine σ ι η ε α) : Prog σ ε α := fun s => (p s).finish i

section Run

variable (i : ι)

theorem finish_bind (c : Course σ ι η ε α) (f : α → Coroutine σ ι η ε β) :
    (c.bind f).finish i =
      match c.finish i with
      | (.ok a, s) => (f a s).finish i
      | (.error e, s) => (.error e, s) := by
  induction c with
  | done r s => cases r <;> rfl
  | paused h s resume ih => exact ih i s

theorem finish_catching (c : Course σ ι η ε α) (handler : ε → Coroutine σ ι η ε' α) :
    (c.catching handler).finish i =
      match c.finish i with
      | (.ok a, s) => (.ok a, s)
      | (.error e, s) => (handler e s).finish i := by
  induction c with
  | done r s => cases r <;> rfl
  | paused h s resume ih => exact ih i s

@[simp] theorem run_pure (a : α) :
    run i (pure a : Coroutine σ ι η ε α) = (pure a : Prog σ ε α) := rfl

@[simp] theorem run_bind (p : Coroutine σ ι η ε α) (f : α → Coroutine σ ι η ε β) :
    run i (p >>= f) = run i p >>= fun a => run i (f a) :=
  funext fun s => finish_bind i (p s) f

@[simp] theorem run_throw (e : ε) :
    run i (throw e : Coroutine σ ι η ε α) = Prog.throw e := rfl

@[simp] theorem run_gets (f : σ → α) :
    run i (gets f : Coroutine σ ι η ε α) = Prog.gets f := rfl

@[simp] theorem run_modify (f : σ → σ) :
    run i (modify f : Coroutine σ ι η ε PUnit) = Prog.modify f := rfl

@[simp] theorem run_ensure (c : Prop) [Decidable c] (e : ε) :
    run i (ensure c e : Coroutine σ ι η ε PUnit) = Prog.ensure c e := by
  unfold ensure Prog.ensure
  split <;> rfl

@[simp] theorem run_require (o : Option α) (e : ε) :
    run i (require o e : Coroutine σ ι η ε α) = Prog.require o e := by
  cases o <;> rfl

@[simp] theorem run_lift (r : Except ε α) :
    run i (lift r : Coroutine σ ι η ε α) = Prog.lift r := rfl

@[simp] theorem run_pause (h : η) :
    run i (pause h : Coroutine σ ι η ε ι) = (pure i : Prog σ ε ι) := rfl

@[simp] theorem run_catching (p : Coroutine σ ι η ε α) (handler : ε → Coroutine σ ι η ε' α) :
    run i (catching p handler) = Prog.catching (run i p) fun e => run i (handler e) :=
  funext fun s => finish_catching i (p s) handler

end Run

end Coroutine

/-- The store and the stopped calls, the innermost first. -/
structure Machine (σ ι η ε α : Type) where
  store : σ
  stack : List (η × (ι → σ → Course σ ι η ε α))

namespace Machine

variable {σ ι η ε α : Type}

/-- No call is going on. -/
def idle (s : σ) : Machine σ ι η ε α where
  store := s
  stack := []

/-- The call goes on by `c` above the stopped calls. -/
def settle (stack : List (η × (ι → σ → Course σ ι η ε α))) :
    Course σ ι η ε α → Machine σ ι η ε α
  | .done _ s => ⟨s, stack⟩
  | .paused h s resume => ⟨s, (h, resume) :: stack⟩

/-- Start a call, from outside or from the callback of the innermost stopped call. -/
def call (m : Machine σ ι η ε α) (p : Coroutine σ ι η ε α) : Machine σ ι η ε α :=
  settle m.stack (p m.store)

def answer (m : Machine σ ι η ε α) (i : ι) : Machine σ ι η ε α :=
  match m.stack with
  | [] => m
  | (_, resume) :: rest => settle rest (resume i m.store)

/-- Something outside the calls changes the store. -/
def update (m : Machine σ ι η ε α) (f : σ → σ) : Machine σ ι η ε α :=
  { m with store := f m.store }

def point (m : Machine σ ι η ε α) : Option η := m.stack.head?.map Prod.fst

end Machine

/-- A machine with the values that its calls have returned, the latest last. -/
structure Journal (σ ι η ε α : Type) where
  machine : Machine σ ι η ε α
  returned : List α

namespace Journal

variable {σ ι η ε α : Type}

def idle (s : σ) : Journal σ ι η ε α where
  machine := Machine.idle s
  returned := []

/-- The call goes on by `c` above the stopped calls. -/
def settle (returned : List α) (stack : List (η × (ι → σ → Course σ ι η ε α)))
    (c : Course σ ι η ε α) : Journal σ ι η ε α where
  machine := Machine.settle stack c
  returned :=
    match c with
    | .done (.ok a) _ => returned ++ [a]
    | _ => returned

def call (j : Journal σ ι η ε α) (p : Coroutine σ ι η ε α) : Journal σ ι η ε α :=
  settle j.returned j.machine.stack (p j.machine.store)

def answer (j : Journal σ ι η ε α) (i : ι) : Journal σ ι η ε α :=
  match j.machine.stack with
  | [] => j
  | (_, resume) :: rest => settle j.returned rest (resume i j.machine.store)

def update (j : Journal σ ι η ε α) (f : σ → σ) : Journal σ ι η ε α :=
  { j with machine := j.machine.update f }

end Journal
