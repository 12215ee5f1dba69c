import Aico.Foundation.Transition
import Mathlib.Data.Fintype.Basic
import Mathlib.Data.List.Infix

/-!
# Row locks held to the end

A transaction asks for row locks in the order of a script, keeps every lock it gets and
gives up all of them when it commits or is rolled back. `WaitsFor s i j` says that the
next lock of `i` is refused because of one that `j` holds, and the state `s` is
`Deadlocked` when a party waits, through others, for itself.

There is no deadlock where the waits can be ranked (`Ranked`), and there is one where two
parties cross (`deadlocked_of_crossing`).
-/

namespace RowLock

variable {κ ι : Type*}

/-- The strengths of a row lock. -/
inductive Mode
  | keyShare
  | share
  | noKeyUpdate
  | update
deriving DecidableEq

/-- Two parties cannot hold locks of these strengths on one row. -/
def Mode.conflicts : Mode → Mode → Bool
  | .keyShare, m => m = .update
  | .share, m => m = .noKeyUpdate || m = .update
  | .noKeyUpdate, m => m ≠ .keyShare
  | .update, _ => true

theorem Mode.conflicts_comm (m m' : Mode) : m.conflicts m' = m'.conflicts m := by
  cases m <;> cases m' <;> rfl

/-- A lock a statement asks for. A statement that skips locked rows does not wait. -/
structure Request (κ : Type*) where
  row : κ
  mode : Mode
  skipLocked : Bool := false
deriving DecidableEq

/-- While one party holds `p`, another one is refused `q`. -/
def Request.Blocks (p q : Request κ) : Prop := p.row = q.row ∧ p.mode.conflicts q.mode

instance [DecidableEq κ] (p q : Request κ) : Decidable (p.Blocks q) :=
  inferInstanceAs (Decidable (_ ∧ _))

theorem Request.Blocks.symm {p q : Request κ} (h : p.Blocks q) : q.Blocks p :=
  ⟨h.1.symm, by rw [Mode.conflicts_comm]; exact h.2⟩

/-- Two parties can hold these locks. -/
def Compatible (A A' : List (Request κ)) : Prop := ∀ p ∈ A, ∀ q ∈ A', ¬ p.Blocks q

theorem Compatible.symm {A A' : List (Request κ)} (h : Compatible A A') : Compatible A' A :=
  fun p hp q hq hblocks => h q hq p hp hblocks.symm

/-- A lock held is as strong as the one asked for. -/
def Covered (A : List (Request κ)) (q : Request κ) : Prop :=
  ∃ p ∈ A, p.row = q.row ∧ ∀ m, q.mode.conflicts m → p.mode.conflicts m

/-- Whoever holds the lock for update has every lock on the row. -/
theorem covered_of_update {A : List (Request κ)} {p q : Request κ} (hp : p ∈ A)
    (hmode : p.mode = .update) (hrow : p.row = q.row) : Covered A q :=
  ⟨p, hp, hrow, fun _ _ => by rw [hmode]; rfl⟩

/-- Whoever holds any lock on the row has the weakest one. -/
theorem covered_of_keyShare {A : List (Request κ)} {p q : Request κ} (hp : p ∈ A)
    (hmode : q.mode = .keyShare) (hrow : p.row = q.row) : Covered A q := by
  refine ⟨p, hp, hrow, fun m hm => ?_⟩
  rw [hmode] at hm
  cases m with
  | update => cases p.mode <;> rfl
  | _ => cases hm

/-! ## Parties -/

/-- The locks a transaction holds and those it is still to ask for. -/
structure Party (κ : Type*) where
  held : List (Request κ)
  rest : List (Request κ)
deriving DecidableEq

/-- No other party holds a lock against it. -/
def Granted (s : ι → Party κ) (i : ι) (q : Request κ) : Prop :=
  ∀ j, j ≠ i → ∀ p ∈ (s j).held, ¬ p.Blocks q

instance [DecidableEq κ] [DecidableEq ι] [Fintype ι] (s : ι → Party κ) (i : ι)
    (q : Request κ) : Decidable (Granted s i q) :=
  inferInstanceAs (Decidable (∀ _, _))

/-- The next statement of a party, or the end of its transaction. -/
inductive Action (ι : Type*)
  | proceed (i : ι)
  | rollback (i : ι)

/-- A party gets its next lock, or waits; it commits after its last one. -/
def step [DecidableEq κ] [DecidableEq ι] [Fintype ι] (s : ι → Party κ) :
    Action ι → ι → Party κ
  | .proceed i =>
      match (s i).rest with
      | [] => Function.update s i ⟨[], []⟩
      | q :: rest =>
          if Granted s i q then Function.update s i ⟨(s i).held ++ [q], rest⟩ else s
  | .rollback i => Function.update s i ⟨[], []⟩

/-- Nobody holds a lock yet. -/
def start (scripts : ι → List (Request κ)) : ι → Party κ := fun i => ⟨[], scripts i⟩

/-- The next lock of `i` is refused because of one that `j` holds. -/
def WaitsFor (s : ι → Party κ) (i j : ι) : Prop :=
  i ≠ j ∧ ∃ q ∈ (s i).rest.head?, q.skipLocked = false ∧ ∃ p ∈ (s j).held, p.Blocks q

instance [DecidableEq κ] [DecidableEq ι] (s : ι → Party κ) (i j : ι) :
    Decidable (WaitsFor s i j) :=
  inferInstanceAs (Decidable (_ ∧ _))

/-- A party waits for itself. -/
def Deadlocked (s : ι → Party κ) : Prop := ∃ i, Relation.TransGen (WaitsFor s) i i

/-! ## What every run keeps -/

variable {scripts : ι → List (Request κ)} {s : ι → Party κ} {i j k : ι}

/-- Every open party is on its script, and no two hold locks against each other. -/
structure Inv (scripts : ι → List (Request κ)) (s : ι → Party κ) : Prop where
  follows : ∀ i, (s i).rest ≠ [] → (s i).held ++ (s i).rest = scripts i
  apart : ∀ i j, i ≠ j → Compatible (s i).held (s j).held

theorem Inv.start (scripts : ι → List (Request κ)) : Inv scripts (start scripts) where
  follows _ _ := rfl
  apart _ _ _ := fun _ hp => absurd hp List.not_mem_nil

/-- One party moves, to locks that go with those of the others. -/
theorem Inv.update [DecidableEq ι] (h : Inv scripts s) {p : Party κ}
    (hfollows : p.rest ≠ [] → p.held ++ p.rest = scripts i)
    (hapart : ∀ j, j ≠ i → Compatible p.held (s j).held) :
    Inv scripts (Function.update s i p) where
  follows j := by
    by_cases hj : j = i
    · rw [hj, Function.update_self]
      exact hfollows
    · rw [Function.update_of_ne hj]
      exact h.follows j
  apart j k hjk := by
    by_cases hj : j = i
    · have hk : k ≠ i := fun hk => hjk (hj.trans hk.symm)
      rw [hj, Function.update_self, Function.update_of_ne hk]
      exact hapart k hk
    · rw [Function.update_of_ne hj]
      by_cases hk : k = i
      · rw [hk, Function.update_self]
        exact (hapart j hj).symm
      · rw [Function.update_of_ne hk]
        exact h.apart j k hjk

theorem Inv.finish [DecidableEq ι] (h : Inv scripts s) (i : ι) :
    Inv scripts (Function.update s i ⟨[], []⟩) :=
  h.update (fun hrest => absurd rfl hrest) fun _ _ _ hp => absurd hp List.not_mem_nil

theorem Inv.step [DecidableEq κ] [DecidableEq ι] [Fintype ι] (h : Inv scripts s)
    (a : Action ι) : Inv scripts (step s a) := by
  cases a with
  | rollback i => exact h.finish i
  | proceed i =>
      rw [RowLock.step]
      split
      · exact h.finish i
      · rename_i q rest hrest
        split
        · rename_i hgranted
          apply h.update
          · intro _
            have hscript := h.follows i (by rw [hrest]; exact List.cons_ne_nil _ _)
            rw [hrest] at hscript
            rw [List.append_assoc]
            exact hscript
          · intro j hj p hp p' hp' hblocks
            rcases List.mem_append.mp hp with hheld | hnew
            · exact h.apart i j hj.symm p hheld p' hp' hblocks
            · rw [List.mem_singleton.mp hnew] at hblocks
              exact hgranted j hj p' hp' hblocks.symm
        · exact h

/-! ## Ranked waits -/

/-- A party whose script is `l` may have to wait for `q` while it holds `A`. -/
def Asks (l A : List (Request κ)) (q : Request κ) : Prop :=
  A ++ [q] <+: l ∧ ¬ Covered A q ∧ q.skipLocked = false

/-- A party that another one waits for waits itself only for what ranks higher. -/
def Ranked (ρ : ι → Request κ → ℕ) (scripts : ι → List (Request κ)) : Prop :=
  ∀ i j, i ≠ j → ∀ A q A' q', Asks (scripts i) A q → Asks (scripts j) A' q' →
    Compatible A A' → (∃ p ∈ A', p.Blocks q) → ρ i q < ρ j q'

/-- A party that waits stands before a lock of its script. -/
theorem WaitsFor.asks (hinv : Inv scripts s) (h : WaitsFor s i j) :
    ∃ q ∈ (s i).rest.head?, Asks (scripts i) (s i).held q ∧ ∃ p ∈ (s j).held, p.Blocks q := by
  obtain ⟨hij, q, hq, hskip, p, hp, hblocks⟩ := h
  obtain ⟨rest, hrest⟩ := List.head?_eq_some_iff.mp hq
  refine ⟨q, hq, ⟨?_, ?_, hskip⟩, p, hp, hblocks⟩
  · have hscript := hinv.follows i (by rw [hrest]; exact List.cons_ne_nil _ _)
    exact ⟨rest, by rw [← hscript, hrest, List.append_assoc]; rfl⟩
  · rintro ⟨p', hp', hrow, hstrong⟩
    refine hinv.apart i j hij p' hp' p hp ⟨hrow.trans hblocks.1.symm, hstrong _ ?_⟩
    rw [Mode.conflicts_comm]
    exact hblocks.2

variable {ρ : ι → Request κ → ℕ}

theorem rank_lt (hranked : Ranked ρ scripts) (hinv : Inv scripts s) (hij : WaitsFor s i j)
    (hjk : WaitsFor s j k) {q q' : Request κ} (hq : q ∈ (s i).rest.head?)
    (hq' : q' ∈ (s j).rest.head?) : ρ i q < ρ j q' := by
  obtain ⟨q₁, hq₁, hasks, hblocks⟩ := hij.asks hinv
  obtain ⟨q₂, hq₂, hasks', -⟩ := hjk.asks hinv
  obtain rfl := Option.mem_unique hq hq₁
  obtain rfl := Option.mem_unique hq' hq₂
  exact hranked i j hij.1 _ _ _ _ hasks hasks' (hinv.apart i j hij.1) hblocks

/-- Along a chain of waits the ranks go up. -/
theorem rank_lt_of_transGen (hranked : Ranked ρ scripts) (hinv : Inv scripts s)
    (h : Relation.TransGen (WaitsFor s) i j) {q : Request κ} (hq : q ∈ (s i).rest.head?) :
    ∀ k, WaitsFor s j k → ∀ q' ∈ (s j).rest.head?, ρ i q < ρ j q' := by
  induction h with
  | single hij => exact fun k hk q' hq' => rank_lt hranked hinv hij hk hq hq'
  | tail hib hbc ih =>
      intro k hk q' hq'
      obtain ⟨q₁, hq₁, -⟩ := hbc.asks hinv
      exact (ih _ hbc q₁ hq₁).trans (rank_lt hranked hinv hbc hk hq₁ hq')

theorem Inv.not_deadlocked (hinv : Inv scripts s) (hranked : Ranked ρ scripts) :
    ¬ Deadlocked s := by
  rintro ⟨i, hcycle⟩
  obtain ⟨j, hij, -⟩ := Relation.TransGen.head'_iff.mp hcycle
  obtain ⟨q, hq, -⟩ := hij.asks hinv
  exact lt_irrefl _ (rank_lt_of_transGen hranked hinv hcycle hq j hij q hq)

/-- Ranked parties never deadlock. -/
theorem Ranked.not_deadlocked [DecidableEq κ] [DecidableEq ι] [Fintype ι]
    (h : Ranked ρ scripts) (acts : List (Action ι)) :
    ¬ Deadlocked (Transition.run step (RowLock.start scripts) acts) :=
  (Transition.run_invariant (fun _ a hs => hs.step a) (Inv.start scripts) acts).not_deadlocked h

/-! ## Crossing parties -/

section Crossing

variable [DecidableEq κ] [DecidableEq ι] [Fintype ι]

/-- A party takes locks that go with those of the others. -/
theorem run_proceed {A rest : List (Request κ)} (hrest : (s i).rest = A ++ rest)
    (hfree : ∀ j, j ≠ i → Compatible (s j).held A) :
    Transition.run step s (List.replicate A.length (.proceed i)) =
      Function.update s i ⟨(s i).held ++ A, rest⟩ := by
  induction A generalizing s with
  | nil =>
      rw [List.append_nil]
      rw [List.nil_append] at hrest
      rw [← hrest]
      exact (Function.update_eq_self i s).symm
  | cons q A ih =>
      have hgranted : Granted s i q :=
        fun j hj p hp => hfree j hj p hp q List.mem_cons_self
      have hstep : step s (.proceed i) =
          Function.update s i ⟨(s i).held ++ [q], A ++ rest⟩ := by
        simp only [step, hrest, List.cons_append, if_pos hgranted]
      rw [List.length_cons, List.replicate_succ, Transition.run_cons, hstep, ih]
      · rw [Function.update_self, Function.update_idem, List.append_assoc]
        rfl
      · rw [Function.update_self]
      · intro j hj p hp p' hp'
        rw [Function.update_of_ne hj] at hp
        exact hfree j hj p hp p' (List.mem_cons_of_mem q hp')

/-- Each of two parties takes the lock the other one is to ask for next. -/
theorem deadlocked_of_crossing (hij : i ≠ j) {A A' : List (Request κ)} {q q' : Request κ}
    (hi : A ++ [q] <+: scripts i) (hj : A' ++ [q'] <+: scripts j) (h : Compatible A A')
    (hq : q.skipLocked = false) (hq' : q'.skipLocked = false)
    (hblocks : ∃ p ∈ A', p.Blocks q) (hblocks' : ∃ p ∈ A, p.Blocks q') :
    ∃ acts, Deadlocked (Transition.run step (start scripts) acts) := by
  obtain ⟨rest, hrest⟩ := hi
  obtain ⟨rest', hrest'⟩ := hj
  rw [List.append_assoc] at hrest hrest'
  have hone := run_proceed (s := start scripts) (i := i) hrest.symm
    fun j _ p hp => absurd hp List.not_mem_nil
  have hnext : (Function.update (start scripts) i ⟨(start scripts i).held ++ A, [q] ++ rest⟩
      j).rest = A' ++ ([q'] ++ rest') := by
    rw [Function.update_of_ne hij.symm]
    exact hrest'.symm
  have htwo := run_proceed hnext (by
    intro k _
    by_cases hki : k = i
    · rw [hki, Function.update_self]
      exact h
    · rw [Function.update_of_ne hki]
      exact fun p hp => absurd hp List.not_mem_nil)
  refine ⟨List.replicate A.length (.proceed i) ++ List.replicate A'.length (.proceed j), i, ?_⟩
  rw [Transition.run_append, hone, htwo, Function.update_of_ne hij.symm]
  apply Relation.TransGen.tail (b := j)
  · apply Relation.TransGen.single
    refine ⟨hij, q, ?_, hq, ?_⟩
    · rw [Function.update_of_ne hij, Function.update_self]
      rfl
    · rw [Function.update_self]
      exact hblocks
  · refine ⟨hij.symm, q', ?_, hq', ?_⟩
    · rw [Function.update_self]
      rfl
    · rw [Function.update_of_ne hij, Function.update_self]
      exact hblocks'

end Crossing

end RowLock
