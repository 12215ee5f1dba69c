import Mathlib.Data.List.Basic
import Mathlib.Data.List.Nodup

/-!
# Tables as lists of rows

A table is a list of rows. An `UPDATE … WHERE` is `updateWhere`, an `INSERT` is
an append and a `SELECT … WHERE` is `List.filter`. A key column is a projection
`key : ρ → κ`; `(rows.map key).Nodup` says that no two rows share a key, which
updates that keep the key column preserve. Identifiers of rows come from a supply
that counts up (`Supply.Drawn`).
-/

namespace Table

variable {ρ κ : Type*}

/-- Apply `f` to the rows that satisfy `p` and keep the others. -/
def updateWhere (p : ρ → Bool) (f : ρ → ρ) (rows : List ρ) : List ρ :=
  rows.map fun r => if p r then f r else r

@[simp] theorem updateWhere_nil (p : ρ → Bool) (f : ρ → ρ) :
    updateWhere p f [] = [] := rfl

theorem updateWhere_cons (p : ρ → Bool) (f : ρ → ρ) (r : ρ) (rows : List ρ) :
    updateWhere p f (r :: rows) =
      (if p r then f r else r) :: updateWhere p f rows := rfl

theorem updateWhere_append (p : ρ → Bool) (f : ρ → ρ) (rows rows' : List ρ) :
    updateWhere p f (rows ++ rows') =
      updateWhere p f rows ++ updateWhere p f rows' :=
  List.map_append

theorem updateWhere_toList (p : ρ → Bool) (f : ρ → ρ) (o : Option ρ) :
    updateWhere p f o.toList = (o.map fun r => if p r then f r else r).toList := by
  cases o <;> rfl

theorem mem_updateWhere {p : ρ → Bool} {f : ρ → ρ} {rows : List ρ} {r : ρ} :
    r ∈ updateWhere p f rows ↔
      ∃ r₀ ∈ rows, (if p r₀ then f r₀ else r₀) = r :=
  List.mem_map

theorem forall_mem_updateWhere {p : ρ → Bool} {f : ρ → ρ} {rows : List ρ}
    {Q : ρ → Prop} :
    (∀ r ∈ updateWhere p f rows, Q r) ↔
      ∀ r ∈ rows, Q (if p r then f r else r) :=
  List.forall_mem_map

/-- An update that selects no row changes nothing. -/
theorem updateWhere_eq_self {p : ρ → Bool} {f : ρ → ρ} {rows : List ρ}
    (h : ∀ r ∈ rows, p r = false) : updateWhere p f rows = rows := by
  induction rows with
  | nil => rfl
  | cons r rows ih =>
      rw [updateWhere_cons, ih fun r' hr' => h r' (List.mem_cons_of_mem _ hr')]
      simp [h r List.mem_cons_self]

/-- Only the rows of the table matter for which rows an update selects. -/
theorem updateWhere_congr {p q : ρ → Bool} {f : ρ → ρ} {rows : List ρ}
    (h : ∀ r ∈ rows, p r = q r) : updateWhere p f rows = updateWhere q f rows := by
  apply List.map_congr_left
  intro r hr
  rw [h r hr]

/-- An update that keeps a column keeps the list of its values. -/
theorem map_updateWhere {p : ρ → Bool} {f : ρ → ρ} {key : ρ → κ}
    (hf : ∀ r, key (f r) = key r) (rows : List ρ) :
    (updateWhere p f rows).map key = rows.map key := by
  rw [updateWhere, List.map_map]
  apply List.map_congr_left
  intro r _
  by_cases hp : p r <;> simp [hp, hf]

/-- An update that keeps the column `q` reads commutes with selecting on it. -/
theorem filter_updateWhere {p q : ρ → Bool} {f : ρ → ρ}
    (hq : ∀ r, q (f r) = q r) (rows : List ρ) :
    (updateWhere p f rows).filter q = updateWhere p f (rows.filter q) := by
  rw [updateWhere, updateWhere, List.filter_map]
  congr 1
  apply List.filter_congr
  intro r _
  by_cases hp : p r <;> simp [hp, hq]

/-- The same where only the selected rows of the table keep it. -/
theorem filter_updateWhere_of_mem {p q : ρ → Bool} {f : ρ → ρ} {rows : List ρ}
    (hq : ∀ r ∈ rows, p r = true → q (f r) = q r) :
    (updateWhere p f rows).filter q = updateWhere p f (rows.filter q) := by
  rw [updateWhere, updateWhere, List.filter_map]
  congr 1
  apply List.filter_congr
  intro r hr
  by_cases hp : p r
  · simp [hp, hq r hr hp]
  · simp [hp]

@[simp] theorem length_updateWhere (p : ρ → Bool) (f : ρ → ρ) (rows : List ρ) :
    (updateWhere p f rows).length = rows.length := List.length_map ..

/-- An update that selects the new row alone. -/
theorem updateWhere_append_singleton {p : ρ → Bool} {f : ρ → ρ} {rows : List ρ} {r : ρ}
    (hrows : ∀ r' ∈ rows, p r' = false) (hr : p r = true) :
    updateWhere p f (rows ++ [r]) = rows ++ [f r] := by
  rw [updateWhere_append, updateWhere_eq_self hrows, updateWhere_cons, if_pos hr,
    updateWhere_nil]

/-- An update of rows of one owner leaves the rows of the others alone. -/
theorem filter_updateWhere_of_ne [DecidableEq κ] {p : ρ → Bool} {f : ρ → ρ}
    {g : ρ → κ} {k k' : κ} {rows : List ρ}
    (hp : ∀ r ∈ rows, p r = true → g r = k) (hf : ∀ r, g (f r) = g r)
    (hk : k' ≠ k) : (updateWhere p f rows).filter (fun r => g r = k') =
      rows.filter fun r => g r = k' := by
  rw [filter_updateWhere fun r => by rw [hf]]
  refine updateWhere_eq_self fun r hr => ?_
  obtain ⟨hr, howner⟩ := List.mem_filter.mp hr
  by_contra hpr
  rw [Bool.not_eq_false] at hpr
  exact hk ((of_decide_eq_true howner).symm.trans (hp r hr hpr))

/-- New rows of one owner. -/
theorem filter_append_of_forall_eq [DecidableEq κ] {g : ρ → κ} {k : κ}
    {rows rows' : List ρ} (h : ∀ r ∈ rows', g r = k) :
    (rows ++ rows').filter (fun r => g r = k) =
      (rows.filter fun r => g r = k) ++ rows' := by
  rw [List.filter_append, List.filter_eq_self.mpr fun r hr => decide_eq_true (h r hr)]

theorem filter_append_of_forall_ne [DecidableEq κ] {g : ρ → κ} {k : κ}
    {rows rows' : List ρ} (h : ∀ r ∈ rows', g r ≠ k) :
    (rows ++ rows').filter (fun r => g r = k) = rows.filter fun r => g r = k := by
  have hnone : rows'.filter (fun r => g r = k) = [] :=
    List.filter_eq_nil_iff.mpr fun r hr => by simpa using h r hr
  rw [List.filter_append, hnone, List.append_nil]

/-- A new row is a row of its owner. -/
theorem filter_append_of_eq [DecidableEq κ] {g : ρ → κ} {k : κ} {rows : List ρ}
    {r : ρ} (hr : g r = k) : (rows ++ [r]).filter (fun r => g r = k) =
      (rows.filter fun r => g r = k) ++ [r] :=
  filter_append_of_forall_eq (List.forall_mem_singleton.mpr hr)

theorem filter_append_of_ne [DecidableEq κ] {g : ρ → κ} {k : κ} {rows : List ρ}
    {r : ρ} (hr : g r ≠ k) : (rows ++ [r]).filter (fun r => g r = k) =
      rows.filter fun r => g r = k :=
  filter_append_of_forall_ne (List.forall_mem_singleton.mpr hr)

/-- An update of rows outside a selection that leaves them outside keeps the
selection. -/
theorem filter_updateWhere_of_not {p q : ρ → Bool} {f : ρ → ρ}
    (hp : ∀ r, p r = true → q r = false) (hf : ∀ r, q (f r) = false) (rows : List ρ) :
    (updateWhere p f rows).filter q = rows.filter q := by
  induction rows with
  | nil => rfl
  | cons r rows ih =>
      rw [updateWhere_cons, List.filter_cons, List.filter_cons, ih]
      by_cases h : p r
      · simp [h, hf r, hp r h]
      · simp [h]

theorem filter_updateWhere_of_empty {p q : ρ → Bool} {f : ρ → ρ} {rows : List ρ}
    (hq : rows.filter q = []) (hf : ∀ r, q (f r) = true) :
    (updateWhere p f rows).filter q = (rows.filter p).map f := by
  induction rows with
  | nil => rfl
  | cons r rows ih =>
      have hr : q r = false := by simpa using List.filter_eq_nil_iff.mp hq r (by simp)
      have hrest : rows.filter q = [] := by
        simpa [hr] using hq
      rw [updateWhere_cons, List.filter_cons, List.filter_cons, ih hrest]
      by_cases h : p r
      · simp [h, hf r]
      · simp [h, hr]

/-- The first row of a selection after an update that keeps the selection. -/
theorem find?_updateWhere {p q : ρ → Bool} {f : ρ → ρ}
    (hq : ∀ r, q (f r) = q r) (rows : List ρ) :
    (updateWhere p f rows).find? q =
      (rows.find? q).map fun r => if p r then f r else r := by
  induction rows with
  | nil => rfl
  | cons r rows ih =>
      have hkeep : q (if p r then f r else r) = q r := by
        by_cases hp : p r <;> simp [hp, hq]
      rw [updateWhere_cons, List.find?_cons, List.find?_cons, hkeep]
      cases q r with
      | true => rfl
      | false => exact ih

theorem eq_of_key_eq {key : ρ → κ} {rows : List ρ} (h : (rows.map key).Nodup)
    {r r' : ρ} (hr : r ∈ rows) (hr' : r' ∈ rows) (hkey : key r = key r') :
    r = r' :=
  List.inj_on_of_nodup_map h hr hr' hkey

/-- A key selects its row alone. -/
theorem filter_eq_singleton {key : ρ → κ} {rows : List ρ} (h : (rows.map key).Nodup)
    {p : ρ → Bool} {r : ρ} (hr : r ∈ rows)
    (hp : ∀ r' ∈ rows, p r' = true ↔ key r' = key r) : rows.filter p = [r] := by
  induction rows with
  | nil => cases hr
  | cons r₀ rows ih =>
      obtain ⟨hnot, hnodup⟩ := List.nodup_cons.mp h
      rcases List.mem_cons.mp hr with rfl | hr'
      · have hrest : rows.filter p = [] := by
          refine List.filter_eq_nil_iff.mpr fun r' hr' hp' => hnot ?_
          rw [← (hp r' (List.mem_cons_of_mem _ hr')).mp hp']
          exact List.mem_map_of_mem hr'
        rw [List.filter_cons_of_pos ((hp r List.mem_cons_self).mpr rfl), hrest]
      · have hne : ¬ p r₀ = true := by
          intro hp₀
          refine hnot ?_
          rw [(hp r₀ List.mem_cons_self).mp hp₀]
          exact List.mem_map_of_mem hr'
        rw [List.filter_cons_of_neg hne]
        exact ih hnodup hr' fun r' hr' => hp r' (List.mem_cons_of_mem _ hr')

/-- A selection that finds no row but the new one. -/
theorem filter_append_singleton {p : ρ → Bool} {rows : List ρ} {r : ρ}
    (hrows : ∀ r' ∈ rows, p r' = false) (hr : p r = true) : (rows ++ [r]).filter p = [r] := by
  rw [List.filter_append, List.filter_eq_nil_iff.mpr fun r' hr' => by simp [hrows r' hr'],
    List.filter_cons_of_pos hr]
  rfl

/-- The first of the selected rows, where only one row is selected. -/
theorem find?_eq_some {p : ρ → Bool} {rows : List ρ} {r : ρ} (hr : r ∈ rows)
    (hp : p r = true) (hunique : ∀ r' ∈ rows, p r' = true → r' = r) :
    rows.find? p = some r := by
  cases hfind : rows.find? p with
  | none => exact absurd hp (List.find?_eq_none.mp hfind r hr)
  | some r' =>
      rw [hunique r' (List.mem_of_find?_eq_some hfind) (List.find?_some hfind)]

/-- A fresh key keeps the keys distinct. -/
theorem nodup_key_append {key : ρ → κ} {rows : List ρ} (h : (rows.map key).Nodup)
    {r : ρ} (hr : ∀ r' ∈ rows, key r' ≠ key r) :
    ((rows ++ [r]).map key).Nodup := by
  rw [List.map_append, List.map_singleton]
  refine List.nodup_append'.mpr ⟨h, List.nodup_singleton _, ?_⟩
  intro k hk hk'
  obtain ⟨r', hr', rfl⟩ := List.mem_map.mp hk
  exact hr r' hr' (List.mem_singleton.mp hk')

/-! ## Rows that are only added -/

/-- Rows are only added, under keys from `n` on and below `m`. -/
def Extends (key : ρ → ℕ) (n m : ℕ) (rows rows' : List ρ) : Prop :=
  ∃ new, rows' = rows ++ new ∧ ∀ r ∈ new, n ≤ key r ∧ key r < m

namespace Extends

variable {key : ρ → ℕ} {n m k : ℕ} {rows rows' rows'' : List ρ}

theorem refl (key : ρ → ℕ) (n m : ℕ) (rows : List ρ) : Extends key n m rows rows :=
  ⟨[], (List.append_nil rows).symm, nofun⟩

theorem of_eq (h : rows' = rows) : Extends key n m rows rows' :=
  h ▸ refl key n m rows

/-- One new row. -/
theorem append (rows : List ρ) {r : ρ} (hn : n ≤ key r) (hm : key r < m) :
    Extends key n m rows (rows ++ [r]) :=
  ⟨[r], rfl, List.forall_mem_singleton.mpr ⟨hn, hm⟩⟩

theorem mem (h : Extends key n m rows rows') {r : ρ} (hr : r ∈ rows) : r ∈ rows' := by
  obtain ⟨new, rfl, -⟩ := h
  exact List.mem_append_left new hr

theorem trans (h : Extends key n m rows rows') (h' : Extends key m k rows' rows'')
    (hn : n ≤ m) (hm : m ≤ k) : Extends key n k rows rows'' := by
  obtain ⟨new, rfl, hnew⟩ := h
  obtain ⟨new', rfl, hnew'⟩ := h'
  refine ⟨new ++ new', List.append_assoc rows new new', fun r hr => ?_⟩
  rcases List.mem_append.mp hr with hr | hr
  · exact ⟨(hnew r hr).1, Nat.lt_of_lt_of_le (hnew r hr).2 hm⟩
  · exact ⟨Nat.le_trans hn (hnew' r hr).1, (hnew' r hr).2⟩

/-- The keys of the added rows are bounded where those of the old ones are. -/
theorem forall_key_lt (h : Extends key n m rows rows') (hn : n ≤ m)
    (hrows : ∀ r ∈ rows, key r < n) : ∀ r ∈ rows', key r < m := by
  obtain ⟨new, rfl, hnew⟩ := h
  intro r hr
  rcases List.mem_append.mp hr with hr | hr
  · exact Nat.lt_of_lt_of_le (hrows r hr) hn
  · exact (hnew r hr).2

/-- A selection of old keys stays what it is. -/
theorem filter_eq (h : Extends key n m rows rows') {p : ρ → Bool}
    (hp : ∀ r, p r = true → key r < n) : rows'.filter p = rows.filter p := by
  obtain ⟨new, rfl, hnew⟩ := h
  have hnone : new.filter p = [] :=
    List.filter_eq_nil_iff.mpr fun r hr hpr =>
      Nat.lt_irrefl _ (Nat.lt_of_lt_of_le (hp r hpr) (hnew r hr).1)
  rw [List.filter_append, hnone, List.append_nil]

end Extends

/-! ## The first row of a kind -/

def updateFirst (p : ρ → Bool) (f : ρ → ρ) : List ρ → List ρ
  | [] => []
  | r :: rows => if p r then f r :: rows else r :: updateFirst p f rows

section UpdateFirst

variable {p : ρ → Bool} {f : ρ → ρ} {rows : List ρ} {r : ρ}

theorem map_updateFirst {key : ρ → κ} (hf : ∀ r, key (f r) = key r) (rows : List ρ) :
    (updateFirst p f rows).map key = rows.map key := by
  induction rows with
  | nil => rfl
  | cons r rows ih =>
      rw [updateFirst]
      split <;> simp [hf, ih]

/-- The first row of the kind is the changed one. -/
theorem find?_updateFirst (hf : ∀ r, p (f r) = p r) (rows : List ρ) :
    (updateFirst p f rows).find? p = (rows.find? p).map f := by
  induction rows with
  | nil => rfl
  | cons r rows ih =>
      by_cases hp : p r = true
      · simp [updateFirst, hp, hf]
      · simp [updateFirst, hp, ih]

theorem updateFirst_updateFirst {f' : ρ → ρ} (hf : ∀ r, p r = true → p (f r) = true)
    (rows : List ρ) : updateFirst p f' (updateFirst p f rows) = updateFirst p (f' ∘ f) rows := by
  induction rows with
  | nil => rfl
  | cons r rows ih =>
      by_cases hp : p r = true
      · simp [updateFirst, hp, hf r hp]
      · simp [updateFirst, hp, ih]

theorem mem_updateFirst_of_not (hr : r ∈ rows) (hp : ¬ p r = true) :
    r ∈ updateFirst p f rows := by
  induction rows with
  | nil => cases hr
  | cons r₀ rows ih =>
      rw [updateFirst]
      rcases List.mem_cons.mp hr with rfl | hr
      · rw [if_neg hp]
        exact List.mem_cons_self
      · split
        · exact List.mem_cons_of_mem _ hr
        · exact List.mem_cons_of_mem _ (ih hr)

/-- Where no other row is of the kind, all of its rows are changed. -/
theorem updateFirst_eq_updateWhere
    (h : rows.Pairwise fun r r' => p r = true → p r' = false) :
    updateFirst p f rows = updateWhere p f rows := by
  induction rows with
  | nil => rfl
  | cons r rows ih =>
      obtain ⟨hr, hrows⟩ := List.pairwise_cons.mp h
      rw [updateWhere_cons, updateFirst]
      by_cases hp : p r = true
      · rw [if_pos hp, if_pos hp, updateWhere_eq_self fun r' hr' => hr r' hr' hp]
      · rw [if_neg hp, if_neg hp, ih hrows]

theorem exists_split_of_find? (h : rows.find? p = some r) :
    ∃ before after, rows = before ++ r :: after ∧ (∀ r' ∈ before, ¬ p r' = true) ∧
      ∀ f : ρ → ρ, updateFirst p f rows = before ++ f r :: after := by
  induction rows with
  | nil => cases h
  | cons r₀ rows ih =>
      rw [List.find?_cons] at h
      cases hp : p r₀ with
      | true =>
          rw [hp] at h
          cases h
          exact ⟨[], rows, rfl, nofun, fun f => if_pos hp⟩
      | false =>
          rw [hp] at h
          obtain ⟨before, after, rfl, hbefore, hupdate⟩ := ih h
          have hne : ¬ p r₀ = true := Bool.eq_false_iff.mp hp
          refine ⟨r₀ :: before, after, rfl, List.forall_mem_cons.mpr ⟨hne, hbefore⟩, fun f => ?_⟩
          rw [updateFirst, if_neg hne, hupdate, List.cons_append]

end UpdateFirst

end Table

namespace Supply

variable {n m n' : ℕ} {ids ids' : List ℕ}

/-- Identifiers that are drawn, in this order, while the supply goes from `n` to `n'`. -/
structure Drawn (n n' : ℕ) (ids : List ℕ) : Prop where
  le : n ≤ n'
  increasing : ids.Pairwise (· < ·)
  within : ∀ id ∈ ids, n ≤ id ∧ id < n'

namespace Drawn

theorem nil (h : n ≤ n') : Drawn n n' [] where
  le := h
  increasing := List.Pairwise.nil
  within _ hid := by cases hid

theorem one (n : ℕ) : Drawn n (n + 1) [n] where
  le := n.le_succ
  increasing := List.pairwise_singleton _ n
  within := List.forall_mem_singleton.mpr ⟨Nat.le_refl n, n.lt_succ_self⟩

theorem append (h : Drawn n m ids) (h' : Drawn m n' ids') : Drawn n n' (ids ++ ids') where
  le := Nat.le_trans h.le h'.le
  increasing := List.pairwise_append.mpr ⟨h.increasing, h'.increasing, fun id hid id' hid' =>
    Nat.lt_of_lt_of_le (h.within id hid).2 (h'.within id' hid').1⟩
  within := List.forall_mem_append.mpr
    ⟨fun id hid => ⟨(h.within id hid).1, Nat.lt_of_lt_of_le (h.within id hid).2 h'.le⟩,
      fun id hid => ⟨Nat.le_trans h.le (h'.within id hid).1, (h'.within id hid).2⟩⟩

theorem two (n : ℕ) : Drawn n (n + 2) [n, n + 1] := (one n).append (one (n + 1))

theorem mono (h : Drawn n m ids) (hle : m ≤ n') : Drawn n n' ids := by
  have := h.append (nil hle)
  rwa [List.append_nil] at this

end Drawn

end Supply
