import Aico.Foundation.NonInterference
import Aico.Tenancy.Portion

/-!
# What a founder can tell apart

Two databases are alike to a founder when the portions of his company and himself are equal.
`Alike` is the relation that his operations keep: the worlds are alike, and what is not his is
as it was in the worlds the operations started from. Each statement of an operation has its
rule here.
-/

namespace Aico

/-- A founder and his company. -/
structure TenantScope where
  companyId : Uuid
  founderId : Uuid

namespace TenantScope

def own (t : TenantScope) : Portion where
  has
    | .company id => id = t.companyId
    | .founder id => id = t.founderId
    | .consumer => false
  hasKey key := ( objectKeyScope t.companyId .attachment).isPrefixOf key

variable (t : TenantScope)

@[simp] theorem own_company {id : Uuid} :
    t.own.has (.company id) = true ↔ id = t.companyId := decide_eq_true_iff

@[simp] theorem own_founder {id : Uuid} :
    t.own.has (.founder id) = true ↔ id = t.founderId := decide_eq_true_iff

/-- What the keys of the tables promise: the founder has no other company, and the rows of
the other companies refer to initiatives of theirs and to runs that have been drawn. -/
structure WellFormed (w : World) : Prop where
  company : ∀ c ∈ w.db.companies, c.founderId = t.founderId → c.id = t.companyId
  initiatives : ∀ g ∈ w.db.goalVersions, g.companyId ≠ t.companyId →
    ∀ i ∈ w.db.initiatives, i.companyId = t.companyId → g.initiativeId ≠ i.id
  goals : ∀ g ∈ w.db.goalVersions, g.companyId ≠ t.companyId → g.initiativeId < w.nextId
  events : ∀ e ∈ w.db.events, e.companyId ≠ t.companyId → ∀ r, e.runId = some r → r < w.nextId

structure Beside (w₀ w : World) : Prop where
  others : w.db.portion t.own.compl = w₀.db.portion t.own.compl
  objects : (w.objects.filter fun o => !t.own.hasKey o.1) =
    w₀.objects.filter fun o => !t.own.hasKey o.1
  nextId : w₀.nextId ≤ w.nextId
  company : ∀ c ∈ w.db.companies, c.founderId = t.founderId → c.id = t.companyId
  initiatives : ∀ g ∈ w₀.db.goalVersions, g.companyId ≠ t.companyId →
    ∀ i ∈ w.db.initiatives, i.companyId = t.companyId → g.initiativeId ≠ i.id

/-- The worlds are alike, and beside them nothing has changed since `w₀` and `w₀'`. -/
structure Alike (w₀ w₀' w w' : World) : Prop where
  same : w.portion t.own = w'.portion t.own
  left : t.Beside w₀ w
  right : t.Beside w₀' w'

/-- The change is one of rows of the founder or his company. -/
structure Within (f : Db → Db) : Prop where
  inside : ∀ db, (f db).portion t.own = f (db.portion t.own)
  outside : ∀ db, (f db).portion t.own.compl = db.portion t.own.compl

/-- The query finds in the portion what it finds in the database. -/
def Sees {α : Type} (f : Db → α) : Prop := ∀ db, f (db.portion t.own) = f db

variable {t} {ρ : Type} {w₀ w₀' w w' : World}

theorem WellFormed.beside (h : t.WellFormed w) : t.Beside w w where
  others := rfl
  objects := rfl
  nextId := Nat.le_refl _
  company := h.company
  initiatives := h.initiatives

theorem WellFormed.alike (h : t.WellFormed w) (h' : t.WellFormed w')
    (hsame : w.portion t.own = w'.portion t.own) : t.Alike w w' w w' where
  same := hsame
  left := h.beside
  right := h'.beside

/-- A row that is not the founder's was there before. -/
theorem Beside.mem (h : t.Beside w₀ w) (T : OwnedTable ρ) {r : ρ} (hr : r ∈ T.rows w.db)
    (hown : t.own.has (T.owner r) = false) : r ∈ T.rows w₀.db := by
  have hrows := congrArg T.rows h.others
  rw [T.rows_portion, T.rows_portion] at hrows
  have hmem : r ∈ (T.rows w.db).filter fun r => t.own.compl.has (T.owner r) :=
    List.mem_filter.mpr ⟨hr, by simp [Portion.compl, hown]⟩
  rw [hrows] at hmem
  exact List.mem_of_mem_filter hmem

theorem Alike.db (h : t.Alike w₀ w₀' w w') : w.db.portion t.own = w'.db.portion t.own :=
  congrArg World.db h.same

theorem Alike.rows (h : t.Alike w₀ w₀' w w') (T : OwnedTable ρ) :
    ((T.rows w.db).filter fun r => t.own.has (T.owner r)) =
      (T.rows w'.db).filter fun r => t.own.has (T.owner r) := by
  rw [← T.rows_portion, ← T.rows_portion, h.db]

theorem Alike.nextId (h : t.Alike w₀ w₀' w w') : w.nextId = w'.nextId :=
  (congrArg World.nextId h.same :)

theorem Alike.now (h : t.Alike w₀ w₀' w w') : w.now = w'.now :=
  (congrArg World.now h.same :)

theorem Alike.objects (h : t.Alike w₀ w₀' w w') :
    (w.objects.filter fun o => t.own.hasKey o.1) =
      w'.objects.filter fun o => t.own.hasKey o.1 := congrArg World.objects h.same

theorem Alike.of_sees {α : Type} {f : Db → α} (h : t.Alike w₀ w₀' w w') (hf : t.Sees f) :
    f w.db = f w'.db := by
  rw [← hf w.db, ← hf w'.db, h.db]

/-! ## Changes -/

theorem within_insert (T : OwnedTable ρ) {new : List ρ}
    (h : ∀ r ∈ new, t.own.has (T.owner r) = true) :
    t.Within fun db => T.put (T.rows db ++ new) db where
  inside _ := T.portion_insert_of_has h
  outside _ := T.portion_insert_of_not fun r hr => by simp [Portion.compl, h r hr]

theorem within_update (T : OwnedTable ρ) {q : ρ → Bool} {f : ρ → ρ}
    (hf : ∀ r, T.owner (f r) = T.owner r)
    (hq : ∀ r, q r = true → t.own.has (T.owner r) = true) :
    t.Within fun db => T.put (Table.updateWhere q f (T.rows db)) db where
  inside _ := T.portion_update hf
  outside _ := T.portion_update_of_not hf fun r hr => by simp [Portion.compl, hq r hr]

theorem within_id : t.Within fun db => db where
  inside _ := rfl
  outside _ := rfl

/-! ## Queries -/

theorem sees_filter (T : OwnedTable ρ) {q : ρ → Bool}
    (hq : ∀ r, q r = true → t.own.has (T.owner r) = true) :
    t.Sees fun db => (T.rows db).filter q := by
  intro db
  show (T.rows (db.portion t.own)).filter q = (T.rows db).filter q
  rw [T.rows_portion]
  exact Table.filter_filter_of_imp hq _

theorem sees_any (T : OwnedTable ρ) {q : ρ → Bool}
    (hq : ∀ r, q r = true → t.own.has (T.owner r) = true) :
    t.Sees fun db => (T.rows db).any q := by
  intro db
  show (T.rows (db.portion t.own)).any q = (T.rows db).any q
  rw [T.rows_portion]
  exact Table.any_filter_of_imp fun r _ => hq r

theorem sees_find? (T : OwnedTable ρ) {q : ρ → Bool}
    (hq : ∀ r, q r = true → t.own.has (T.owner r) = true) :
    t.Sees fun db => (T.rows db).find? q := by
  intro db
  show (T.rows (db.portion t.own)).find? q = (T.rows db).find? q
  rw [T.rows_portion]
  exact Table.find?_filter_of_imp hq _

theorem Sees.map {α β : Type} {f : Db → α} (hf : t.Sees f) (g : α → β) :
    t.Sees fun db => g (f db) := fun db => congrArg g (hf db)

/-! ## Statements -/

section Statements

variable {α : Type} {f : Db → α} {g : Db → Db}

theorem agrees_query (hf : ∀ w w', t.Alike w₀ w₀' w w' → f w.db = f w'.db) :
    Prog.Agrees (t.Alike w₀ w₀') (Op.query f) :=
  .gets fun w w' h => hf w w' h

theorem agrees_sees (hf : t.Sees f) : Prog.Agrees (t.Alike w₀ w₀') (Op.query f) :=
  agrees_query fun _ _ h => h.of_sees hf

theorem agrees_now : Prog.Agrees (t.Alike w₀ w₀') Op.now := .gets fun _ _ h => h.now

theorem agrees_newId : Prog.Agrees (t.Alike w₀ w₀') Op.newId := by
  intro w w' h
  refine ⟨congrArg Except.ok h.nextId, ⟨?_, ?_, ?_⟩⟩
  · show { w.portion t.own with nextId := w.nextId + 1 } =
      { w'.portion t.own with nextId := w'.nextId + 1 }
    rw [h.same, h.nextId]
  · exact { h.left with nextId := Nat.le_succ_of_le h.left.nextId }
  · exact { h.right with nextId := Nat.le_succ_of_le h.right.nextId }

/-- A drawn identifier is new. -/
theorem le_of_newId {id : Uuid} {v : World} (h : t.Alike w₀ w₀' w w')
    (hrun : Op.newId w = (.ok id, v)) : w₀.nextId ≤ id := by
  obtain rfl : w.nextId = id := Except.ok.inj (congrArg Prod.fst hrun)
  exact h.left.nextId

/-- A change of rows of the founder that leaves him no other company, and his company no
initiative that others refer to. -/
theorem agrees_exec_of (hg : t.Within g)
    (hcompany : ∀ db : Db, (∀ c ∈ db.companies, c.founderId = t.founderId → c.id = t.companyId) →
      ∀ c ∈ (g db).companies, c.founderId = t.founderId → c.id = t.companyId)
    (hinitiatives : ∀ db, ∀ i ∈ (g db).initiatives,
      (∃ i₀ ∈ db.initiatives, i₀.id = i.id ∧ i₀.companyId = i.companyId) ∨
        ∀ g ∈ w₀.db.goalVersions ++ w₀'.db.goalVersions, g.companyId ≠ t.companyId →
          g.initiativeId ≠ i.id) :
    Prog.Agrees (t.Alike w₀ w₀') (Op.exec g) := by
  have hbeside : ∀ {v₀ v : World}, t.Beside v₀ v →
      (∀ g ∈ v₀.db.goalVersions, g ∈ w₀.db.goalVersions ++ w₀'.db.goalVersions) →
      t.Beside v₀ { v with db := g v.db } := by
    intro v₀ v h hgoals
    refine ⟨(hg.outside v.db).trans h.others, h.objects, h.nextId, hcompany _ h.company, ?_⟩
    intro gv hgv hother i hi hown
    rcases hinitiatives v.db i hi with ⟨i₀, hi₀, hid, hcompany⟩ | hnew
    · rw [← hid]
      exact h.initiatives gv hgv hother i₀ hi₀ (hcompany.trans hown)
    · exact hnew gv (hgoals gv hgv) hother
  intro w w' h
  refine ⟨rfl, ⟨?_, hbeside h.left fun g => List.mem_append_left _,
    hbeside h.right fun g => List.mem_append_right _⟩⟩
  show { w.portion t.own with db := (g w.db).portion t.own } =
    { w'.portion t.own with db := (g w'.db).portion t.own }
  rw [hg.inside, hg.inside, h.db, h.same]

theorem agrees_exec (hg : t.Within g) (hcompanies : ∀ db, (g db).companies = db.companies)
    (hinitiatives : ∀ db, (g db).initiatives = db.initiatives) :
    Prog.Agrees (t.Alike w₀ w₀') (Op.exec g) := by
  refine agrees_exec_of hg (fun db h => ?_) fun db i hi => ?_
  · rw [hcompanies db]
    exact h
  · rw [hinitiatives db] at hi
    exact .inl ⟨i, hi, rfl, rfl⟩

theorem agrees_transaction {p : Op α} (hp : Prog.Agrees (t.Alike w₀ w₀') p) :
    Prog.Agrees (t.Alike w₀ w₀') (Op.transaction p) := by
  refine .transaction hp fun w w' v v' h h' => ⟨?_, ?_, ?_⟩
  · show { v.portion t.own with db := w.db.portion t.own } =
      { v'.portion t.own with db := w'.db.portion t.own }
    rw [h.db, h'.same]
  · exact ⟨h.left.others, h'.left.objects, h'.left.nextId, h.left.company, h.left.initiatives⟩
  · exact ⟨h.right.others, h'.right.objects, h'.right.nextId, h.right.company,
      h.right.initiatives⟩

end Statements

end TenantScope

end Aico
