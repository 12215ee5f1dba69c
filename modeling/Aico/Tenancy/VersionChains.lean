import Aico.Tenancy.VersionedCalls

/-!
# Version chains

The row version of a company is the version of its current profile, that of an
initiative is one more than the number of its goal versions, and both kinds of
versions count up from one without a gap (`VersionChains`). So an update that
commits has seen the row version, and moves it on: of the updates that carry the
same expected version at most one commits.
-/

namespace Aico

/-- The versions of companies and initiatives are in step with their row versions. -/
structure VersionChains (t : VersionedTables) : Prop where
  company : ∀ c ∈ t.companies,
    Version.Chain CompanyProfileVersionRow.companyId CompanyProfileVersionRow.version c.id
      c.rowVersion t.companyProfileVersions ∧
    ∃ v ∈ t.companyProfileVersions, v.companyId = c.id ∧
      c.currentProfileVersionId = some v.id ∧ v.version = c.rowVersion
  initiative : ∀ i ∈ t.initiatives, ∃ n,
    Version.Chain GoalVersionRow.initiativeId GoalVersionRow.version i.id n t.goalVersions ∧
    i.rowVersion = 1 + n ∧
    (n = 0 ∧ i.currentGoalVersionId = none ∨
      0 < n ∧ ∃ g ∈ t.goalVersions, g.initiativeId = i.id ∧
        i.currentGoalVersionId = some g.id ∧ g.version = n)
  single : ∀ companyId, (t.initiatives.filter fun i => i.companyId = companyId ∧
    i.type = "PROTOTYPE" ∧ (i.status = .draft ∨ i.status = .active)).length ≤ 1

def VersionedTables.rowVersion (t : VersionedTables) : Resource → Option ℕ
  | .company founderId =>
      (t.companies.find? fun c => c.founderId = founderId).map CompanyRow.rowVersion
  | .initiative initiativeId =>
      (t.initiatives.find? fun i => i.id = initiativeId).map InitiativeRow.rowVersion

namespace VersionedTables

/-- Identifiers are distinct and drawn, and a goal version is of the company of its
initiative. -/
structure Keyed (t : VersionedTables) (n : ℕ) : Prop where
  companies : (t.companies.map CompanyRow.id).Nodup ∧ ∀ c ∈ t.companies, c.id < n
  founders : (t.companies.map CompanyRow.founderId).Nodup
  profiles : (t.companyProfileVersions.map CompanyProfileVersionRow.id).Nodup ∧
    ∀ v ∈ t.companyProfileVersions, v.id < n ∧ v.companyId < n
  initiatives : (t.initiatives.map InitiativeRow.id).Nodup ∧ ∀ i ∈ t.initiatives, i.id < n
  goals : ∀ g ∈ t.goalVersions, g.initiativeId < n ∧
    ∀ i ∈ t.initiatives, i.id = g.initiativeId → i.companyId = g.companyId

/-- The invariant of the commands. -/
structure Inv (t : VersionedTables) (n : ℕ) : Prop where
  keyed : t.Keyed n
  chains : VersionChains t

variable {call : VersionedCall} {t t' : VersionedTables} {n n' m : ℕ}

theorem Keyed.mono (h : t.Keyed n) (hn : n ≤ n') : t.Keyed n' where
  companies := ⟨h.companies.1, fun c hc => Nat.lt_of_lt_of_le (h.companies.2 c hc) hn⟩
  founders := h.founders
  profiles := ⟨h.profiles.1, fun v hv => (h.profiles.2 v hv).imp
    (fun hid => Nat.lt_of_lt_of_le hid hn) fun hid => Nat.lt_of_lt_of_le hid hn⟩
  initiatives := ⟨h.initiatives.1, fun i hi => Nat.lt_of_lt_of_le (h.initiatives.2 i hi) hn⟩
  goals g hg := ⟨Nat.lt_of_lt_of_le (h.goals g hg).1 hn, (h.goals g hg).2⟩

/-! ## Profiles -/

theorem Inv.profileAdded (h : t.Inv n) {c : CompanyRow} (hc : c ∈ t.companies)
    {row : CompanyProfileVersionRow} (hrow : row.companyId = c.id)
    (hversion : row.version = c.rowVersion + 1) (hid : n ≤ row.id) (hn : row.id < n')
    (now : Timestamp) : (t.profileAdded c.id c.founderId row 1 now).Inv n' := by
  have hle : n ≤ n' := Nat.le_trans hid (Nat.le_of_lt hn)
  have hkeyed := h.keyed.mono hle
  have hids : ∀ {κ : Type} (key : CompanyRow → κ),
      (∀ c, key (Companies.withProfile row.id 1 now c) = key c) →
      (t.profileAdded c.id c.founderId row 1 now).companies.map key = t.companies.map key :=
    fun key hkey => Table.map_updateWhere hkey _
  refine ⟨⟨?_, ?_, ?_, hkeyed.initiatives, hkeyed.goals⟩,
    ⟨?_, h.chains.initiative, h.chains.single⟩⟩
  · refine ⟨by rw [hids _ fun _ => rfl]; exact hkeyed.companies.1, ?_⟩
    refine Table.forall_mem_updateWhere.mpr fun c' hc' => ?_
    rw [apply_ite CompanyRow.id]
    exact (ite_self _).symm ▸ hkeyed.companies.2 c' hc'
  · rw [hids _ fun _ => rfl]
    exact hkeyed.founders
  · refine ⟨Table.nodup_key_append hkeyed.profiles.1 fun v hv heq => ?_, fun v hv => ?_⟩
    · have hlt := (h.keyed.profiles.2 v hv).1
      rw [heq] at hlt
      exact absurd hlt (Nat.not_lt.mpr hid)
    · rcases List.mem_append.mp hv with hv | hv
      · exact hkeyed.profiles.2 v hv
      · rw [List.mem_singleton.mp hv]
        exact ⟨hn, hrow ▸ hkeyed.companies.2 c hc⟩
  · refine Table.forall_mem_updateWhere.mpr fun c' hc' => ?_
    obtain ⟨hchain, v, hv, hcompany, hcurrent, hlast⟩ := h.chains.company c' hc'
    by_cases heq : c'.id = c.id
    · obtain rfl := Table.eq_of_key_eq h.keyed.companies.1 hc' hc heq
      simp only [decide_eq_true_eq, and_self, if_true]
      exact ⟨hchain.append hrow hversion, row, List.mem_append_right _ (List.mem_singleton_self _),
        hrow, rfl, hversion⟩
    · simp only [heq, decide_eq_true_eq, false_and, if_false]
      refine ⟨hchain.append_of_ne fun howner => heq (howner.symm.trans hrow), v,
        List.mem_append_left _ hv, hcompany, hcurrent, hlast⟩

theorem Inv.provisioned (h : t.Inv n) (actor : RequestActor) (dto : CreateCompanyDto)
    (now : Timestamp) (hfounder : ∀ c ∈ t.companies, c.founderId ≠ actor.id) (hm : n ≤ m)
    (hn : m + 2 ≤ n') :
    (VersionedTables.profileAdded m actor.id
      (Companies.profileRow m (m + 1) 1 actor dto.profile now) 0 now
      { t with companies := t.companies ++ [Companies.companyRow m actor dto.name now] }).Inv
        n' := by
  have hle : n ≤ n' := Nat.le_trans hm (Nat.le_trans (Nat.le_add_right m 2) hn)
  have hkeyed := h.keyed.mono hle
  set row := Companies.profileRow m (m + 1) 1 actor dto.profile now with hrow
  set company := Companies.withProfile row.id 0 now
    (Companies.companyRow m actor dto.name now) with hcompany
  have hfresh : ∀ c ∈ t.companies, c.id ≠ m := fun c hc heq =>
    absurd (h.keyed.companies.2 c hc) (Nat.not_lt.mpr (heq ▸ hm))
  have hcompanies : (VersionedTables.profileAdded m actor.id row 0 now
      { t with companies := t.companies ++ [Companies.companyRow m actor dto.name now] }).companies =
        t.companies ++ [company] := by
    refine Table.updateWhere_append_singleton (fun c hc => ?_) ?_
    · simp [hfresh c hc]
    · simp [Companies.companyRow]
  refine ⟨⟨?_, ?_, ?_, hkeyed.initiatives, hkeyed.goals⟩,
    ⟨?_, h.chains.initiative, h.chains.single⟩⟩
  · rw [hcompanies]
    refine ⟨Table.nodup_key_append hkeyed.companies.1 hfresh, fun c hc => ?_⟩
    rcases List.mem_append.mp hc with hc | hc
    · exact hkeyed.companies.2 c hc
    · rw [List.mem_singleton.mp hc]
      exact Nat.lt_of_lt_of_le (Nat.lt_add_of_pos_right (Nat.zero_lt_two)) hn
  · rw [hcompanies]
    exact Table.nodup_key_append hkeyed.founders hfounder
  · refine ⟨Table.nodup_key_append hkeyed.profiles.1 fun v hv heq => ?_, fun v hv => ?_⟩
    · have hlt := (h.keyed.profiles.2 v hv).1
      rw [heq] at hlt
      exact absurd hlt (Nat.not_lt.mpr (Nat.le_succ_of_le hm))
    · rcases List.mem_append.mp hv with hv | hv
      · exact hkeyed.profiles.2 v hv
      · rw [List.mem_singleton.mp hv]
        exact ⟨hn, Nat.lt_of_lt_of_le (Nat.lt_add_of_pos_right (Nat.zero_lt_two)) hn⟩
  · rw [hcompanies]
    intro c hc
    rcases List.mem_append.mp hc with hc | hc
    · obtain ⟨hchain, v, hv, hcompany, hcurrent, hlast⟩ := h.chains.company c hc
      exact ⟨hchain.append_of_ne (hfresh c hc).symm, v, List.mem_append_left _ hv, hcompany,
        hcurrent, hlast⟩
    · obtain rfl := List.mem_singleton.mp hc
      refine ⟨?_, row, List.mem_append_right _ (List.mem_singleton_self _), rfl, rfl, rfl⟩
      refine Version.Chain.append (n := 0) (Version.Chain.of_forall_ne fun v hv heq => ?_) rfl rfl
      exact absurd (h.keyed.profiles.2 v hv).2 (Nat.not_lt.mpr (heq ▸ hm))

/-! ## Initiatives -/

theorem isActivePrototype_eq (companyId : Uuid) :
    Initiatives.isActivePrototype companyId = fun i => decide (i.companyId = companyId ∧
      i.type = "PROTOTYPE" ∧ (i.status = .draft ∨ i.status = .active)) := by
  funext i
  cases hstatus : i.status <;>
    simp [Initiatives.isActivePrototype, InitiativeStatus.isOpen, hstatus]

theorem Inv.initiativeOpened (h : t.Inv n) (companyId : Uuid) (title : JsString)
    (now : Timestamp)
    (hnone : ∀ i ∈ t.initiatives, Initiatives.isActivePrototype companyId i = false)
    (hm : n ≤ m) (hn : m + 1 ≤ n') :
    ({ t with
        initiatives := t.initiatives ++
          [Initiatives.initiativeRow companyId m title now] } : VersionedTables).Inv n' := by
  have hle : n ≤ n' := Nat.le_trans hm (Nat.le_trans (Nat.le_succ m) hn)
  have hkeyed := h.keyed.mono hle
  have hfresh : ∀ i ∈ t.initiatives, i.id ≠ m := fun i hi heq =>
    absurd (h.keyed.initiatives.2 i hi) (Nat.not_lt.mpr (heq ▸ hm))
  have hgoals : ∀ g ∈ t.goalVersions, g.initiativeId ≠ m := fun g hg heq =>
    absurd (h.keyed.goals g hg).1 (Nat.not_lt.mpr (heq ▸ hm))
  refine ⟨⟨hkeyed.companies, hkeyed.founders, hkeyed.profiles, ?_, fun g hg => ?_⟩,
    ⟨h.chains.company, fun i hi => ?_, fun companyId' => ?_⟩⟩
  · refine ⟨Table.nodup_key_append hkeyed.initiatives.1 hfresh, fun i hi => ?_⟩
    rcases List.mem_append.mp hi with hi | hi
    · exact hkeyed.initiatives.2 i hi
    · rw [List.mem_singleton.mp hi]
      exact hn
  · refine ⟨(hkeyed.goals g hg).1, fun i hi heq => ?_⟩
    rcases List.mem_append.mp hi with hi | hi
    · exact (hkeyed.goals g hg).2 i hi heq
    · obtain rfl := List.mem_singleton.mp hi
      exact absurd heq.symm (hgoals g hg)
  · rcases List.mem_append.mp hi with hi | hi
    · exact h.chains.initiative i hi
    · obtain rfl := List.mem_singleton.mp hi
      exact ⟨0, .of_forall_ne hgoals, rfl, .inl ⟨rfl, rfl⟩⟩
  · rw [← isActivePrototype_eq, List.filter_append, List.length_append]
    by_cases heq : companyId' = companyId
    · have hempty : t.initiatives.filter (Initiatives.isActivePrototype companyId') = [] :=
        List.filter_eq_nil_iff.mpr fun i hi => by simp [heq, hnone i hi]
      rw [hempty]
      exact Nat.le_trans (Nat.add_le_add_left (List.length_filter_le _ _) _) (Nat.le_refl 1)
    · have hother : [Initiatives.initiativeRow companyId m title now].filter
          (Initiatives.isActivePrototype companyId') = [] := by
        simp [Initiatives.isActivePrototype, Initiatives.initiativeRow, Ne.symm heq]
      rw [hother, isActivePrototype_eq]
      exact h.chains.single companyId'

theorem Inv.goalAdded (h : t.Inv n) {i : InitiativeRow} (hi : i ∈ t.initiatives)
    (hopen : i.status.isOpen = true) {row : GoalVersionRow} (hrow : row.initiativeId = i.id)
    (hcompany : row.companyId = i.companyId)
    (hversion : row.version = Initiatives.nextGoalVersion i.companyId i.id t.goalVersions)
    (hn : n ≤ n') (now : Timestamp) :
    ({ t with
        goalVersions := t.goalVersions ++ [row]
        initiatives := Table.updateWhere (fun j => j.companyId = i.companyId ∧ j.id = i.id)
          (Initiatives.withGoal row.id now) t.initiatives } : VersionedTables).Inv n' := by
  have hkeyed := h.keyed.mono hn
  have hself : ∀ j ∈ t.initiatives, j.id = i.id → j = i := fun j hj heq =>
    Table.eq_of_key_eq h.keyed.initiatives.1 hj hi heq
  have hnext : row.version = i.rowVersion := by
    obtain ⟨k, hchain, hk, -⟩ := h.chains.initiative i hi
    have howner : (t.goalVersions.filter fun g => g.companyId = i.companyId ∧
        g.initiativeId = i.id) = t.goalVersions.filter fun g => g.initiativeId = i.id := by
      refine List.filter_congr fun g hg => ?_
      by_cases heq : g.initiativeId = i.id
      · simp [heq, (h.keyed.goals g hg).2 i hi heq.symm]
      · simp [heq]
    rw [hversion, Initiatives.nextGoalVersion, howner, hchain.foldl_max, hk, Nat.add_comm]
  refine ⟨⟨hkeyed.companies, hkeyed.founders, hkeyed.profiles, ?_, fun g hg => ?_⟩,
    ⟨h.chains.company, ?_, fun companyId => ?_⟩⟩
  · refine ⟨by rw [Table.map_updateWhere fun _ => by rfl]; exact hkeyed.initiatives.1, ?_⟩
    refine Table.forall_mem_updateWhere.mpr fun j hj => ?_
    rw [apply_ite InitiativeRow.id]
    exact (ite_self _).symm ▸ hkeyed.initiatives.2 j hj
  · have hkeep : ∀ g : GoalVersionRow,
        (∀ j ∈ t.initiatives, j.id = g.initiativeId → j.companyId = g.companyId) →
        ∀ j ∈ Table.updateWhere (fun j => j.companyId = i.companyId ∧ j.id = i.id)
          (Initiatives.withGoal row.id now) t.initiatives,
          j.id = g.initiativeId → j.companyId = g.companyId := by
      intro g hg
      refine Table.forall_mem_updateWhere.mpr fun j hj => ?_
      split
      · exact hg j hj
      · exact hg j hj
    rcases List.mem_append.mp hg with hg | hg
    · exact ⟨(hkeyed.goals g hg).1, hkeep g (h.keyed.goals g hg).2⟩
    · obtain rfl := List.mem_singleton.mp hg
      refine ⟨hrow ▸ hkeyed.initiatives.2 i hi, hkeep g fun j hj heq => ?_⟩
      rw [hself j hj (heq.trans hrow), hcompany]
  · refine Table.forall_mem_updateWhere.mpr fun j hj => ?_
    obtain ⟨k, hchain, hk, hcurrent⟩ := h.chains.initiative j hj
    by_cases heq : j.id = i.id
    · obtain rfl := hself j hj heq
      simp only [decide_eq_true_eq, and_self, if_true]
      refine ⟨k + 1, hchain.append hrow (by omega), ?_, .inr ⟨Nat.succ_pos k, row,
        List.mem_append_right _ (List.mem_singleton_self _), hrow, rfl, by omega⟩⟩
      change j.rowVersion + 1 = 1 + (k + 1)
      omega
    · simp only [heq, decide_eq_true_eq, and_false, if_false]
      refine ⟨k, hchain.append_of_ne fun howner => heq (howner.symm.trans hrow), hk, ?_⟩
      refine hcurrent.imp id fun ⟨hpos, g, hg, hrest⟩ =>
        ⟨hpos, g, List.mem_append_left _ hg, hrest⟩
  · rw [← isActivePrototype_eq, Table.filter_updateWhere_of_mem, Table.length_updateWhere]
    · rw [isActivePrototype_eq]
      exact h.chains.single companyId
    · intro j hj hp
      simp only [decide_eq_true_eq] at hp
      obtain rfl := hself j hj hp.2
      have hactive : InitiativeStatus.active.isOpen = true := rfl
      simp [Initiatives.isActivePrototype, Initiatives.withGoal, hopen, hactive]

/-- A call that commits keeps the invariant. -/
theorem Inv.step (h : t.Inv n) (hstep : VersionedStep call n t n' t') : t'.Inv n' := by
  cases hstep with
  | provision actor idempotencyKey correlationId dto n m n' now t hfounder hm hn =>
      exact h.provisioned actor dto now hfounder hm hn
  | replaceProfile actor idempotencyKey expectedVersion correlationId dto n m n' now t c v hc hv
      hfounder hcompany hcurrent hversion hm hn =>
      obtain ⟨-, v', hv', -, hcurrent', hlast⟩ := h.chains.company c hc
      have hid : v.id = v'.id := Option.some.inj (hcurrent.symm.trans hcurrent')
      obtain rfl := Table.eq_of_key_eq h.keyed.profiles.1 hv hv' hid
      rw [← hfounder]
      exact h.profileAdded hc rfl (congrArg (· + 1) hlast) hm hn now
  | openInitiative actor idempotencyKey correlationId dto companyId n m n' now t hnone hm hn =>
      exact h.initiativeOpened companyId dto.title.trim now hnone hm hn
  | addGoal actor initiativeId expectedVersion idempotencyKey correlationId dto companyId n m n'
      ids now t i hi hcompany hid hopen hversion hids hm hn =>
      rw [← hcompany, ← hid]
      have hrow : (Initiatives.goalVersionRow i.companyId i.id actor ids
          (Initiatives.nextGoalVersion i.companyId i.id t.goalVersions) dto now).initiativeId =
            i.id := rfl
      exact h.goalAdded hi hopen hrow rfl rfl (Nat.le_trans hm (Nat.le_of_succ_le hn)) now

/-! ## Row versions -/

/-- A new row does not change which row is found first. -/
theorem find?_append_of_some {ρ : Type} {p : ρ → Bool} {rows rows' : List ρ} {r : ρ}
    (h : rows.find? p = some r) : (rows ++ rows').find? p = some r := by
  rw [List.find?_append, h, Option.some_or]

/-- A call that commits an update has seen the row version, and moves it on. -/
theorem Inv.rowVersion_of_expects (h : t.Inv n) (hstep : VersionedStep call n t n' t')
    {resource : Resource} {version : ℕ} (hexpects : call.expects = some (resource, version)) :
    t.rowVersion resource = some version ∧ t'.rowVersion resource = some (version + 1) := by
  cases hstep with
  | provision => cases hexpects
  | openInitiative => cases hexpects
  | replaceProfile actor idempotencyKey expectedVersion correlationId dto n m n' now t c v hc hv
      hfounder hcompany hcurrent hversion hm hn =>
      obtain ⟨rfl, rfl⟩ := Prod.mk.inj (Option.some.inj hexpects)
      obtain ⟨-, v', hv', -, hcurrent', hlast⟩ := h.chains.company c hc
      have hid : v.id = v'.id := Option.some.inj (hcurrent.symm.trans hcurrent')
      obtain rfl := Table.eq_of_key_eq h.keyed.profiles.1 hv hv' hid
      have hfind : t.companies.find? (fun c => c.founderId = actor.id) = some c := by
        refine Table.find?_eq_some hc (by simp [hfounder]) fun c' hc' hp => ?_
        simp only [decide_eq_true_eq] at hp
        exact Table.eq_of_key_eq h.keyed.founders hc' hc (hp.trans hfounder.symm)
      have hrow : c.rowVersion = expectedVersion := hlast.symm.trans hversion
      constructor
      · rw [rowVersion, hfind, Option.map_some, hrow]
      · rw [rowVersion, VersionedTables.profileAdded,
          Table.find?_updateWhere fun _ => by rfl, hfind]
        simp [Companies.withProfile, hfounder, hrow]
  | addGoal actor initiativeId expectedVersion idempotencyKey correlationId dto companyId n m n'
      ids now t i hi hcompany hid hopen hversion hids hm hn =>
      obtain ⟨rfl, rfl⟩ := Prod.mk.inj (Option.some.inj hexpects)
      have hfind : t.initiatives.find? (fun i => i.id = initiativeId.value) = some i := by
        refine Table.find?_eq_some hi (by simp [hid]) fun j hj hp => ?_
        simp only [decide_eq_true_eq] at hp
        exact Table.eq_of_key_eq h.keyed.initiatives.1 hj hi (hp.trans hid.symm)
      constructor
      · rw [rowVersion, hfind, Option.map_some, hversion]
      · rw [rowVersion, Table.find?_updateWhere fun _ => by rfl, hfind]
        simp [Initiatives.withGoal, hcompany, hid, hversion]

theorem rowVersion_le (hstep : VersionedStep call n t n' t') {resource : Resource}
    {version : ℕ} (hversion : t.rowVersion resource = some version) :
    ∃ version', t'.rowVersion resource = some version' ∧ version ≤ version' := by
  have hcompanies : ∀ {p : CompanyRow → Bool} {f : CompanyRow → CompanyRow} {founderId : Uuid}
      {rows : List CompanyRow} {version : ℕ}, (∀ c, (f c).founderId = c.founderId) →
      (∀ c, c.rowVersion ≤ (f c).rowVersion) →
      (rows.find? fun c => c.founderId = founderId).map CompanyRow.rowVersion = some version →
      ∃ version', ((Table.updateWhere p f rows).find? fun c => c.founderId = founderId).map
        CompanyRow.rowVersion = some version' ∧ version ≤ version' := by
    intro p f founderId rows version hf hle hrows
    obtain ⟨c, hfind, rfl⟩ := Option.map_eq_some_iff.mp hrows
    rw [Table.find?_updateWhere fun c => by rw [hf], hfind]
    refine ⟨_, rfl, ?_⟩
    dsimp only
    split
    · exact hle c
    · exact Nat.le_refl _
  cases hstep with
  | provision actor idempotencyKey correlationId dto n m n' now t hfounder hm hn =>
      cases resource with
      | company founderId =>
          obtain ⟨c, hfind, rfl⟩ := Option.map_eq_some_iff.mp hversion
          refine hcompanies (fun _ => rfl) (fun _ => Nat.le_refl _) ?_
          rw [find?_append_of_some hfind, Option.map_some]
      | initiative initiativeId => exact ⟨version, hversion, Nat.le_refl _⟩
  | replaceProfile actor idempotencyKey expectedVersion correlationId dto n m n' now t =>
      cases resource with
      | company founderId => exact hcompanies (fun _ => rfl) (fun _ => Nat.le_succ _) hversion
      | initiative initiativeId => exact ⟨version, hversion, Nat.le_refl _⟩
  | openInitiative actor idempotencyKey correlationId dto companyId n m n' now t =>
      cases resource with
      | company founderId => exact ⟨version, hversion, Nat.le_refl _⟩
      | initiative initiativeId =>
          obtain ⟨i, hfind, rfl⟩ := Option.map_eq_some_iff.mp hversion
          exact ⟨i.rowVersion, by rw [rowVersion, find?_append_of_some hfind, Option.map_some],
            Nat.le_refl _⟩
  | addGoal actor initiativeId expectedVersion idempotencyKey correlationId dto companyId n m n'
      ids now t i =>
      cases resource with
      | company founderId => exact ⟨version, hversion, Nat.le_refl _⟩
      | initiative id =>
          obtain ⟨j, hfind, rfl⟩ := Option.map_eq_some_iff.mp hversion
          rw [rowVersion, Table.find?_updateWhere fun _ => by rfl, hfind]
          refine ⟨_, rfl, ?_⟩
          dsimp only
          split
          · exact Nat.le_succ _
          · exact Nat.le_refl _

end VersionedTables

/-! ## Histories -/

/-- Time passes, or a call is made. -/
inductive TenantAction where
  | tick (elapsed : ℕ)
  | call (call : VersionedCall)

/-- A world before the first company: every other table is arbitrary. -/
structure InitialTenants where
  world : World
  companies : world.db.companies = []
  companyProfileVersions : world.db.companyProfileVersions = []
  initiatives : world.db.initiatives = []
  goalVersions : world.db.goalVersions = []

namespace Tenant

variable {services : Services} {w : World}

def step (services : Services) (w : World) : TenantAction → World
  | .tick elapsed => { w with now := w.now + elapsed }
  | .call call => (call.run services w).2

def after (services : Services) (w : World) (acts : List TenantAction) : World :=
  Transition.run (step services) w acts

def Inv (w : World) : Prop := w.db.versioned.Inv w.nextId

/-- An action leaves the tables alone, or is a call that commits. -/
theorem step_cases (services : Services) (w : World) (act : TenantAction) :
    (w.nextId ≤ (step services w act).nextId ∧
      (step services w act).db.versioned = w.db.versioned) ∨
    ∃ call, act = .call call ∧ VersionedStep call w.nextId w.db.versioned
      (step services w act).nextId (step services w act).db.versioned := by
  cases act with
  | tick elapsed => exact .inl ⟨Nat.le_refl _, rfl⟩
  | call call =>
      have hsettles := call.settles services w
      rw [step]
      rcases hrun : call.run services w with ⟨failure | result, w'⟩
      · have hgrows := hsettles.grows
        rw [hrun] at hgrows
        exact .inl ⟨hgrows, congrArg Db.versioned (hsettles.failed failure w' hrun)⟩
      · rcases hsettles.returned result w' hrun with ⟨-, -, hdb⟩ | ⟨-, hstep⟩
        · have hgrows := hsettles.grows
          rw [hrun] at hgrows
          exact .inl ⟨hgrows, congrArg Db.versioned hdb⟩
        · exact .inr ⟨call, rfl, hstep⟩

theorem Inv.step (h : Inv w) (act : TenantAction) : Inv (step services w act) := by
  rcases step_cases services w act with ⟨hgrows, heq⟩ | ⟨call, -, hstep⟩
  · rw [Inv, heq]
    exact ⟨VersionedTables.Keyed.mono h.keyed hgrows, h.chains⟩
  · exact VersionedTables.Inv.step h hstep

theorem Inv.after (h : Inv w) (acts : List TenantAction) : Inv (after services w acts) :=
  Transition.run_invariant (P := Inv) (fun _ act hw => Inv.step hw act) h acts

theorem inv_initial (init : InitialTenants) : Inv init.world := by
  have hempty : init.world.db.versioned = ⟨[], [], [], []⟩ := by
    simp [Db.versioned, init.companies, init.companyProfileVersions, init.initiatives,
      init.goalVersions]
  rw [Inv, hempty]
  exact ⟨⟨⟨List.nodup_nil, nofun⟩, List.nodup_nil, ⟨List.nodup_nil, nofun⟩,
    ⟨List.nodup_nil, nofun⟩, nofun⟩, ⟨nofun, nofun, fun _ => Nat.zero_le 1⟩⟩

/-- Row versions do not go back over a history. -/
theorem rowVersion_le_after {resource : Resource} {version : ℕ}
    (h : w.db.versioned.rowVersion resource = some version) (acts : List TenantAction) :
    ∃ version', (after services w acts).db.versioned.rowVersion resource = some version' ∧
      version ≤ version' := by
  induction acts generalizing w version with
  | nil => exact ⟨version, h, Nat.le_refl _⟩
  | cons act acts ih =>
      have hone : ∃ version', (step services w act).db.versioned.rowVersion resource =
          some version' ∧ version ≤ version' := by
        rcases step_cases services w act with ⟨-, heq⟩ | ⟨call, -, hstep⟩
        · exact ⟨version, by rw [heq, h], Nat.le_refl _⟩
        · exact VersionedTables.rowVersion_le hstep h
      obtain ⟨version', hversion', hle⟩ := hone
      obtain ⟨version'', hversion'', hle'⟩ := ih hversion'
      exact ⟨version'', hversion'', Nat.le_trans hle hle'⟩

/-- An update that commits finds the version it expects and leaves the next one. -/
theorem rowVersion_of_commits (h : Inv w) {call : VersionedCall} {resource : Resource}
    {version : ℕ} (hcommits : call.Commits services w)
    (hexpects : call.expects = some (resource, version)) :
    w.db.versioned.rowVersion resource = some version ∧
      (step services w (.call call)).db.versioned.rowVersion resource = some (version + 1) := by
  obtain ⟨result, w', hrun, hnew⟩ := hcommits
  rcases (call.settles services w).returned result w' hrun with ⟨hreplayed, -⟩ | ⟨-, hstep⟩
  · rw [hnew] at hreplayed
    cases hreplayed
  · rw [step, hrun]
    exact VersionedTables.Inv.rowVersion_of_expects h hstep hexpects

/-- The version chains hold after every history of calls; of the updates that carry
the same expected version of the same resource at most one commits; and a call that
does not commit has failed, or replayed the answer of its own key, and has changed no
row. -/
theorem versionChains_after (services : Services) (init : InitialTenants)
    (acts : List TenantAction) :
    VersionChains (after services init.world acts).db.versioned ∧
    (∀ acts₁ call acts₂ call' acts₃,
      acts = acts₁ ++ .call call :: (acts₂ ++ .call call' :: acts₃) →
      ∀ target, call.expects = some target → call'.expects = some target →
        call.Commits services (after services init.world acts₁) →
        ¬ call'.Commits services (after services init.world (acts₁ ++ .call call :: acts₂))) ∧
    ∀ acts₁ call acts₂, acts = acts₁ ++ .call call :: acts₂ →
      ¬ call.Commits services (after services init.world acts₁) →
      (call.Fails services (after services init.world acts₁) ∨
        call.Replays services (after services init.world acts₁)) ∧
      (call.run services (after services init.world acts₁)).2.db =
        (after services init.world acts₁).db := by
  have hinv := inv_initial init
  refine ⟨(hinv.after acts).chains, ?_, ?_⟩
  · rintro acts₁ call acts₂ call' acts₃ rfl ⟨resource, version⟩ hexpects hexpects' hcommits hcommits'
    obtain ⟨-, hmoved⟩ := rowVersion_of_commits (hinv.after acts₁) hcommits hexpects
    obtain ⟨version', hlater, hle⟩ := @rowVersion_le_after services _ _ _ hmoved acts₂
    obtain ⟨hfound, -⟩ := rowVersion_of_commits (hinv.after _) hcommits' hexpects'
    rw [after, Transition.run_append, Transition.run_cons] at hfound
    have heq : version = version' := Option.some.inj (hfound.symm.trans hlater)
    omega
  · rintro acts₁ call acts₂ rfl hnot
    have hsettles := call.settles services (after services init.world acts₁)
    rcases hrun : call.run services (after services init.world acts₁) with ⟨failure | result, w'⟩
    · exact ⟨.inl ⟨failure, w', hrun⟩, hsettles.failed failure w' hrun⟩
    · rcases hsettles.returned result w' hrun with ⟨hreplayed, hrecord, hdb⟩ | ⟨hnew, -⟩
      · exact ⟨.inr ⟨⟨result, w', hrun, hreplayed⟩, hrecord⟩, hdb⟩
      · exact absurd ⟨result, w', hrun, hnew⟩ hnot

end Tenant

end Aico
