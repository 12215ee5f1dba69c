import Aico.Initiatives.InitiativesSteps

/-!
# Which attachments are bound to a goal version

The query of `bindToGoalVersion` compares the ids of a request with the records as UUIDs, and
the lookup that follows compares their texts. So attachments that could be bound
(`Bindable`) are bound when the request spells their ids as the database does.
-/

namespace Aico

namespace Attachments

variable {companyId goalVersionId : Uuid} {attachmentIds : List UuidText} {w w' : World}

/-- The object that an id of the list names, an attachment of the company that is ready, clean
and unexpired. -/
structure Names (companyId : Uuid) (objects : List ObjectRecordRow) (now : Timestamp)
    (attachmentId : UuidText) (o : ObjectRecordRow) : Prop where
  mem : o ∈ objects
  company : o.companyId = companyId
  id : o.id = attachmentId.value
  purpose : o.purpose = .attachment
  ready : o.lifecycleState = .ready
  clean : o.scanState = .clean
  unexpired : ∀ expiresAt, o.expiresAt = some expiresAt → now < expiresAt

theorem linkable_iff {o : ObjectRecordRow} {now : Timestamp} :
    linkable o now = true ↔ o.purpose = .attachment ∧ o.lifecycleState = .ready ∧
      o.scanState = .clean ∧ ∀ expiresAt, o.expiresAt = some expiresAt → now < expiresAt := by
  unfold linkable expired
  cases o.expiresAt <;> simp

/-- At most five ids of different objects, all of which may be linked, with at most twenty MiB
together. -/
structure Bindable (companyId : Uuid) (attachmentIds : List UuidText) (w : World) : Prop where
  count : attachmentIds.length ≤ AttachmentPolicy.maxCount
  distinct : (attachmentIds.map UuidText.value).Nodup
  objects : ∃ named, List.Forall₂ (Names companyId w.db.objectRecords w.now) attachmentIds named ∧
    (named.map ObjectRecordRow.sizeBytes).sum ≤ AttachmentPolicy.aggregateMaxBytes

/-- The text is the one that the database prints. -/
def IsPrintedId (attachmentId : UuidText) : Prop := attachmentId.text = attachmentId.value.text

def Binds (companyId goalVersionId : Uuid) (attachmentIds : List UuidText) (w : World) : Prop :=
  ∃ w', bindToGoalVersion companyId goalVersionId attachmentIds w = (.ok ⟨⟩, w')

/-! ## The loop -/

/-- What the loop asks of an id: its text finds a row, which may be linked. -/
def Finds (rows : List ObjectRecordRow) (now : Timestamp) (attachmentId : UuidText)
    (o : ObjectRecordRow) : Prop :=
  (rows.find? fun entry => entry.id.text = attachmentId.text) = some o ∧ linkable o now = true

theorem linkAll_iff {rows : List ObjectRecordRow} {ordinal aggregate : ℕ}
    (haggregate : aggregate ≤ AttachmentPolicy.aggregateMaxBytes) :
    (∃ w', linkAll companyId goalVersionId rows ordinal aggregate attachmentIds w =
        (.ok ⟨⟩, w')) ↔
      ∃ found, List.Forall₂ (Finds rows w.now) attachmentIds found ∧
        aggregate + (found.map ObjectRecordRow.sizeBytes).sum ≤
          AttachmentPolicy.aggregateMaxBytes := by
  induction attachmentIds generalizing ordinal aggregate w with
  | nil => exact iff_of_true ⟨w, rfl⟩ ⟨[], .nil, by simpa using haggregate⟩
  | cons attachmentId rest ih =>
      constructor
      · rintro ⟨w', h⟩
        rw [linkAll] at h
        obtain ⟨row, w₁, hrequire, h₁⟩ := Prog.bind_eq_ok.mp h
        obtain ⟨hrow, rfl⟩ := Prog.require_eq_ok.mp hrequire
        rw [Op.now_bind] at h₁
        obtain ⟨_, w₂, hensure, h₂⟩ := Prog.bind_eq_ok.mp h₁
        obtain ⟨hlinkable, rfl⟩ := Prog.ensure_eq_ok.mp hensure
        obtain ⟨_, w₃, hensure, h₃⟩ := Prog.bind_eq_ok.mp h₂
        obtain ⟨htotal, rfl⟩ := Prog.ensure_eq_ok.mp hensure
        rw [Op.exec_bind] at h₃
        obtain ⟨found, hfound, hsum⟩ := (ih htotal).mp ⟨w', h₃⟩
        refine ⟨row :: found, .cons ⟨hrow, hlinkable⟩ hfound, ?_⟩
        rw [List.map_cons, List.sum_cons, ← Nat.add_assoc]
        exact hsum
      · rintro ⟨found, hfound, hsum⟩
        obtain ⟨row, found, ⟨hrow, hlinkable⟩, hrest, rfl⟩ := List.forall₂_cons_left_iff.mp hfound
        rw [List.map_cons, List.sum_cons, ← Nat.add_assoc] at hsum
        have htotal := (Nat.le_add_right _ _).trans hsum
        rw [linkAll, Prog.bind_of_ok (Prog.require_eq_ok.mpr ⟨hrow, rfl⟩), Op.now_bind,
          Op.ensure_bind, if_pos hlinkable, Op.ensure_bind, if_pos htotal, Op.exec_bind]
        exact (ih htotal).mpr ⟨found, hrest, hsum⟩

/-! ## The query -/

def boundRows (companyId : Uuid) (attachmentIds : List UuidText) (w : World) :
    List ObjectRecordRow :=
  w.db.objectRecords.filter fun o =>
    o.companyId = companyId ∧ o.id ∈ attachmentIds.map UuidText.value

theorem mem_boundRows {o : ObjectRecordRow} :
    o ∈ boundRows companyId attachmentIds w ↔ o ∈ w.db.objectRecords ∧
      o.companyId = companyId ∧ o.id ∈ attachmentIds.map UuidText.value := by
  rw [boundRows, List.mem_filter, decide_eq_true_eq]

theorem exists_ensure_bind {c : Prop} [Decidable c] {e : Failure} {k : PUnit → Op PUnit} :
    (∃ w', (Prog.ensure c e >>= k) w = (.ok ⟨⟩, w')) ↔ c ∧ ∃ w', k ⟨⟩ w = (.ok ⟨⟩, w') := by
  rw [Op.ensure_bind]
  by_cases hc : c
  · rw [if_pos hc]
    exact (and_iff_right hc).symm
  · rw [if_neg hc]
    exact iff_of_false (fun ⟨_, h⟩ => by cases h) fun h => hc h.1

theorem nodup_iff_dedup_length {α : Type*} [DecidableEq α] {l : List α} :
    l.dedup.length = l.length ↔ l.Nodup := by
  rw [← List.dedup_eq_self]
  exact ⟨(List.dedup_sublist l).eq_of_length, congrArg List.length⟩

theorem binds_iff :
    Binds companyId goalVersionId attachmentIds w ↔
      attachmentIds = [] ∨
        attachmentIds.length ≤ AttachmentPolicy.maxCount ∧
        (attachmentIds.map UuidText.text).Nodup ∧
        (boundRows companyId attachmentIds w).length = attachmentIds.length ∧
        ∃ found, List.Forall₂ (Finds (boundRows companyId attachmentIds w) w.now)
            attachmentIds found ∧
          (found.map ObjectRecordRow.sizeBytes).sum ≤ AttachmentPolicy.aggregateMaxBytes := by
  unfold Binds bindToGoalVersion
  by_cases hnil : attachmentIds = []
  · rw [if_pos hnil]
    exact iff_of_true ⟨w, rfl⟩ (.inl hnil)
  · rw [if_neg hnil, exists_ensure_bind, exists_ensure_bind, or_iff_right hnil,
      ← nodup_iff_dedup_length, List.length_map]
    refine and_congr_right fun _ => and_congr_right fun _ => ?_
    simp only [Op.query_bind]
    rw [exists_ensure_bind, linkAll_iff (Nat.zero_le _)]
    simp only [Nat.zero_add]
    rfl

/-! ## Ids and their spelling -/

theorem nodup_text_iff (hprinted : ∀ id ∈ attachmentIds, IsPrintedId id) :
    (attachmentIds.map UuidText.text).Nodup ↔ (attachmentIds.map UuidText.value).Nodup := by
  have htext : attachmentIds.map UuidText.text =
      (attachmentIds.map UuidText.value).map Uuid.text := by
    rw [List.map_map]
    exact List.map_congr_left hprinted
  rw [htext, List.nodup_map_iff Uuid.text_injective]

section

variable (hids : (w.db.objectRecords.map ObjectRecordRow.id).Nodup)
include hids

/-- The loop finds the object that an id names when the id is spelled as the database does. -/
theorem finds_iff {attachmentId : UuidText} {o : ObjectRecordRow}
    (hmem : attachmentId ∈ attachmentIds) :
    Finds (boundRows companyId attachmentIds w) w.now attachmentId o ↔
      IsPrintedId attachmentId ∧ Names companyId w.db.objectRecords w.now attachmentId o := by
  constructor
  · rintro ⟨hfind, hlinkable⟩
    obtain ⟨ho, hcompany, -⟩ := mem_boundRows.mp (List.mem_of_find?_eq_some hfind)
    have htext : o.id.text = attachmentId.text := by simpa using List.find?_some hfind
    have hid : o.id = attachmentId.value := UuidText.value_eq_of_text_eq (x := .ofUuid o.id) htext
    obtain ⟨hpurpose, hready, hclean, hunexpired⟩ := linkable_iff.mp hlinkable
    exact ⟨by rw [IsPrintedId, ← htext, hid], ho, hcompany, hid, hpurpose, hready, hclean,
      hunexpired⟩
  · rintro ⟨hprinted, ho, hcompany, hid, hpurpose, hready, hclean, hunexpired⟩
    refine ⟨Table.find?_eq_some ?_ ?_ fun r hr htext => ?_,
      linkable_iff.mpr ⟨hpurpose, hready, hclean, hunexpired⟩⟩
    · exact mem_boundRows.mpr ⟨ho, hcompany, hid ▸ List.mem_map_of_mem hmem⟩
    · rw [decide_eq_true_eq, hprinted, hid]
    · have hsame : r.id = o.id := by
        rw [decide_eq_true_eq, hprinted, ← hid] at htext
        exact Uuid.text_injective htext
      exact List.inj_on_of_nodup_map hids (mem_boundRows.mp hr).1 ho hsame

theorem forall_finds_iff {found : List ObjectRecordRow} :
    List.Forall₂ (Finds (boundRows companyId attachmentIds w) w.now) attachmentIds found ↔
      (∀ id ∈ attachmentIds, IsPrintedId id) ∧
        List.Forall₂ (Names companyId w.db.objectRecords w.now) attachmentIds found := by
  have hmem : ∀ R : UuidText → ObjectRecordRow → Prop, List.Forall₂ R attachmentIds found ↔
      List.Forall₂ (fun id o => id ∈ attachmentIds ∧ R id o) attachmentIds found := by
    intro R
    rw [List.forall₂_and_left]
    exact (and_iff_right fun _ => id).symm
  rw [← List.forall₂_and_left, hmem, hmem fun id o => IsPrintedId id ∧ _]
  have hiff : (fun id o => id ∈ attachmentIds ∧
        Finds (boundRows companyId attachmentIds w) w.now id o) =
      fun id o => id ∈ attachmentIds ∧ IsPrintedId id ∧
        Names companyId w.db.objectRecords w.now id o := by
    funext id o
    exact propext (and_congr_right fun h => finds_iff hids h)
  rw [hiff]

/-- The query finds as many rows as there are ids when these name different objects. -/
theorem length_boundRows {named : List ObjectRecordRow}
    (hdistinct : (attachmentIds.map UuidText.value).Nodup)
    (hnamed : List.Forall₂ (Names companyId w.db.objectRecords w.now) attachmentIds named) :
    (boundRows companyId attachmentIds w).length = attachmentIds.length := by
  have hrows : ((boundRows companyId attachmentIds w).map ObjectRecordRow.id).Nodup :=
    hids.sublist (List.filter_sublist.map _)
  have hall : ∀ id ∈ attachmentIds, ∃ o, Names companyId w.db.objectRecords w.now id o :=
    ((List.forall₂_and_left _ _).mp (hnamed.imp fun id o h => ⟨⟨o, h⟩, h⟩)).1
  have hperm : ((boundRows companyId attachmentIds w).map ObjectRecordRow.id).Perm
      (attachmentIds.map UuidText.value) := by
    refine (List.perm_ext_iff_of_nodup hrows hdistinct).mpr fun u => ?_
    constructor
    · intro hu
      obtain ⟨o, ho, rfl⟩ := List.mem_map.mp hu
      exact (mem_boundRows.mp ho).2.2
    · intro hu
      obtain ⟨id, hid, rfl⟩ := List.mem_map.mp hu
      obtain ⟨o, ho⟩ := hall id hid
      refine List.mem_map.mpr ⟨o, mem_boundRows.mpr ⟨ho.mem, ho.company, ?_⟩, ho.id⟩
      exact ho.id ▸ hu
  simpa using hperm.length_eq

/-- The attachments are bound when they can be and the request spells their ids as the database
does. -/
theorem binds_iff_bindable :
    Binds companyId goalVersionId attachmentIds w ↔
      Bindable companyId attachmentIds w ∧ ∀ id ∈ attachmentIds, IsPrintedId id := by
  rw [binds_iff]
  constructor
  · rintro (rfl | ⟨hcount, hunique, _, found, hfound, hsum⟩)
    · exact ⟨⟨Nat.zero_le _, List.nodup_nil, [], .nil, Nat.zero_le _⟩, List.forall_mem_nil _⟩
    · obtain ⟨hprinted, hnamed⟩ := (forall_finds_iff hids).mp hfound
      exact ⟨⟨hcount, (nodup_text_iff hprinted).mp hunique, found, hnamed, hsum⟩, hprinted⟩
  · rintro ⟨⟨hcount, hdistinct, named, hnamed, hsum⟩, hprinted⟩
    exact .inr ⟨hcount, (nodup_text_iff hprinted).mpr hdistinct,
      length_boundRows hids hdistinct hnamed, named,
      (forall_finds_iff hids).mpr ⟨hprinted, hnamed⟩, hsum⟩

end

end Attachments

namespace Initiatives

open Attachments (Binds Bindable IsPrintedId)

variable {services : Services} {companyId goalVersionId : Uuid} {actor : RequestActor}
  {initiativeId : UuidText} {expectedVersion : ℕ} {idempotencyKey : Uuid}
  {correlationId : UuidText} {dto : CreateGoalDto} {w w' : World}

theorem binds_congr {goalVersionId' : Uuid} {attachmentIds : List UuidText} {w₁ : World}
    (hobjects : w₁.db.objectRecords = w.db.objectRecords) (hnow : w₁.now = w.now) :
    Binds companyId goalVersionId attachmentIds w₁ ↔
      Binds companyId goalVersionId' attachmentIds w := by
  rw [Attachments.binds_iff, Attachments.binds_iff, Attachments.boundRows, Attachments.boundRows,
    hobjects, hnow]

theorem binds_of_startRun {qualification : GoalQualification} {response : CommandResponse}
    (h : startRun services companyId actor initiativeId expectedVersion correlationId dto
      qualification w = (.ok response, w')) :
    Binds companyId goalVersionId dto.attachmentIds w := by
  rw [startRun, Op.query_bind] at h
  obtain ⟨initiative, w₁, hrequire, h₁⟩ := Prog.bind_eq_ok.mp h
  obtain ⟨-, rfl⟩ := Prog.require_eq_ok.mp hrequire
  obtain ⟨_, w₂, hensure, h₂⟩ := Prog.bind_eq_ok.mp h₁
  obtain ⟨-, rfl⟩ := Prog.ensure_eq_ok.mp hensure
  rw [Op.query_bind, Op.query_bind, Prog.bind_of_ok (drawRunIds_run _ _), Op.now_bind,
    Op.query_bind] at h₂
  obtain ⟨_, w₃, hfree, h₃⟩ := Prog.bind_eq_ok.mp h₂
  obtain ⟨-, rfl⟩ := Prog.ensure_eq_ok.mp hfree
  rw [Op.exec_bind] at h₃
  obtain ⟨_, w₄, hbind, -⟩ := Prog.bind_eq_ok.mp h₃
  have hbound : Binds companyId _ dto.attachmentIds _ := ⟨w₄, hbind⟩
  refine (binds_congr ?_ ?_).mp hbound
  · rfl
  · rfl

/-- Where the attachments are not bound, the command leaves the database as it was. -/
theorem createGoalAndRun_db_of_not_binds {result : Except Failure CommandResult}
    (hcompany : actor.companyId = some companyId)
    (hbinds : ¬ Binds companyId goalVersionId dto.attachmentIds w)
    (h : createGoalAndRun services actor initiativeId expectedVersion idempotencyKey
      correlationId dto w = (result, w')) : w'.db = w.db := by
  cases result with
  | error e => exact createGoalAndRun_error_db h
  | ok result =>
      rcases createGoalAndRun_eq_ok h with rfl | ⟨companyId', _, rows, _, w₁, hactor, hstart, _⟩
      · rfl
      · obtain rfl := Option.some.inj (hcompany.symm.trans hactor)
        have hbound : Binds companyId goalVersionId dto.attachmentIds _ :=
          binds_of_startRun hstart
        refine absurd ((binds_congr ?_ ?_).mp hbound) hbinds
        · rfl
        · rfl

/-- What is claimed of a binding: it succeeds for just the attachments that can be bound, leaves
just their links in the goal version, in order, and where it fails the command around it leaves
the database as it was. -/
structure BindsExactly (companyId goalVersionId : Uuid) (attachmentIds : List UuidText)
    (w : World) : Prop where
  binds : Binds companyId goalVersionId attachmentIds w ↔ Bindable companyId attachmentIds w
  rows : ∀ w', Attachments.bindToGoalVersion companyId goalVersionId attachmentIds w =
      (.ok ⟨⟩, w') →
    (w'.db.goalVersionAttachments.filter fun l =>
        l.companyId = companyId ∧ l.goalVersionId = goalVersionId) =
      Attachments.linkRows companyId goalVersionId 0 attachmentIds
  persists : ∀ services actor initiativeId expectedVersion idempotencyKey correlationId dto result
      w', actor.companyId = some companyId → dto.attachmentIds = attachmentIds →
    ¬ Binds companyId goalVersionId attachmentIds w →
    createGoalAndRun services actor initiativeId expectedVersion idempotencyKey correlationId dto
      w = (result, w') → w'.db = w.db

theorem rows_of_bind {attachmentIds : List UuidText}
    (hfresh : ∀ l ∈ w.db.goalVersionAttachments, l.goalVersionId ≠ goalVersionId)
    (h : Attachments.bindToGoalVersion companyId goalVersionId attachmentIds w = (.ok ⟨⟩, w')) :
    (w'.db.goalVersionAttachments.filter fun l =>
        l.companyId = companyId ∧ l.goalVersionId = goalVersionId) =
      Attachments.linkRows companyId goalVersionId 0 attachmentIds := by
  obtain ⟨rfl, -⟩ := Attachments.bindToGoalVersion_eq_ok h
  dsimp only
  rw [List.filter_append, List.filter_eq_nil_iff.mpr, List.filter_eq_self.mpr, List.nil_append]
  · intro l hl
    obtain ⟨entry, _, rfl⟩ := List.mem_map.mp hl
    exact decide_eq_true ⟨rfl, rfl⟩
  · intro l hl
    simp [hfresh l hl]

/-- A new goal version is bound exactly when the request spells its ids as the database does, or
names attachments that cannot be bound anyway. -/
theorem bindsExactly_iff {attachmentIds : List UuidText}
    (hids : (w.db.objectRecords.map ObjectRecordRow.id).Nodup)
    (hfresh : ∀ l ∈ w.db.goalVersionAttachments, l.goalVersionId ≠ goalVersionId) :
    BindsExactly companyId goalVersionId attachmentIds w ↔
      (Bindable companyId attachmentIds w → ∀ id ∈ attachmentIds, IsPrintedId id) := by
  have hiff : Binds companyId goalVersionId attachmentIds w ↔ _ :=
    Attachments.binds_iff_bindable hids
  constructor
  · intro h hbindable
    exact (hiff.mp (h.binds.mpr hbindable)).2
  · intro hprinted
    refine ⟨hiff.trans (and_iff_left_of_imp hprinted), fun w' => rows_of_bind hfresh, ?_⟩
    rintro services actor initiativeId expectedVersion idempotencyKey correlationId dto result w'
      hcompany rfl hbinds h
    exact createGoalAndRun_db_of_not_binds hcompany hbinds h

/-! ## One attachment in two spellings -/

def demoId : Uuid := 0x70008000_00000000000A

def capitalId : UuidText where
  value := demoId
  text := js "00000000-0000-7000-8000-00000000000A"
  spells := by decide

def secondId : Uuid := 0x70008000_00000000000B

def attachmentWorld : World where
  db := { Db.empty with
    objectRecords := [Attachments.objectRow 1 demoId ⟨"image/png", [], [], 1⟩,
      Attachments.objectRow 1 secondId ⟨"text/plain", [], [], 2⟩]
    goalVersionAttachments := [Attachments.linkRow 1 3 demoId 0] }
  objects := []
  nextId := 0
  now := 0

theorem bindable_attachmentWorld {attachmentId : UuidText} (hvalue : attachmentId.value = demoId) :
    Bindable 1 [attachmentId] attachmentWorld where
  count := Nat.le_add_left 1 4
  distinct := List.nodup_singleton _
  objects := by
    refine ⟨[Attachments.objectRow 1 demoId ⟨"image/png", [], [], 1⟩], .cons ?_ .nil, by decide⟩
    exact ⟨List.mem_cons_self, rfl, hvalue.symm, rfl, rfl, rfl, nofun⟩

theorem nodup_attachmentWorld :
    (attachmentWorld.db.objectRecords.map ObjectRecordRow.id).Nodup := by
  decide

/-- Both attachments are bound, in the order of the request. -/
theorem bindsExactly_iff_demo :
    BindsExactly 1 2 [.ofUuid secondId, .ofUuid demoId] attachmentWorld ∧
      Attachments.Binds 1 2 [.ofUuid secondId, .ofUuid demoId] attachmentWorld := by
  have hexact : BindsExactly 1 2 [.ofUuid secondId, .ofUuid demoId] attachmentWorld := by
    have hfresh : ∀ l ∈ attachmentWorld.db.goalVersionAttachments, l.goalVersionId ≠ 2 := by
      decide
    refine (bindsExactly_iff nodup_attachmentWorld hfresh).mpr fun _ => ?_
    simp only [List.forall_mem_cons, List.not_mem_nil, false_implies, implies_true, and_true]
    exact ⟨rfl, rfl⟩
  refine ⟨hexact, hexact.binds.mpr ⟨by decide, by decide, ?_⟩⟩
  refine ⟨[Attachments.objectRow 1 secondId ⟨"text/plain", [], [], 2⟩,
    Attachments.objectRow 1 demoId ⟨"image/png", [], [], 1⟩], .cons ?_ (.cons ?_ .nil), by decide⟩
  · exact ⟨List.mem_cons_of_mem _ List.mem_cons_self, rfl, rfl, rfl, rfl, rfl, nofun⟩
  · exact ⟨List.mem_cons_self, rfl, rfl, rfl, rfl, rfl, nofun⟩

theorem bindsExactly_fails : ¬ BindsExactly 1 2 [capitalId] attachmentWorld := by
  intro h
  have hbinds := h.binds.mpr (bindable_attachmentWorld rfl)
  have hprinted := ((Attachments.binds_iff_bindable nodup_attachmentWorld).mp hbinds).2
  have htext : capitalId.text ≠ demoId.text := by decide
  exact htext (hprinted capitalId List.mem_cons_self)

end Initiatives

end Aico
