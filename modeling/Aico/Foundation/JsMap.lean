import Aico.Foundation.Table

/-!
# Maps in insertion order

A JavaScript `Map` keeps its entries in the order in which their keys were first set.
`set` replaces the value of a key in its place and adds a new key at the end. The keys of
a `JsMap` are distinct by construction, so a map is read through `get`: two lemmas say
what a lookup gives after `set` and after `delete`.
-/

/-- The entries of a map, in insertion order. -/
structure JsMap (κ β : Type*) where
  entries : List (κ × β)
  nodup : (entries.map Prod.fst).Nodup

namespace JsMap

variable {κ β : Type*}

def empty : JsMap κ β where
  entries := []
  nodup := List.nodup_nil

def keys (m : JsMap κ β) : List κ := m.entries.map Prod.fst

def values (m : JsMap κ β) : List β := m.entries.map Prod.snd

def mapValues (f : β → β) (m : JsMap κ β) : JsMap κ β where
  entries := m.entries.map fun e => (e.1, f e.2)
  nodup := by
    rw [List.map_map]
    exact m.nodup

variable [DecidableEq κ]

def get (m : JsMap κ β) (k : κ) : Option β :=
  (m.entries.find? fun e => e.1 = k).map Prod.snd

def has (m : JsMap κ β) (k : κ) : Bool := (m.get k).isSome

def setEntries (k : κ) (v : β) (entries : List (κ × β)) : List (κ × β) :=
  if k ∈ entries.map Prod.fst then
    Table.updateWhere (fun e => e.1 = k) (fun _ => (k, v)) entries
  else entries ++ [(k, v)]

theorem nodup_setEntries {k : κ} {v : β} {entries : List (κ × β)}
    (h : (entries.map Prod.fst).Nodup) : ((setEntries k v entries).map Prod.fst).Nodup := by
  unfold setEntries
  split
  · have hkeys : (Table.updateWhere (fun e => e.1 = k) (fun _ => (k, v)) entries).map Prod.fst =
        entries.map Prod.fst := by
      rw [Table.updateWhere, List.map_map]
      refine List.map_congr_left fun e _ => ?_
      by_cases he : e.1 = k <;> simp [he]
    rwa [hkeys]
  · next hnot =>
      refine Table.nodup_key_append h fun e he heq => hnot ?_
      have hkey : e.1 = k := heq
      rw [← hkey]
      exact List.mem_map_of_mem he

def set (m : JsMap κ β) (k : κ) (v : β) : JsMap κ β where
  entries := setEntries k v m.entries
  nodup := nodup_setEntries m.nodup

def delete (m : JsMap κ β) (k : κ) : JsMap κ β where
  entries := m.entries.filter fun e => e.1 ≠ k
  nodup := m.nodup.sublist (List.filter_sublist.map Prod.fst)

/-- Change the value of the key in its place, where there is one. -/
def update (m : JsMap κ β) (k : κ) (f : β → β) : JsMap κ β where
  entries := Table.updateWhere (fun e => e.1 = k) (fun e => (e.1, f e.2)) m.entries
  nodup := by
    have hkeys : (Table.updateWhere (fun e => e.1 = k) (fun e => (e.1, f e.2)) m.entries).map
        Prod.fst = m.entries.map Prod.fst := Table.map_updateWhere (fun _ => by rfl) _
    rw [hkeys]
    exact m.nodup

def assign (m : JsMap κ β) (entries : List (κ × β)) : JsMap κ β :=
  entries.foldl (fun m e => m.set e.1 e.2) m

variable {m : JsMap κ β} {k k' : κ} {v v' : β}

@[simp] theorem get_empty (k : κ) : (empty : JsMap κ β).get k = none := rfl

theorem get_eq_some_iff : m.get k = some v ↔ (k, v) ∈ m.entries := by
  unfold get
  constructor
  · intro h
    obtain ⟨⟨k', v'⟩, hfind, rfl⟩ := Option.map_eq_some_iff.mp h
    have hkey : k' = k := by simpa using List.find?_some hfind
    rw [← hkey]
    exact List.mem_of_find?_eq_some hfind
  · intro h
    have hfind := Table.find?_eq_some (p := fun e => e.1 = k) h (by simp) fun e he hkey =>
      Table.eq_of_key_eq m.nodup he h (by simpa using hkey)
    rw [hfind]
    rfl

theorem mem_values : v ∈ m.values ↔ ∃ k, m.get k = some v := by
  simp only [values, List.mem_map, get_eq_some_iff]
  constructor
  · rintro ⟨⟨k, v'⟩, he, rfl⟩
    exact ⟨k, he⟩
  · rintro ⟨k, he⟩
    exact ⟨(k, v), he, rfl⟩

theorem mem_keys : k ∈ m.keys ↔ ∃ v, m.get k = some v := by
  simp only [keys, List.mem_map, get_eq_some_iff]
  constructor
  · rintro ⟨⟨k', v⟩, he, rfl⟩
    exact ⟨v, he⟩
  · rintro ⟨v, he⟩
    exact ⟨(k, v), he, rfl⟩

theorem has_eq_false : m.has k = false ↔ m.get k = none := by
  simp [has]

theorem get_set : (m.set k v).get k' = if k' = k then some v else m.get k' := by
  refine Option.ext fun w => ?_
  have hmem : (k', w) ∈ setEntries k v m.entries ↔
      (k' = k ∧ w = v) ∨ (k' ≠ k ∧ (k', w) ∈ m.entries) := by
    unfold setEntries
    split
    · next hk =>
        rw [Table.mem_updateWhere]
        constructor
        · rintro ⟨e, he, heq⟩
          by_cases hkey : e.1 = k
          · simp only [hkey, decide_true, if_true, Prod.mk.injEq] at heq
            exact .inl ⟨heq.1.symm, heq.2.symm⟩
          · simp only [hkey, decide_false, Bool.false_eq_true, if_false] at heq
            rw [heq] at he hkey
            exact .inr ⟨hkey, he⟩
        · rintro (⟨rfl, rfl⟩ | ⟨hne, he⟩)
          · obtain ⟨e, he, hkey⟩ := List.mem_map.mp hk
            exact ⟨e, he, by simp [hkey]⟩
          · exact ⟨(k', w), he, by simp [hne]⟩
    · next hk =>
        simp only [List.mem_append, List.mem_singleton, Prod.mk.injEq]
        constructor
        · rintro (he | heq)
          · refine .inr ⟨fun hkey => hk ?_, he⟩
            rw [← hkey]
            exact List.mem_map_of_mem (f := Prod.fst) he
          · exact .inl heq
        · rintro (heq | ⟨-, he⟩)
          · exact .inr heq
          · exact .inl he
  rw [get_eq_some_iff]
  change (k', w) ∈ setEntries k v m.entries ↔ _
  rw [hmem]
  split
  · next hkey => simp [hkey, eq_comm]
  · next hkey => simp [hkey, get_eq_some_iff]

@[simp] theorem get_set_self : (m.set k v).get k = some v := by
  rw [get_set, if_pos rfl]

theorem get_set_of_ne (h : k' ≠ k) : (m.set k v).get k' = m.get k' := by
  rw [get_set, if_neg h]

theorem find?_values_set {p : β → Bool} (hv : p v = true) (hnone : m.values.find? p = none) :
    (m.set k v).values.find? p = some v := by
  have hmem : v ∈ (m.set k v).values := mem_values.mpr ⟨k, get_set_self⟩
  cases hfind : (m.set k v).values.find? p with
  | none => exact absurd hv (List.find?_eq_none.mp hfind v hmem)
  | some w =>
      obtain ⟨k', hget⟩ := mem_values.mp (List.mem_of_find?_eq_some hfind)
      rw [get_set] at hget
      split at hget
      · exact hget.symm
      · have hold : w ∈ m.values := mem_values.mpr ⟨k', hget⟩
        exact absurd (List.find?_some hfind) (List.find?_eq_none.mp hnone w hold)

theorem get_delete : (m.delete k).get k' = if k' = k then none else m.get k' := by
  refine Option.ext fun w => ?_
  rw [get_eq_some_iff]
  change (k', w) ∈ m.entries.filter _ ↔ _
  split
  · next hkey => simp [hkey]
  · next hkey => simp [hkey, get_eq_some_iff]

theorem get_delete_of_ne (h : k' ≠ k) : (m.delete k).get k' = m.get k' := by
  rw [get_delete, if_neg h]

theorem get_mapValues {f : β → β} : (m.mapValues f).get k = (m.get k).map f := by
  refine Option.ext fun w => ?_
  rw [get_eq_some_iff]
  change (k, w) ∈ m.entries.map _ ↔ _
  simp only [List.mem_map, Prod.mk.injEq, Option.map_eq_some_iff, get_eq_some_iff]
  constructor
  · rintro ⟨⟨k', v⟩, he, rfl, rfl⟩
    exact ⟨v, he, rfl⟩
  · rintro ⟨v, he, rfl⟩
    exact ⟨(k, v), he, rfl, rfl⟩

theorem get_update {f : β → β} :
    (m.update k f).get k' = if k' = k then (m.get k).map f else m.get k' := by
  refine Option.ext fun w => ?_
  rw [get_eq_some_iff]
  change (k', w) ∈ Table.updateWhere _ _ m.entries ↔ _
  rw [Table.mem_updateWhere]
  split
  · next hkey =>
      subst hkey
      rw [Option.map_eq_some_iff]
      constructor
      · rintro ⟨e, he, heq⟩
        have hfst : e.1 = k' := by
          by_contra hne
          simp only [hne, decide_false, Bool.false_eq_true, if_false] at heq
          exact hne (by rw [heq])
        simp only [hfst, decide_true, if_true, Prod.mk.injEq] at heq
        refine ⟨e.2, get_eq_some_iff.mpr ?_, heq.2⟩
        rw [← hfst]
        exact he
      · rintro ⟨v, hv, rfl⟩
        exact ⟨(k', v), get_eq_some_iff.mp hv, by simp⟩
  · next hkey =>
      rw [get_eq_some_iff]
      constructor
      · rintro ⟨e, he, heq⟩
        by_cases hfst : e.1 = k
        · simp only [hfst, decide_true, if_true, Prod.mk.injEq] at heq
          exact absurd heq.1.symm hkey
        · simp only [hfst, decide_false, Bool.false_eq_true, if_false] at heq
          rwa [← heq]
      · intro he
        exact ⟨(k', w), he, by simp [hkey]⟩

theorem mem_keys_set : k' ∈ (m.set k v).keys ↔ k' = k ∨ k' ∈ m.keys := by
  rw [mem_keys, mem_keys]
  simp only [get_set]
  split <;> simp_all

theorem mem_keys_delete (h : k' ∈ (m.delete k).keys) : k' ∈ m.keys := by
  rw [mem_keys] at h ⊢
  obtain ⟨v, hv⟩ := h
  rw [get_delete] at hv
  split at hv
  · cases hv
  · exact ⟨v, hv⟩

theorem mem_keys_assign {entries : List (κ × β)} :
    k ∈ (m.assign entries).keys ↔ k ∈ entries.map Prod.fst ∨ k ∈ m.keys := by
  induction entries generalizing m with
  | nil => simp [assign]
  | cons e entries ih =>
      have hassign : m.assign (e :: entries) = (m.set e.1 e.2).assign entries := rfl
      rw [hassign, ih, mem_keys_set, List.map_cons, List.mem_cons]
      tauto

theorem get_assign_of_not_mem {entries : List (κ × β)} (h : k ∉ entries.map Prod.fst) :
    (m.assign entries).get k = m.get k := by
  induction entries generalizing m with
  | nil => rfl
  | cons e entries ih =>
      rw [List.map_cons, List.mem_cons, not_or] at h
      have hassign : m.assign (e :: entries) = (m.set e.1 e.2).assign entries := rfl
      rw [hassign, ih h.2, get_set_of_ne h.1]

end JsMap
