import Mathlib.Data.List.Sort
import Aico.Foundation.Table
import Aico.Json.Stringify

/-!
# Object key order

`reorder arrange` rewrites the entries of every object of a value by
`arrange`. Three arrangements matter: `sortJson` sorts by the comparator of the
program, `normalize` by code units, and `jsonb` is what the database hands back
for a stored document. All of them end in objects whose enumeration puts the
index-like keys first (`enumerate`), except `normalize`, which is only used to
say when two values are equal up to key order (`EqUpToKeyOrder`).

An arrangement that permutes the entries does not change the value up to key
order (`normalize_reorder`); a sort whose comparator ties no two distinct keys
of the value forgets the order the entries came in
(`reorder_sortEntries_normalize`).
-/

namespace Json

variable {arrange : List (JsString × Json) → List (JsString × Json)}

mutual

/-- Rearrange the entries of every object, from the leaves up. -/
def reorder (arrange : List (JsString × Json) → List (JsString × Json)) :
    Json → Json
  | .null => .null
  | .bool b => .bool b
  | .num n => .num n
  | .str s => .str s
  | .arr elements => .arr (reorderElements arrange elements)
  | .obj entries => .obj (arrange (reorderEntries arrange entries))

def reorderElements (arrange : List (JsString × Json) → List (JsString × Json)) :
    List Json → List Json
  | [] => []
  | v :: rest => reorder arrange v :: reorderElements arrange rest

def reorderEntries (arrange : List (JsString × Json) → List (JsString × Json)) :
    List (JsString × Json) → List (JsString × Json)
  | [] => []
  | (k, v) :: rest => (k, reorder arrange v) :: reorderEntries arrange rest

end

theorem reorderElements_eq_map (elements : List Json) :
    reorderElements arrange elements = elements.map (reorder arrange) := by
  induction elements with
  | nil => rfl
  | cons v rest ih => rw [reorderElements, ih, List.map_cons]

theorem reorderEntries_eq_map (entries : List (JsString × Json)) :
    reorderEntries arrange entries =
      entries.map (Prod.map id (reorder arrange)) := by
  induction entries with
  | nil => rfl
  | cons e rest ih => rw [reorderEntries, ih, List.map_cons]; rfl

theorem reorder_arr (elements : List Json) :
    reorder arrange (.arr elements) = .arr (elements.map (reorder arrange)) := by
  rw [reorder, reorderElements_eq_map]

theorem reorder_obj (entries : List (JsString × Json)) :
    reorder arrange (.obj entries) =
      .obj (arrange (entries.map (Prod.map id (reorder arrange)))) := by
  rw [reorder, reorderEntries_eq_map]

/-- The comparator of `Array.prototype.sort` on the entries of an object: the
sort is stable, and values play no part in it. -/
def sortEntries {β : Type*} (cmp : JsString → JsString → Ordering)
    (entries : List (JsString × β)) : List (JsString × β) :=
  entries.insertionSort fun a b => (cmp a.1 b.1).isLE

/-- The integer a decimal text denotes. -/
def digitsValue (k : JsString) : ℕ :=
  k.foldl (fun n u => 10 * n + (u.toNat - 0x30)) 0

/-- The keys that JavaScript enumerates first: canonical numerals below the
largest array index. -/
def isIndexKey (k : JsString) : Bool :=
  (k = JsString.decimal 0 || k.head? ≠ some (JsString.digitUnit 0)) && k ≠ [] &&
    k.all (fun u => 0x30 ≤ u && u ≤ 0x39) && digitsValue k < 4294967295

/-- The enumeration order of an object with these properties, in the order they
were created. -/
def enumerate {β : Type*} (entries : List (JsString × β)) : List (JsString × β) :=
  (entries.filter fun e => isIndexKey e.1).insertionSort
      (fun a b => digitsValue a.1 ≤ digitsValue b.1) ++
    entries.filter fun e => !isIndexKey e.1

def unitOrder (a b : JsString) : Ordering :=
  compare (a.map UInt16.toNat) (b.map UInt16.toNat)

def utf8Point (p : ℕ) : List ℕ :=
  if p < 0x80 then [p]
  else if p < 0x800 then [0xC0 + p / 0x40, 0x80 + p % 0x40]
  else if p < 0x10000 then
    [0xE0 + p / 0x1000, 0x80 + p / 0x40 % 0x40, 0x80 + p % 0x40]
  else [0xF0 + p / 0x40000, 0x80 + p / 0x1000 % 0x40, 0x80 + p / 0x40 % 0x40,
    0x80 + p % 0x40]

def utf8 : JsString → List ℕ
  | [] => []
  | [u] => utf8Point u.toNat
  | u :: v :: rest =>
      if JsString.isHighSurrogate u ∧ JsString.isLowSurrogate v then
        utf8Point (0x10000 + (u.toNat - 0xD800) * 0x400 + (v.toNat - 0xDC00)) ++
          utf8 rest
      else utf8Point u.toNat ++ utf8 (v :: rest)

/-- The order of the keys in a stored `jsonb` object: by length, then by
bytes. -/
def jsonbOrder (a b : JsString) : Ordering :=
  (compare (utf8 a).length (utf8 b).length).then (compare (utf8 a) (utf8 b))

/-- The recursive key sort in front of a digest. -/
def sortJson (localeCompare : JsString → JsString → Ordering) : Json → Json :=
  reorder fun entries => enumerate (sortEntries localeCompare entries)

/-- What the driver reads back for a value stored in a `jsonb` column. -/
def jsonb : Json → Json :=
  reorder fun entries => enumerate (sortEntries jsonbOrder entries)

theorem isObject_jsonb (entries : List (String × Json)) :
    (jsonb (.object entries)).isObject = true := by
  rw [jsonb, object, reorder_obj]
  rfl

mutual

/-- Whether a `jsonb` column takes the value. -/
def storable : Json → Bool
  | .str s => s.isStorable
  | .arr elements => storableElements elements
  | .obj entries => storableEntries entries
  | _ => true

def storableElements : List Json → Bool
  | [] => true
  | v :: rest => storable v && storableElements rest

def storableEntries : List (JsString × Json) → Bool
  | [] => true
  | (key, v) :: rest => key.isStorable && storable v && storableEntries rest

end

/-- The operator `||` of two documents: the entries of the right one replace
those of the left one. -/
def concat : Json → Json → Json
  | .obj es, .obj fs =>
      jsonb (.obj ((es.filter fun e => e.1 ∉ fs.map Prod.fst) ++ fs))
  | v, w => .arr [v, w]

/-- One representative for each class of values equal up to key order. -/
def normalize : Json → Json :=
  reorder (sortEntries unitOrder)

/-- Equality up to the order of object keys, at every depth. -/
def EqUpToKeyOrder (v w : Json) : Prop := normalize v = normalize w

/-- The keys of every object of the value satisfy `r` pairwise. -/
inductive KeysPairwise (r : JsString → JsString → Prop) : Json → Prop
  | null : KeysPairwise r .null
  | bool (b : Bool) : KeysPairwise r (.bool b)
  | num (n : JsNumber) : KeysPairwise r (.num n)
  | str (s : JsString) : KeysPairwise r (.str s)
  | arr (elements : List Json) (h : ∀ v ∈ elements, KeysPairwise r v) :
      KeysPairwise r (.arr elements)
  | obj (entries : List (JsString × Json)) (hkeys : (entries.map Prod.fst).Pairwise r)
      (h : ∀ e ∈ entries, KeysPairwise r e.2) : KeysPairwise r (.obj entries)

/-- No object of the value holds one key twice. -/
def WellFormed : Json → Prop := KeysPairwise (· ≠ ·)

/-- No object of the value holds two keys that the comparator ties. -/
def TieFree (cmp : JsString → JsString → Ordering) : Json → Prop :=
  KeysPairwise fun a b => cmp a b ≠ .eq

theorem KeysPairwise.mono {r r' : JsString → JsString → Prop}
    (hr : ∀ a b, r a b → r' a b) {v : Json} (h : KeysPairwise r v) :
    KeysPairwise r' v := by
  induction h with
  | null => exact .null
  | bool b => exact .bool b
  | num n => exact .num n
  | str s => exact .str s
  | arr elements _ ih => exact .arr elements ih
  | obj entries hkeys _ ih => exact .obj entries (hkeys.imp fun h => hr _ _ h) ih

/-! ## Sorting entries -/

section Sorting

variable {β γ : Type*} {cmp : JsString → JsString → Ordering}

theorem sortEntries_perm (cmp : JsString → JsString → Ordering)
    (entries : List (JsString × β)) :
    (sortEntries cmp entries).Perm entries :=
  List.perm_insertionSort _ entries

theorem enumerate_perm (entries : List (JsString × β)) :
    (enumerate entries).Perm entries :=
  ((List.perm_insertionSort _ _).append_right _).trans
    (List.filter_append_perm _ entries)

/-- A key sort does not look at the values. -/
theorem sortEntries_map (f : β → γ) (entries : List (JsString × β)) :
    sortEntries cmp (entries.map (Prod.map id f)) =
      (sortEntries cmp entries).map (Prod.map id f) :=
  (List.map_insertionSort _ _ (Prod.map id f) entries fun _ _ _ _ => Iff.rfl).symm

theorem enumerate_map (f : β → γ) (entries : List (JsString × β)) :
    enumerate (entries.map (Prod.map id f)) = (enumerate entries).map (Prod.map id f) := by
  unfold enumerate
  rw [List.map_append, List.filter_map, List.filter_map]
  congr 1
  exact (List.map_insertionSort _ _ (Prod.map id f) _ fun _ _ _ _ => Iff.rfl).symm

theorem sortEntries_pairwise [Std.TransCmp cmp] (entries : List (JsString × β)) :
    (sortEntries cmp entries).Pairwise fun a b => (cmp a.1 b.1).isLE := by
  have : Std.Total fun a b : JsString × β => ((cmp a.1 b.1).isLE : Prop) := by
    constructor
    intro a b
    have hswap : cmp b.1 a.1 = (cmp a.1 b.1).swap := Std.OrientedCmp.eq_swap
    rw [hswap]
    cases cmp a.1 b.1 <;> simp
  have : IsTrans (JsString × β) fun a b => ((cmp a.1 b.1).isLE : Prop) :=
    ⟨fun _ _ _ => Std.TransCmp.isLE_trans⟩
  exact List.pairwise_insertionSort _ entries

/-- Where the comparator ties no two keys, a sort forgets the order the entries
came in. -/
theorem sortEntries_eq_of_perm [Std.TransCmp cmp] {entries entries' : List (JsString × β)}
    (hperm : entries.Perm entries')
    (hties : (entries.map Prod.fst).Pairwise fun a b => cmp a b ≠ .eq) :
    sortEntries cmp entries = sortEntries cmp entries' := by
  have hmem : ∀ e ∈ entries, ∀ e' ∈ entries, cmp e.1 e'.1 = .eq → e = e' := by
    intro e he e' he' htie
    have : Std.Symm fun a b : JsString × β => cmp a.1 b.1 ≠ .eq := by
      constructor
      intro a b hab hba
      have hswap : cmp a.1 b.1 = (cmp b.1 a.1).swap := Std.OrientedCmp.eq_swap
      rw [hswap, hba] at hab
      exact hab rfl
    by_contra hne
    exact (List.pairwise_map.mp hties).forall he he' hne htie
  have hperm' := ((sortEntries_perm cmp entries).trans hperm).trans
    (sortEntries_perm cmp entries').symm
  refine hperm'.eq_of_pairwise ?_ (sortEntries_pairwise entries)
    (sortEntries_pairwise entries')
  intro a b ha hb hab hba
  have ha' : a ∈ entries := (sortEntries_perm cmp entries).mem_iff.mp ha
  have hb' : b ∈ entries :=
    hperm.mem_iff.mpr ((sortEntries_perm cmp entries').mem_iff.mp hb)
  apply hmem a ha' b hb'
  have hswap : cmp b.1 a.1 = (cmp a.1 b.1).swap := Std.OrientedCmp.eq_swap
  rw [hswap] at hba
  revert hab hba
  cases cmp a.1 b.1 <;> simp

end Sorting

instance : Std.TransCmp unitOrder where
  eq_swap := Std.OrientedOrd.eq_swap
  isLE_trans := Std.TransOrd.isLE_trans

theorem unitOrder_eq {a b : JsString} (h : unitOrder a b = .eq) : a = b :=
  List.map_injective_iff.mpr (fun _ _ => UInt16.toNat_inj.mp)
    (Std.LawfulEqOrd.eq_of_compare h)

theorem TieFree.wellFormed {cmp : JsString → JsString → Ordering} [Std.TransCmp cmp]
    {v : Json} (h : TieFree cmp v) : WellFormed v := by
  refine KeysPairwise.mono ?_ h
  rintro a b hties rfl
  exact hties Std.ReflCmp.compare_self

section Rearranging

variable {arrange' : List (JsString × Json) → List (JsString × Json)}
variable {r : JsString → JsString → Prop} {v : Json}

/-! ## Rearranging twice -/

/-- An arrangement that does not look at the values. -/
def IsKeyArrangement (arrange : List (JsString × Json) → List (JsString × Json)) : Prop :=
  ∀ (f : Json → Json) entries,
    arrange (entries.map (Prod.map id f)) = (arrange entries).map (Prod.map id f)

theorem reorder_reorder (h : IsKeyArrangement arrange) (v : Json) :
    reorder arrange' (reorder arrange v) = reorder (fun es => arrange' (arrange es)) v := by
  induction v using Json.induct with
  | null => rfl
  | bool b => rfl
  | num n => rfl
  | str s => rfl
  | arr elements ih =>
      rw [reorder_arr, reorder_arr, reorder_arr, List.map_map]
      congr 1
      exact List.map_congr_left ih
  | obj entries ih =>
      have hmap : (entries.map (Prod.map id (reorder arrange))).map
          (Prod.map id (reorder arrange')) =
            entries.map (Prod.map id (reorder fun es => arrange' (arrange es))) := by
        rw [List.map_map]
        exact List.map_congr_left fun e he => Prod.ext rfl (ih e he)
      rw [reorder_obj, reorder_obj, reorder_obj, ← h, hmap]

/-- Two arrangements agree on a value when they do on entries with keys like its own. -/
theorem KeysPairwise.reorder_congr (hv : KeysPairwise r v)
    (h : ∀ es, (es.map Prod.fst).Pairwise r → arrange es = arrange' es) :
    reorder arrange v = reorder arrange' v := by
  induction hv with
  | null => rfl
  | bool b => rfl
  | num n => rfl
  | str s => rfl
  | arr elements _ ih =>
      rw [reorder_arr, reorder_arr]
      congr 1
      exact List.map_congr_left ih
  | obj entries hkeys _ ih =>
      have hmap : entries.map (Prod.map id (reorder arrange)) =
          entries.map (Prod.map id (reorder arrange')) :=
        List.map_congr_left fun e he => Prod.ext rfl (ih e he)
      rw [reorder_obj, reorder_obj, hmap, h]
      rw [List.map_map]
      exact hkeys

theorem keysPairwise_arr {elements : List Json} :
    KeysPairwise r (.arr elements) ↔ ∀ v ∈ elements, KeysPairwise r v :=
  ⟨fun h => by cases h with | arr _ helements => exact helements, .arr elements⟩

theorem keysPairwise_obj {entries : List (JsString × Json)} :
    KeysPairwise r (.obj entries) ↔
      (entries.map Prod.fst).Pairwise r ∧ ∀ e ∈ entries, KeysPairwise r e.2 :=
  ⟨fun h => by cases h with | obj _ hkeys hentries => exact ⟨hkeys, hentries⟩,
    fun h => .obj entries h.1 h.2⟩

theorem keysPairwise_reorder (hr : ∀ a b, r a b → r b a)
    (harrange : ∀ entries, (arrange entries).Perm entries) (v : Json) :
    KeysPairwise r (reorder arrange v) ↔ KeysPairwise r v := by
  induction v using Json.induct with
  | null => exact Iff.rfl
  | bool b => exact Iff.rfl
  | num n => exact Iff.rfl
  | str s => exact Iff.rfl
  | arr elements ih =>
      rw [reorder_arr, keysPairwise_arr, keysPairwise_arr, List.forall_mem_map]
      exact forall₂_congr ih
  | obj entries ih =>
      have hperm := harrange (entries.map (Prod.map id (reorder arrange)))
      have hkeys := (hperm.map Prod.fst).pairwise_iff (R := r) fun {a b} => hr a b
      rw [reorder_obj, keysPairwise_obj, keysPairwise_obj, hkeys, List.map_map]
      simp only [hperm.mem_iff]
      rw [List.forall_mem_map]
      exact and_congr_right fun _ => forall₂_congr ih

theorem KeysPairwise.and {r' : JsString → JsString → Prop} (hv : KeysPairwise r v)
    (hv' : KeysPairwise r' v) : KeysPairwise (fun a b => r a b ∧ r' a b) v := by
  induction hv with
  | null => exact .null
  | bool b => exact .bool b
  | num n => exact .num n
  | str s => exact .str s
  | arr elements _ ih =>
      cases hv' with
      | arr _ helements => exact .arr _ fun v hmem => ih v hmem (helements v hmem)
  | obj entries hkeys _ ih =>
      cases hv' with
      | obj _ hkeys' hentries =>
          exact .obj _ (hkeys.and hkeys') fun e hmem => ih e hmem (hentries e hmem)

theorem isKeyArrangement_sortEntries {cmp : JsString → JsString → Ordering} :
    IsKeyArrangement (sortEntries cmp) :=
  fun f => sortEntries_map f

end Rearranging

/-! ## Rearranging values -/

/-- A permutation of the entries keeps the value up to key order. -/
theorem normalize_reorder (harrange : ∀ entries, (arrange entries).Perm entries)
    {v : Json} (h : WellFormed v) : normalize (reorder arrange v) = normalize v := by
  induction v using Json.induct with
  | null => rfl
  | bool b => rfl
  | num n => rfl
  | str s => rfl
  | arr elements ih =>
      cases h with
      | arr _ helements =>
          rw [normalize, reorder_arr, reorder_arr, reorder_arr, List.map_map]
          congr 1
          exact List.map_congr_left fun v hv => ih v hv (helements v hv)
  | obj entries ih =>
      cases h with
      | obj _ hkeys hvalues =>
          have hmap : (entries.map (Prod.map id (reorder arrange))).map
              (Prod.map id normalize) = entries.map (Prod.map id normalize) := by
            rw [List.map_map]
            apply List.map_congr_left
            intro e he
            exact Prod.ext rfl (ih e he (hvalues e he))
          have hperm := (harrange (entries.map (Prod.map id (reorder arrange)))).map
            (Prod.map id normalize)
          rw [hmap] at hperm
          have hties : ((entries.map (Prod.map id normalize)).map Prod.fst).Pairwise
              fun a b => unitOrder a b ≠ .eq := by
            rw [List.map_map]
            exact hkeys.imp fun hne htie => hne (unitOrder_eq htie)
          rw [normalize, reorder_obj, reorder_obj, reorder_obj]
          congr 1
          exact (sortEntries_eq_of_perm hperm.symm hties).symm

/-- A sort that ties no two keys of the value forgets the order of its
entries. -/
theorem reorder_sortEntries_normalize {cmp : JsString → JsString → Ordering}
    [Std.TransCmp cmp] {v : Json} (h : TieFree cmp v) :
    reorder (fun entries => arrange (sortEntries cmp entries)) (normalize v) =
      reorder (fun entries => arrange (sortEntries cmp entries)) v := by
  rw [normalize, reorder_reorder isKeyArrangement_sortEntries]
  apply h.reorder_congr
  intro entries hties
  have hforget := sortEntries_eq_of_perm (sortEntries_perm unitOrder entries).symm hties
  exact congrArg arrange hforget.symm

/-- Equal values up to key order have one sorted form, when the comparator ties
no two keys of either. -/
theorem EqUpToKeyOrder.sortJson_eq {cmp : JsString → JsString → Ordering}
    [Std.TransCmp cmp] {v w : Json} (h : EqUpToKeyOrder v w) (hv : TieFree cmp v)
    (hw : TieFree cmp w) : sortJson cmp v = sortJson cmp w := by
  calc sortJson cmp v = sortJson cmp (normalize v) :=
        (reorder_sortEntries_normalize hv).symm
    _ = sortJson cmp (normalize w) := by rw [h]
    _ = sortJson cmp w := reorder_sortEntries_normalize hw

theorem normalize_sortJson {cmp : JsString → JsString → Ordering} {v : Json}
    (h : WellFormed v) : normalize (sortJson cmp v) = normalize v :=
  normalize_reorder
    (fun entries => (enumerate_perm _).trans (sortEntries_perm _ entries)) h

/-- What is read back for a stored document is the document up to key order. -/
theorem normalize_jsonb {v : Json} (h : WellFormed v) :
    normalize (jsonb v) = normalize v :=
  normalize_reorder
    (fun entries => (enumerate_perm _).trans (sortEntries_perm _ entries)) h

/-- The value of a property, where the keys are distinct. -/
theorem field_obj_of_mem {entries : List (JsString × Json)}
    (hnodup : (entries.map Prod.fst).Nodup) {name : String} {v : Json}
    (h : (js name, v) ∈ entries) : (obj entries).field name = some v := by
  have hfind : (entries.find? fun e => e.1 = js name) = some (js name, v) := by
    refine Table.find?_eq_some h (decide_eq_true rfl) fun e he hname => ?_
    exact Table.eq_of_key_eq hnodup he h (of_decide_eq_true hname)
  rw [field, hfind]
  rfl

/-- A property that is read back is the property that was stored. -/
theorem field_jsonb {entries : List (String × Json)}
    (hnodup : (entries.map fun e => js e.1).Nodup) {name : String} {v : Json}
    (h : (name, v) ∈ entries) : (jsonb (object entries)).field name = some (jsonb v) := by
  have hperm : ∀ stored : List (JsString × Json),
      (enumerate (sortEntries jsonbOrder stored)).Perm stored :=
    fun stored => (enumerate_perm _).trans (sortEntries_perm _ stored)
  rw [jsonb, object, reorder_obj]
  apply field_obj_of_mem
  · apply ((hperm _).map Prod.fst).nodup_iff.mpr
    simpa [List.map_map, Function.comp_def] using hnodup
  · apply (hperm _).mem_iff.mpr
    rw [List.map_map]
    exact List.mem_map.mpr ⟨(name, v), h, rfl⟩

/-- A sorted form belongs to one class of values only, whatever the
comparator. -/
theorem eqUpToKeyOrder_of_sortJson_eq {cmp : JsString → JsString → Ordering}
    {v w : Json} (hv : WellFormed v) (hw : WellFormed w)
    (h : sortJson cmp v = sortJson cmp w) : EqUpToKeyOrder v w := by
  have hv' : normalize (sortJson cmp v) = normalize v := normalize_sortJson hv
  have hw' : normalize (sortJson cmp w) = normalize w := normalize_sortJson hw
  rw [EqUpToKeyOrder, ← hv', ← hw', h]

/-- Objects are equal up to key order when they hold the same entries, in any
order, with values that are equal up to key order. -/
theorem eqUpToKeyOrder_obj {es fs : List (JsString × Json)}
    (hes : (es.map Prod.fst).Nodup) :
    EqUpToKeyOrder (.obj es) (.obj fs) ↔
      (es.map (Prod.map id normalize)).Perm (fs.map (Prod.map id normalize)) := by
  rw [EqUpToKeyOrder, normalize, reorder_obj, reorder_obj, Json.obj.injEq, ← normalize]
  constructor
  · intro h
    exact (sortEntries_perm unitOrder _).symm.trans
      (h ▸ sortEntries_perm unitOrder _)
  · intro h
    apply sortEntries_eq_of_perm h
    rw [List.map_map]
    exact List.Pairwise.imp (fun hne htie => hne (unitOrder_eq htie)) hes

theorem eq_of_perm_of_keys {β : Type*} {es fs : List (JsString × β)} (h : es.Perm fs)
    (hkeys : es.map Prod.fst = fs.map Prod.fst) (hnodup : (es.map Prod.fst).Nodup) : es = fs := by
  induction es generalizing fs with
  | nil => exact h.nil_eq
  | cons e es ih =>
      cases fs with
      | nil => cases hkeys
      | cons f fs =>
          obtain ⟨-, htail⟩ := List.cons.inj hkeys
          obtain ⟨hnot, hnodup⟩ := List.nodup_cons.mp hnodup
          have hef : e = f := by
            rcases List.mem_cons.mp (h.subset List.mem_cons_self) with hef | hmem
            · exact hef
            · exact absurd (htail ▸ List.mem_map_of_mem hmem) hnot
          subst hef
          rw [ih ((List.perm_cons e).mp h) htail hnodup]

/-- Object literals with the same keys are equal up to key order when their values are. -/
theorem values_of_object {es fs : List (String × Json)}
    (h : EqUpToKeyOrder (.object es) (.object fs)) (hkeys : es.map Prod.fst = fs.map Prod.fst)
    (hnodup : (es.map Prod.fst).Nodup) :
    es.map (fun e => normalize e.2) = fs.map fun e => normalize e.2 := by
  have hfst (entries : List (String × Json)) :
      (entries.map fun e => (js e.1, e.2)).map Prod.fst = (entries.map Prod.fst).map js := by
    rw [List.map_map, List.map_map]
    rfl
  have hkey (entries : List (JsString × Json)) :
      (entries.map (Prod.map id normalize)).map Prod.fst = entries.map Prod.fst := by
    rw [List.map_map]
    rfl
  have hsnd (entries : List (String × Json)) :
      ((entries.map fun e => (js e.1, e.2)).map (Prod.map id normalize)).map Prod.snd =
        entries.map fun e => normalize e.2 := by
    rw [List.map_map, List.map_map]
    rfl
  have hunits : ((es.map Prod.fst).map js).Nodup := hnodup.map js_injective
  have heq := eq_of_perm_of_keys
    ((eqUpToKeyOrder_obj (by rw [hfst]; exact hunits)).mp h)
    (by rw [hkey, hkey, hfst, hfst, hkeys]) (by rw [hkey, hfst]; exact hunits)
  rw [← hsnd, ← hsnd, heq]

theorem WellFormed.object {entries : List (String × Json)} (hnodup : (entries.map Prod.fst).Nodup)
    (h : ∀ e ∈ entries, WellFormed e.2) : WellFormed (.object entries) := by
  refine .obj _ ?_ (List.forall_mem_map.mpr h)
  have hkeys : (entries.map fun e => (js e.1, e.2)).map Prod.fst = (entries.map Prod.fst).map js := by
    rw [List.map_map, List.map_map]
    rfl
  rw [hkeys]
  exact hnodup.map js_injective

theorem wellFormed_null : WellFormed .null := .null

theorem wellFormed_num (n : JsNumber) : WellFormed (.num n) := .num n

theorem wellFormed_str (s : JsString) : WellFormed (.str s) := .str s

@[simp] theorem normalize_str (s : JsString) : normalize (.str s) = .str s := by
  simp [normalize, reorder]

@[simp] theorem normalize_num (n : JsNumber) : normalize (.num n) = .num n := by
  simp [normalize, reorder]

@[simp] theorem normalize_null : normalize .null = .null := by
  simp [normalize, reorder]

end Json
