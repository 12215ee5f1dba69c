import Aico.Common.Identifiers
import Aico.Json.Numeral

/-!
# The digest of a JSON value

`canonicalDigest` sorts the keys of every object by `localeCompare` and then lets JavaScript
build the object, which puts the index-like keys first. So keys that the comparator ties keep
the order they came in, unless one of them is index-like; and values that differ only there have
different digests.
-/

namespace Json

variable {cmp : JsString → JsString → Ordering} {v w : Json}

/-! ## Keys that the comparator ties -/

/-- The comparator ties two keys, and the enumeration keeps them in the order they came in. -/
def StayTied (cmp : JsString → JsString → Ordering) (a b : JsString) : Prop :=
  cmp a b = .eq ∧ isIndexKey a = false ∧ isIndexKey b = false

/-- No object of the value holds two keys that stay tied. -/
def SettlesKeys (cmp : JsString → JsString → Ordering) : Json → Prop :=
  KeysPairwise fun a b => ¬ StayTied cmp a b

theorem StayTied.symm [Std.TransCmp cmp] {a b : JsString} (h : StayTied cmp a b) :
    StayTied cmp b a := by
  refine ⟨?_, h.2.2, h.2.1⟩
  have hswap : cmp b a = (cmp a b).swap := Std.OrientedCmp.eq_swap
  rw [hswap, h.1]
  rfl

/-- The entries that are enumerated first, in the order of their keys. -/
def indexEntries (entries : List (JsString × Json)) : List (JsString × Json) :=
  (entries.filter fun e => isIndexKey e.1).insertionSort
    fun a b => digitsValue a.1 ≤ digitsValue b.1

/-- The entries that are enumerated in the order they came in. -/
def otherEntries (entries : List (JsString × Json)) : List (JsString × Json) :=
  entries.filter fun e => !isIndexKey e.1

theorem enumerate_eq (entries : List (JsString × Json)) :
    enumerate entries = indexEntries entries ++ otherEntries entries := rfl

theorem isKeyArrangement_indexEntries : IsKeyArrangement indexEntries := by
  intro f entries
  unfold indexEntries
  rw [List.filter_map]
  exact (List.map_insertionSort _ _ (Prod.map id f) _ fun _ _ _ _ => Iff.rfl).symm

theorem isKeyArrangement_otherEntries : IsKeyArrangement otherEntries :=
  fun _ _ => List.filter_map

section Entries

variable {es fs : List (JsString × Json)}

theorem mem_indexEntries {e : JsString × Json} :
    e ∈ indexEntries es ↔ e ∈ es ∧ isIndexKey e.1 = true := by
  rw [indexEntries, List.mem_insertionSort, List.mem_filter]

theorem mem_otherEntries {e : JsString × Json} :
    e ∈ otherEntries es ↔ e ∈ es ∧ isIndexKey e.1 = false := by
  rw [otherEntries, List.mem_filter, Bool.not_eq_true']

theorem indexEntries_pairwise (es : List (JsString × Json)) :
    (indexEntries es).Pairwise fun a b => digitsValue a.1 ≤ digitsValue b.1 := by
  have : Std.Total fun a b : JsString × Json => digitsValue a.1 ≤ digitsValue b.1 :=
    ⟨fun _ _ => Nat.le_total _ _⟩
  have : IsTrans _ fun a b : JsString × Json => digitsValue a.1 ≤ digitsValue b.1 :=
    ⟨fun _ _ _ => Nat.le_trans⟩
  exact List.pairwise_insertionSort _ _

/-- The index-like entries are sorted by their keys whatever order they came in. -/
theorem indexEntries_eq (hkeys : (es.map Prod.fst).Nodup) (hperm : es.Perm fs) :
    indexEntries es = indexEntries fs := by
  have hsorted : (indexEntries es).Perm (indexEntries fs) :=
    ((List.perm_insertionSort _ _).trans (hperm.filter _)).trans
      (List.perm_insertionSort _ _).symm
  refine hsorted.eq_of_pairwise ?_ (indexEntries_pairwise es) (indexEntries_pairwise fs)
  intro a b ha hb hab hba
  obtain ⟨ha, haindex⟩ := mem_indexEntries.mp ha
  obtain ⟨hb, hbindex⟩ := mem_indexEntries.mp hb
  exact List.inj_on_of_nodup_map hkeys ha (hperm.mem_iff.mpr hb)
    (digitsValue_inj haindex hbindex (Nat.le_antisymm hab hba))

theorem otherEntries_eq [Std.TransCmp cmp]
    (hties : (es.map Prod.fst).Pairwise fun a b => ¬ StayTied cmp a b) (hperm : es.Perm fs) :
    otherEntries (sortEntries cmp es) = otherEntries (sortEntries cmp fs) := by
  have hsymm : Std.Symm fun a b : JsString × Json => ¬ StayTied cmp a.1 b.1 :=
    ⟨fun _ _ => mt StayTied.symm⟩
  have hsorted := ((sortEntries_perm cmp es).trans hperm).trans (sortEntries_perm cmp fs).symm
  refine (hsorted.filter _).eq_of_pairwise ?_ ((sortEntries_pairwise es).filter _)
    ((sortEntries_pairwise fs).filter _)
  intro a b ha hb hab hba
  obtain ⟨ha, haother⟩ := mem_otherEntries.mp ha
  obtain ⟨hb, hbother⟩ := mem_otherEntries.mp hb
  have ha := (sortEntries_perm cmp es).mem_iff.mp ha
  have hb := hperm.mem_iff.mpr ((sortEntries_perm cmp fs).mem_iff.mp hb)
  have htie : cmp a.1 b.1 = .eq := by
    have hswap : cmp b.1 a.1 = (cmp a.1 b.1).swap := Std.OrientedCmp.eq_swap
    rw [hswap] at hba
    revert hab hba
    cases cmp a.1 b.1 <;> simp
  by_contra hne
  exact (List.pairwise_map.mp hties).forall ha hb hne ⟨htie, haother, hbother⟩

theorem enumerate_sortEntries_eq [Std.TransCmp cmp] (hkeys : (es.map Prod.fst).Nodup)
    (hties : (es.map Prod.fst).Pairwise fun a b => ¬ StayTied cmp a b) (hperm : es.Perm fs) :
    enumerate (sortEntries cmp es) = enumerate (sortEntries cmp fs) := by
  have hperm' := ((sortEntries_perm cmp es).trans hperm).trans (sortEntries_perm cmp fs).symm
  have hkeys' : ((sortEntries cmp es).map Prod.fst).Nodup :=
    ((sortEntries_perm cmp es).map Prod.fst).nodup_iff.mpr hkeys
  rw [enumerate_eq, enumerate_eq, indexEntries_eq hkeys' hperm', otherEntries_eq hties hperm]

end Entries

/-- The sorted form forgets the order of the entries of a value that settles its keys. -/
theorem SettlesKeys.sortJson_normalize [Std.TransCmp cmp] (hv : WellFormed v)
    (hties : SettlesKeys cmp v) : sortJson cmp (normalize v) = sortJson cmp v := by
  unfold normalize sortJson
  rw [reorder_reorder isKeyArrangement_sortEntries]
  refine (hv.and hties).reorder_congr fun es hkeys => ?_
  exact (enumerate_sortEntries_eq (hkeys.imp And.left) (hkeys.imp And.right)
    (sortEntries_perm unitOrder es).symm).symm

theorem settlesKeys_normalize [Std.TransCmp cmp] :
    SettlesKeys cmp (normalize v) ↔ SettlesKeys cmp v :=
  keysPairwise_reorder (fun _ _ => mt StayTied.symm) (sortEntries_perm unitOrder) v

theorem SettlesKeys.sortJson_eq [Std.TransCmp cmp] (hv : WellFormed v) (hw : WellFormed w)
    (hties : SettlesKeys cmp v) (h : EqUpToKeyOrder v w) : sortJson cmp v = sortJson cmp w := by
  have hties' : SettlesKeys cmp w := by
    rw [← settlesKeys_normalize, ← h, settlesKeys_normalize]
    exact hties
  rw [← hties.sortJson_normalize hv, h, hties'.sortJson_normalize hw]

/-! ## Turning the other keys round -/

/-- The enumeration of an object whose keys other than the index-like ones came in the opposite
order. -/
def turned (entries : List (JsString × Json)) : List (JsString × Json) :=
  indexEntries entries ++ (otherEntries entries).reverse

theorem turned_perm (entries : List (JsString × Json)) : (turned entries).Perm entries :=
  ((List.reverse_perm _).append_left _).trans (enumerate_perm entries)

theorem isKeyArrangement_turned : IsKeyArrangement turned := by
  intro f entries
  unfold turned
  rw [isKeyArrangement_indexEntries, isKeyArrangement_otherEntries, List.map_append,
    List.map_reverse]

theorem enumerate_turned (entries : List (JsString × Json)) :
    enumerate (turned entries) = turned entries := by
  have hindex : (turned entries).filter (fun e => isIndexKey e.1) = indexEntries entries := by
    rw [turned, List.filter_append, List.filter_eq_self.mpr, List.filter_eq_nil_iff.mpr,
      List.append_nil]
    · intro e he
      rw [(mem_otherEntries.mp (List.mem_reverse.mp he)).2]
      decide
    · exact fun e he => (mem_indexEntries.mp he).2
  have hother : otherEntries (turned entries) = (otherEntries entries).reverse := by
    rw [turned, otherEntries, List.filter_append, List.filter_eq_nil_iff.mpr,
      List.filter_eq_self.mpr, List.nil_append]
    · intro e he
      rw [(mem_otherEntries.mp (List.mem_reverse.mp he)).2]
      decide
    · intro e he
      rw [(mem_indexEntries.mp he).2]
      decide
  rw [enumerate_eq, hother, indexEntries, hindex, (indexEntries_pairwise _).insertionSort_eq]
  rfl

section Pairs

variable {es : List (JsString × Json)} {x y : JsString × Json}

theorem pair_sublist_otherEntries (h : StayTied cmp x.1 y.1) (hpair : [x, y].Sublist es) :
    [x, y].Sublist (otherEntries es) := by
  have hkeep := hpair.filter fun e => !isIndexKey e.1
  rwa [List.filter_eq_self.mpr] at hkeep
  rw [List.forall_mem_cons, h.2.1]
  exact ⟨rfl, by simp [h.2.2]⟩

theorem pair_sublist_sorted (h : StayTied cmp x.1 y.1) (hpair : [x, y].Sublist es) :
    [x, y].Sublist (enumerate (sortEntries cmp es)) := by
  have hle : (cmp x.1 y.1).isLE := by
    rw [h.1]
    rfl
  have hsorted : [x, y].Sublist (sortEntries cmp es) := List.pair_sublist_insertionSort hle hpair
  exact (pair_sublist_otherEntries h hsorted).trans (List.sublist_append_right _ _)

theorem pair_sublist_turned (h : StayTied cmp x.1 y.1) (hpair : [x, y].Sublist es) :
    [y, x].Sublist (turned es) :=
  (pair_sublist_otherEntries h hpair).reverse.trans (List.sublist_append_right _ _)

end Pairs

theorem not_pair_sublist {α : Type*} {l : List α} {a b : α} (hl : l.Nodup)
    (hab : [a, b].Sublist l) : ¬ [b, a].Sublist l := by
  intro hba
  induction l with
  | nil => cases hab
  | cons c l ih =>
      obtain ⟨hc, hl⟩ := List.nodup_cons.mp hl
      cases hab with
      | cons _ hab =>
          cases hba with
          | cons _ hba => exact ih hl hab hba
          | cons_cons _ _ => exact hc (hab.subset (List.mem_cons_of_mem _ List.mem_cons_self))
      | cons_cons _ hb =>
          cases hba with
          | cons _ hba => exact hc (hba.subset (List.mem_cons_of_mem _ List.mem_cons_self))
          | cons_cons _ _ => exact hc (hb.subset List.mem_cons_self)

/-- Entries with one sorted form before and after the turn have no pair of keys that stay tied. -/
theorem settles_of_turned [Std.TransCmp cmp] {entries : List (JsString × Json)} {f g : Json → Json}
    (hkeys : (entries.map Prod.fst).Nodup)
    (h : enumerate (sortEntries cmp (entries.map (Prod.map id f))) =
      enumerate (sortEntries cmp (turned (entries.map (Prod.map id g))))) :
    (entries.map Prod.fst).Pairwise (fun a b => ¬ StayTied cmp a b) ∧
      ∀ e ∈ entries, f e.2 = g e.2 := by
  set sorted := enumerate (sortEntries cmp (entries.map (Prod.map id f))) with hsorted
  have hperm : sorted.Perm (entries.map (Prod.map id f)) :=
    (enumerate_perm _).trans (sortEntries_perm cmp _)
  have hperm' : sorted.Perm (entries.map (Prod.map id g)) :=
    h ▸ ((enumerate_perm _).trans (sortEntries_perm cmp _)).trans (turned_perm _)
  have hnodup : (sorted.map Prod.fst).Nodup := by
    rw [(hperm.map Prod.fst).nodup_iff, List.map_map]
    exact hkeys
  constructor
  · rw [List.pairwise_map, List.pairwise_iff_forall_sublist]
    intro x y hpair htied
    have hkept := pair_sublist_sorted (x := Prod.map id f x) (y := Prod.map id f y) htied
      (hpair.map (Prod.map id f))
    have hturned := pair_sublist_turned (x := Prod.map id g x) (y := Prod.map id g y) htied
      (hpair.map (Prod.map id g))
    have hturned := pair_sublist_sorted (x := Prod.map id g y) (y := Prod.map id g x)
      htied.symm hturned
    rw [← h] at hturned
    exact not_pair_sublist hnodup (hkept.map Prod.fst) (hturned.map Prod.fst)
  · intro e he
    have hmem := hperm.mem_iff.mpr (List.mem_map_of_mem (f := Prod.map id f) he)
    have hmem' := hperm'.mem_iff.mpr (List.mem_map_of_mem (f := Prod.map id g) he)
    exact congrArg Prod.snd (List.inj_on_of_nodup_map hnodup hmem hmem' rfl)

theorem settlesKeys_of_sortJson_eq [Std.TransCmp cmp] (hv : WellFormed v)
    (h : sortJson cmp v = sortJson cmp (reorder turned v)) : SettlesKeys cmp v := by
  have hcompose : ∀ v, sortJson cmp (reorder turned v) =
      reorder (fun es => enumerate (sortEntries cmp (turned es))) v :=
    reorder_reorder isKeyArrangement_turned
  rw [hcompose] at h
  induction v using Json.induct with
  | null => exact .null
  | bool b => exact .bool b
  | num n => exact .num n
  | str s => exact .str s
  | arr elements ih =>
      rw [sortJson, reorder_arr, reorder_arr, Json.arr.injEq, List.map_inj_left] at h
      exact keysPairwise_arr.mpr fun w hw => ih w hw (keysPairwise_arr.mp hv w hw) (h w hw)
  | obj entries ih =>
      obtain ⟨hkeys, hvalues⟩ := keysPairwise_obj.mp hv
      rw [sortJson, reorder_obj, reorder_obj, Json.obj.injEq] at h
      obtain ⟨hsettled, heq⟩ := settles_of_turned hkeys h
      exact keysPairwise_obj.mpr ⟨hsettled, fun e he => ih e he (hvalues e he) (heq e he)⟩

/-- A value as JavaScript holds it: no object has one key twice, and the entries stand in
enumeration order. -/
structure IsValue (v : Json) : Prop where
  wellFormed : WellFormed v
  enumerated : reorder enumerate v = v

theorem IsValue.turned (hv : IsValue v) : IsValue (reorder turned v) where
  wellFormed := (keysPairwise_reorder (fun _ _ => Ne.symm) turned_perm v).mpr hv.wellFormed
  enumerated := by
    rw [reorder_reorder isKeyArrangement_turned]
    simp only [enumerate_turned]

end Json

namespace Aico

namespace Runtime

open Json (EqUpToKeyOrder IsValue SettlesKeys)

variable {rt : Runtime} {v w : Json}

theorem canonicalDigest_eq_iff (hsha : Function.Injective rt.sha256) :
    rt.canonicalDigest v = rt.canonicalDigest w ↔
      Json.sortJson rt.localeCompare v = Json.sortJson rt.localeCompare w :=
  (hsha.comp Json.stringify_injective).eq_iff

theorem settlesKeys_of_canonicalDigest (hsha : Function.Injective rt.sha256) (hv : IsValue v)
    (h : ∀ w, IsValue w → EqUpToKeyOrder v w → rt.canonicalDigest v = rt.canonicalDigest w) :
    SettlesKeys rt.localeCompare v := by
  have := rt.localeCompare_trans
  have hturned := (Json.normalize_reorder Json.turned_perm hv.wellFormed).symm
  exact Json.settlesKeys_of_sortJson_eq hv.wellFormed
    ((canonicalDigest_eq_iff hsha).mp (h _ hv.turned hturned))

/-- The digest of a value tells the values that are equal to it up to key order from the others
when, and only when, no object of the value holds two keys that stay tied. -/
theorem canonicalDigest_iff (hsha : Function.Injective rt.sha256) (hv : IsValue v) :
    (∀ w, IsValue w → (rt.canonicalDigest v = rt.canonicalDigest w ↔ EqUpToKeyOrder v w)) ↔
      SettlesKeys rt.localeCompare v := by
  have := rt.localeCompare_trans
  constructor
  · intro h
    exact settlesKeys_of_canonicalDigest hsha hv fun w hw => (h w hw).mpr
  · intro hties w hw
    rw [canonicalDigest_eq_iff hsha]
    exact ⟨Json.eqUpToKeyOrder_of_sortJson_eq hv.wellFormed hw.wellFormed,
      hties.sortJson_eq hv.wellFormed hw.wellFormed⟩

/-- The accented letter and the plain one, which no collation ties. -/
def letterValue : Json := .obj [([0xE9], .nat 1), ([0x65], .nat 2)]

theorem isValue_letterValue : IsValue letterValue where
  wellFormed := by
    refine Json.keysPairwise_obj.mpr ⟨by decide, ?_⟩
    simp only [List.forall_mem_cons]
    exact ⟨.num _, .num _, List.forall_mem_nil _⟩
  enumerated := rfl

/-- The canonical text `\x7b"e":2,"é":1\x7d` of the value with its digest. -/
def letterSha256 : JsString → Digest :=
  sha256On (js "\x7b\"e\":2,\"" ++ 0xE9 :: js "\":1\x7d")
    (js "ae0cc153856ae8fdab2420c8f8e36a9f9cd47c4b1a73531be4bd7dc8092fa69e")

/-- The two entries in either order. -/
theorem canonicalDigest_iff_demo :
    (sample letterSha256).canonicalDigest letterValue =
        js "ae0cc153856ae8fdab2420c8f8e36a9f9cd47c4b1a73531be4bd7dc8092fa69e" ∧
      (sample letterSha256).canonicalDigest letterValue =
        (sample letterSha256).canonicalDigest (Json.reorder Json.turned letterValue) := by
  have hsettles : SettlesKeys (sample letterSha256).localeCompare letterValue := by
    refine Json.keysPairwise_obj.mpr ⟨?_, ?_⟩
    · have huntied : (sample letterSha256).localeCompare [0xE9] [0x65] ≠ .eq := by decide
      exact List.pairwise_pair.mpr fun htied => huntied htied.1
    · simp only [List.forall_mem_cons]
      exact ⟨.num _, .num _, List.forall_mem_nil _⟩
  have hsha : Function.Injective (sample letterSha256).sha256 := sha256On_injective (by decide)
  have hdigest := (canonicalDigest_iff hsha isValue_letterValue).mpr hsettles
  exact ⟨rfl, (hdigest _ isValue_letterValue.turned).mpr
    (Json.normalize_reorder Json.turned_perm isValue_letterValue.wellFormed).symm⟩

/-- An accented letter as one unit and as two. -/
def composed : JsString := [0xE9]

def decomposed : JsString := [0x65, 0x301]

def accentedValue : Json := .obj [(composed, .nat 1), (decomposed, .nat 2)]

theorem isValue_accentedValue : IsValue accentedValue where
  wellFormed := by
    refine Json.keysPairwise_obj.mpr ⟨by decide, ?_⟩
    simp only [List.forall_mem_cons]
    exact ⟨.num _, .num _, List.forall_mem_nil _⟩
  enumerated := rfl

/-- A comparison that ties the two spellings, as canonically equivalent strings are to be, lets
the order of the keys into the digest. -/
theorem canonicalDigest_fails :
    ¬ ∃ rt : Runtime, Function.Injective rt.sha256 ∧ rt.localeCompare composed decomposed = .eq ∧
      ∀ v w, IsValue v → IsValue w →
        (rt.canonicalDigest v = rt.canonicalDigest w ↔ EqUpToKeyOrder v w) := by
  rintro ⟨rt, hsha, htie, h⟩
  have hsettles := settlesKeys_of_canonicalDigest hsha isValue_accentedValue fun w hw =>
    (h accentedValue w isValue_accentedValue hw).mpr
  have hkeys := (Json.keysPairwise_obj.mp hsettles).1
  exact (List.pairwise_cons.mp hkeys).1 decomposed (by decide) ⟨htie, by decide, by decide⟩

end Runtime

end Aico
