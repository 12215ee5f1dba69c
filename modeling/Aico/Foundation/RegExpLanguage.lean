import Mathlib.Computability.Language
import Aico.Foundation.RegExp

/-!
# The language of a node

A node without groups and boundaries matches the texts of a language, wherever they stand.
`mem_run_iff` says so; where an expression occurs in a text is then a question about the
parts of the text.
-/

namespace RegExp

namespace Node

/-- The node has no group and looks at no unit that it does not read. -/
def isSpelled : Node → Bool
  | empty | unit _ | star _ => true
  | seq r q | alt r q => r.isSpelled && q.isSpelled
  | group _ _ | wordBoundary | start | stop => false

def language (ignoreCase : Bool) : Node → Language UInt16
  | empty => 1
  | unit c => {us | ∃ u, c.contains ignoreCase u = true ∧ us = [u]}
  | star c => {us | ∀ u ∈ us, c.contains ignoreCase u = true}
  | seq r q => r.language ignoreCase * q.language ignoreCase
  | alt r q => r.language ignoreCase + q.language ignoreCase
  | group _ _ | wordBoundary | start | stop => 0

def ofUnits : JsString → Node
  | [] => empty
  | u :: us => seq (unit ⟨false, [.unit u]⟩) (ofUnits us)

/-- The first of the alternatives that matches. -/
def oneOf : List Node → Node
  | [] => empty
  | [r] => r
  | r :: q :: rest => alt r (oneOf (q :: rest))

end Node

variable {ignoreCase : Bool} {c : UnitClass} {r q : Node} {s t : Cursor} {us : JsString}

@[simp] theorem mem_language_empty : us ∈ Node.empty.language ignoreCase ↔ us = [] :=
  Language.mem_one us

@[simp] theorem mem_language_unit : us ∈ (Node.unit c).language ignoreCase ↔
    ∃ u, c.contains ignoreCase u = true ∧ us = [u] := Iff.rfl

@[simp] theorem mem_language_star : us ∈ (Node.star c).language ignoreCase ↔
    ∀ u ∈ us, c.contains ignoreCase u = true := Iff.rfl

@[simp] theorem mem_language_seq : us ∈ (Node.seq r q).language ignoreCase ↔
    ∃ vs ∈ r.language ignoreCase, ∃ ws ∈ q.language ignoreCase, vs ++ ws = us :=
  Language.mem_mul

@[simp] theorem mem_language_alt : us ∈ (Node.alt r q).language ignoreCase ↔
    us ∈ r.language ignoreCase ∨ us ∈ q.language ignoreCase :=
  Language.mem_add _ _ us

def Cursor.behind (s : Cursor) (us rest : JsString) : Cursor :=
  ⟨us.reverse ++ s.before, rest, s.captures⟩

theorem mem_run_iff (hr : r.isSpelled = true) : t ∈ run ignoreCase r s ↔
    ∃ us rest, us ∈ r.language ignoreCase ∧ s.after = us ++ rest ∧ t = s.behind us rest := by
  induction r generalizing s t with
  | empty =>
      rw [run, List.mem_singleton]
      constructor
      · rintro rfl
        exact ⟨[], t.after, rfl, rfl, rfl⟩
      · rintro ⟨us, rest, rfl, hafter, rfl⟩
        exact Cursor.ext rfl hafter.symm rfl
  | unit c =>
      rw [mem_run_unit]
      constructor
      · rintro ⟨u, rest, hafter, hu, rfl⟩
        exact ⟨[u], rest, ⟨u, hu, rfl⟩, hafter, rfl⟩
      · rintro ⟨us, rest, ⟨u, hu, rfl⟩, hafter, rfl⟩
        exact ⟨u, rest, hafter, hu, rfl⟩
  | star c =>
      rw [mem_run_star]
      constructor
      · rintro ⟨us, rest, hafter, hus, rfl⟩
        exact ⟨us, rest, hus, hafter, rfl⟩
      · rintro ⟨us, rest, hus, hafter, rfl⟩
        exact ⟨us, rest, hafter, hus, rfl⟩
  | seq r q ihr ihq =>
      obtain ⟨hr, hq⟩ := Bool.and_eq_true_iff.mp hr
      rw [mem_run_seq]
      constructor
      · rintro ⟨m, hm, h⟩
        obtain ⟨us, _, hus, hafter, rfl⟩ := (ihr hr).mp hm
        obtain ⟨vs, rest, hvs, rfl, rfl⟩ := (ihq hq).mp h
        refine ⟨us ++ vs, rest, mem_language_seq.mpr ⟨us, hus, vs, hvs, rfl⟩, ?_, ?_⟩
        · rw [hafter, List.append_assoc]
        · simp [Cursor.behind]
      · rintro ⟨_, rest, hmem, hafter, rfl⟩
        obtain ⟨us, hus, vs, hvs, rfl⟩ := mem_language_seq.mp hmem
        rw [List.append_assoc] at hafter
        refine ⟨s.behind us (vs ++ rest), (ihr hr).mpr ⟨us, vs ++ rest, hus, hafter, rfl⟩,
          (ihq hq).mpr ⟨vs, rest, hvs, rfl, ?_⟩⟩
        simp [Cursor.behind]
  | alt r q ihr ihq =>
      obtain ⟨hr, hq⟩ := Bool.and_eq_true_iff.mp hr
      rw [mem_run_alt, ihr hr, ihq hq]
      simp only [mem_language_alt, or_and_right, exists_or]
  | group index r => cases hr
  | wordBoundary => cases hr
  | start => cases hr
  | stop => cases hr

theorem contains_unit {u v : UInt16} : UnitClass.contains ignoreCase ⟨false, [.unit v]⟩ u = true ↔
    foldUnit ignoreCase u = foldUnit ignoreCase v := by
  simp [UnitClass.contains, ClassItem.contains]

theorem mem_language_ofUnits {w : JsString} : us ∈ (Node.ofUnits w).language ignoreCase ↔
    us.map (foldUnit ignoreCase) = w.map (foldUnit ignoreCase) := by
  induction w generalizing us with
  | nil => simp [Node.ofUnits]
  | cons v w ih =>
      rw [Node.ofUnits, mem_language_seq, List.map_cons]
      constructor
      · rintro ⟨_, ⟨u, hu, rfl⟩, vs, hvs, rfl⟩
        rw [List.singleton_append, List.map_cons, contains_unit.mp hu, ih.mp hvs]
      · intro h
        obtain ⟨u, vs, rfl, hu, hvs⟩ := List.map_eq_cons_iff.mp h
        exact ⟨[u], ⟨u, contains_unit.mpr hu, rfl⟩, vs, ih.mpr hvs, rfl⟩

theorem mem_language_oneOf {nodes : List Node} (hnodes : nodes ≠ []) :
    us ∈ (Node.oneOf nodes).language ignoreCase ↔
      ∃ r ∈ nodes, us ∈ r.language ignoreCase := by
  induction nodes with
  | nil => exact absurd rfl hnodes
  | cons r nodes ih =>
      cases nodes with
      | nil => simp [Node.oneOf]
      | cons q rest =>
          rw [Node.oneOf, mem_language_alt, ih (List.cons_ne_nil _ _)]
          simp only [List.exists_mem_cons_iff]

/-- A group remembers what it has read. -/
theorem mem_run_captured (hr : r.isSpelled = true) {index : ℕ} :
    t ∈ run ignoreCase (.seq (.group index r) .empty) s ↔
      ∃ us rest, us ∈ r.language ignoreCase ∧ s.after = us ++ rest ∧
        t = { s.behind us rest with captures := (index, us) :: s.captures } := by
  have hgroup : t ∈ run ignoreCase (.seq (.group index r) .empty) s ↔
      t ∈ run ignoreCase (.group index r) s := by
    simp [run]
  rw [hgroup, mem_run_group]
  constructor
  · rintro ⟨m, hm, rfl⟩
    obtain ⟨us, rest, hus, hafter, rfl⟩ := (mem_run_iff hr).mp hm
    have hreads : Reads s (s.behind us rest) us := ⟨hafter, rfl⟩
    rw [hreads.upTo]
    exact ⟨us, rest, hus, hafter, rfl⟩
  · rintro ⟨us, rest, hus, hafter, rfl⟩
    have hreads : Reads s (s.behind us rest) us := ⟨hafter, rfl⟩
    refine ⟨s.behind us rest, (mem_run_iff hr).mpr ⟨us, rest, hus, hafter, rfl⟩, ?_⟩
    rw [hreads.upTo]
    rfl

/-- What a node reads, where it ends at the boundary of a word. -/
theorem mem_run_bounded (hr : r.isSpelled = true) :
    t ∈ run ignoreCase (.seq r (.seq .wordBoundary .empty)) s ↔
      ∃ us rest, us ∈ r.language ignoreCase ∧ s.after = us ++ rest ∧ t = s.behind us rest ∧
        t.atWordBoundary = true := by
  have hbound (m : Cursor) : t ∈ run ignoreCase (.seq .wordBoundary .empty) m ↔
      m.atWordBoundary = true ∧ t = m := by
    rw [mem_run_seq]
    constructor
    · rintro ⟨_, hm, h⟩
      obtain ⟨hboundary, rfl⟩ := mem_run_wordBoundary.mp hm
      exact ⟨hboundary, List.mem_singleton.mp h⟩
    · rintro ⟨hboundary, rfl⟩
      exact ⟨t, mem_run_wordBoundary.mpr ⟨hboundary, rfl⟩, List.mem_singleton_self t⟩
  rw [mem_run_seq]
  constructor
  · rintro ⟨m, hm, h⟩
    obtain ⟨us, rest, hus, hafter, rfl⟩ := (mem_run_iff hr).mp hm
    obtain ⟨hboundary, rfl⟩ := (hbound _).mp h
    exact ⟨us, rest, hus, hafter, rfl, hboundary⟩
  · rintro ⟨us, rest, hus, hafter, rfl, hboundary⟩
    exact ⟨_, (mem_run_iff hr).mpr ⟨us, rest, hus, hafter, rfl⟩, (hbound _).mpr ⟨hboundary, rfl⟩⟩

theorem run_seq_assoc (a b : Node) : run ignoreCase (.seq (.seq a b) r) s =
    run ignoreCase (.seq a (.seq b r)) s := by
  simp only [run, List.flatMap_assoc]

/-! ## Occurrences -/

variable {re : RegExp} {text : JsString} {i j : ℕ}

/-- The expression matches the units from `i` to `j` of the text. -/
def Occurs (re : RegExp) (text : JsString) (i j : ℕ) : Prop :=
  j ≤ text.length ∧ ∃ t ∈ run re.ignoreCase re.node ⟨(text.take i).reverse, text.drop i, []⟩,
    t.after = text.drop j

theorem Occurs.split (hre : re.node.isSpelled = true) (h : re.Occurs text i j) :
    ∃ us ∈ re.node.language re.ignoreCase, text.take j = text.take i ++ us := by
  obtain ⟨-, t, ht, hafter⟩ := h
  obtain ⟨us, rest, hus, hsplit, rfl⟩ := (mem_run_iff hre).mp ht
  obtain rfl : rest = text.drop j := hafter
  have hsplit : text.drop i = us ++ text.drop j := hsplit
  have hsame : text.take j ++ text.drop j = text.take i ++ us ++ text.drop j :=
    calc text.take j ++ text.drop j = text := List.take_append_drop j text
      _ = text.take i ++ text.drop i := (List.take_append_drop i text).symm
      _ = text.take i ++ us ++ text.drop j := by rw [hsplit, List.append_assoc]
  exact ⟨us, hus, List.append_cancel_right hsame⟩

theorem occurs_append (hre : re.node.isSpelled = true) (before : JsString)
    (h : ∃ t ∈ run re.ignoreCase re.node ⟨[], us, []⟩, t.after = []) :
    re.Occurs (before ++ us) before.length (before ++ us).length := by
  obtain ⟨t, ht, hafter⟩ := h
  obtain ⟨us', rest, hus, hsplit, rfl⟩ := (mem_run_iff hre).mp ht
  obtain rfl : rest = [] := hafter
  obtain rfl : us = us' := hsplit.trans (List.append_nil _)
  refine ⟨Nat.le_refl _, _, (mem_run_iff hre).mpr ⟨us, [], hus, ?_, rfl⟩, ?_⟩
  · rw [List.append_nil]
    exact List.drop_left
  · exact List.drop_length.symm

theorem test_iff_contained (hre : re.node.isSpelled = true) : re.test text = true ↔
    ∃ us ∈ re.node.language re.ignoreCase, us <:+: text := by
  rw [test_iff]
  constructor
  · rintro ⟨s, hs, t, ht⟩
    obtain ⟨before, _, rfl, rfl⟩ := mem_positions.mp hs
    obtain ⟨us, rest, hus, rfl, -⟩ := (mem_run_iff hre).mp ht
    exact ⟨us, hus, before, rest, List.append_assoc _ _ _⟩
  · rintro ⟨us, hus, before, rest, rfl⟩
    rw [List.append_assoc]
    exact ⟨_, mem_positions.mpr ⟨before, us ++ rest, rfl, rfl⟩, _,
      (mem_run_iff hre).mpr ⟨us, rest, hus, rfl, rfl⟩⟩

/-- What occurs within the first `n` units is found there. -/
theorem Occurs.test_take (hre : re.node.isSpelled = true) (h : re.Occurs text i j) {n : ℕ}
    (hn : j ≤ n) : re.test (text.take n) = true := by
  obtain ⟨us, hus, hsplit⟩ := h.split hre
  refine (test_iff_contained hre).mpr ⟨us, hus, ?_⟩
  have hpart : us <:+: text.take j := by
    rw [hsplit]
    exact (List.suffix_append _ us).isInfix
  exact hpart.trans (List.take_prefix_take_left hn).isInfix

def Node.needs (v : UInt16) : Node → Bool
  | unit c => c = ⟨false, [.unit v]⟩
  | seq r q => r.needs v || q.needs v
  | alt r q => r.needs v && q.needs v
  | empty | star _ | group _ _ | wordBoundary | start | stop => false

theorem exists_mem_of_needs {v : UInt16} (hr : r.needs v = true)
    (hus : us ∈ r.language ignoreCase) :
    ∃ u ∈ us, foldUnit ignoreCase u = foldUnit ignoreCase v := by
  induction r generalizing us with
  | unit c =>
      obtain rfl := of_decide_eq_true hr
      obtain ⟨u, hu, rfl⟩ := hus
      exact ⟨u, List.mem_singleton_self u, contains_unit.mp hu⟩
  | seq r q ihr ihq =>
      obtain ⟨vs, hvs, ws, hws, rfl⟩ := mem_language_seq.mp hus
      rcases Bool.or_eq_true_iff.mp hr with hr | hq
      · obtain ⟨u, hu, hfold⟩ := ihr hr hvs
        exact ⟨u, List.mem_append_left _ hu, hfold⟩
      · obtain ⟨u, hu, hfold⟩ := ihq hq hws
        exact ⟨u, List.mem_append_right _ hu, hfold⟩
  | alt r q ihr ihq =>
      obtain ⟨hr, hq⟩ := Bool.and_eq_true_iff.mp hr
      exact (mem_language_alt.mp hus).elim (ihr hr) (ihq hq)
  | empty => cases hr
  | star c => cases hr
  | group index r => cases hr
  | wordBoundary => cases hr
  | start => cases hr
  | stop => cases hr

/-- An expression that needs a unit is not found where there is none. -/
theorem test_eq_false_of_needs (hre : re.node.isSpelled = true) {v : UInt16}
    (hneeds : re.node.needs v = true)
    (hnone : ∀ u ∈ text, foldUnit re.ignoreCase u ≠ foldUnit re.ignoreCase v) :
    re.test text = false := by
  rw [Bool.eq_false_iff]
  intro h
  obtain ⟨us, hus, hpart⟩ := (test_iff_contained hre).mp h
  obtain ⟨u, hu, hfold⟩ := exists_mem_of_needs hneeds hus
  exact hnone u (hpart.subset hu) hfold

end RegExp
