import Mathlib.Data.List.Infix
import Aico.Json.Canonical
import Aico.Json.Stringify

/-!
# Words of a printed value

A word holds no unit that has a meaning in the text of a value, and starts with one that no
number and no escape sequence has. Wherever it stands in the text of a flat object, it stands
in a name or in a text of it, as these are before they are printed.
-/

namespace JsString

/-- The units that separate and quote the parts of a value. -/
def structural : List UInt16 := [quote, backslash, 0x2C, 0x3A, 0x5B, 0x5D, 0x7B, 0x7D]

def escapeUnits : List UInt16 := js "\"\\btnfru0123456789abcdef"

structure IsWord (t : JsString) : Prop where
  plain : ∀ u ∈ t, u ∉ structural
  initial : ∃ u ∈ t.head?, u ∉ escapeUnits ∧ isNumberUnit u = false

variable {s t a b x : JsString} {u : UInt16}

theorem prefix_of_prefix_append_cons (hu : u ∉ t) (h : t <+: a ++ u :: b) : t <+: a := by
  have hleft : a ++ [u] <+: a ++ u :: b := ⟨b, by simp⟩
  obtain hin | hover := List.prefix_or_prefix_of_prefix h hleft
  · obtain rfl | hin := List.prefix_concat_iff.mp hin
    · exact absurd (List.mem_append_right _ (List.mem_singleton_self u)) hu
    · exact hin
  · exact absurd (hover.subset (List.mem_append_right _ (List.mem_singleton_self u))) hu

/-- What spares the unit in between is on one side of it. -/
theorem infix_append_cons (hu : u ∉ t) (h : t <:+: a ++ u :: b) : t <:+: a ∨ t <:+: b := by
  induction a with
  | nil =>
      rw [List.nil_append, List.infix_cons_iff] at h
      refine h.imp_left fun hprefix => ?_
      exact (prefix_of_prefix_append_cons (a := []) hu hprefix).isInfix
  | cons v a ih =>
      rw [List.cons_append, List.infix_cons_iff] at h
      obtain hprefix | h := h
      · exact .inl (prefix_of_prefix_append_cons (a := v :: a) hu hprefix).isInfix
      · exact (ih h).imp_left List.infix_cons

theorem escapeUnit_cases (u : UInt16) : escapeUnit u = [u] ∨
    ∃ sequence, escapeUnit u = backslash :: sequence ∧ ∀ v ∈ sequence, v ∈ escapeUnits := by
  have hhex (d : ℕ) (hd : d < 16) : hexUnit d ∈ escapeUnits := by
    interval_cases d <;> decide
  unfold escapeUnit
  split_ifs
  iterate 7 exact .inr ⟨_, rfl, List.forall_mem_singleton.mpr (by decide)⟩
  · have hlt := u.toNat_lt
    refine .inr ⟨_, rfl, List.forall_mem_cons.mpr ⟨by decide, ?_⟩⟩
    simp only [List.forall_mem_cons, List.not_mem_nil, false_implies, implies_true, and_true]
    exact ⟨hhex _ (by omega), hhex _ (by omega), hhex _ (by omega), hhex _ (by omega)⟩
  · exact .inl rfl

theorem prefix_escapeUnit (ht : backslash ∉ t) (h : t <+: escapeUnit u ++ x) :
    t = [] ∨ ∃ t', t = u :: t' ∧ t' <+: x := by
  obtain hself | ⟨sequence, hsequence, -⟩ := escapeUnit_cases u
  · rw [hself] at h
    exact List.prefix_cons_iff.mp h
  · rw [hsequence, List.cons_append] at h
    exact .inl (List.prefix_nil.mp (prefix_of_prefix_append_cons (a := []) ht h))

/-- Where a string is printed without a backslash, it is printed as it is. -/
theorem prefix_of_prefix_escape (ht : backslash ∉ t) (h : t <+: escape s) : t <+: s := by
  induction s using escape.induct generalizing t with
  | case1 => exact h
  | case2 u =>
      rw [escape, ← List.append_nil (escapeUnit u)] at h
      exact List.prefix_cons_iff.mpr (prefix_escapeUnit ht h)
  | case3 u v tail hpair ih =>
      rw [escape, if_pos hpair] at h
      obtain rfl | ⟨t', rfl, h'⟩ := List.prefix_cons_iff.mp h
      · exact List.nil_prefix
      obtain rfl | ⟨t'', rfl, h''⟩ := List.prefix_cons_iff.mp h'
      · exact List.cons_prefix_cons.mpr ⟨rfl, List.nil_prefix⟩
      have ht'' : backslash ∉ t'' := fun hmem =>
        ht (List.mem_cons_of_mem _ (List.mem_cons_of_mem _ hmem))
      exact List.cons_prefix_cons.mpr ⟨rfl, List.cons_prefix_cons.mpr ⟨rfl, ih ht'' h''⟩⟩
  | case4 u v tail hpair ih =>
      rw [escape, if_neg hpair] at h
      obtain rfl | ⟨t', rfl, h'⟩ := prefix_escapeUnit ht h
      · exact List.nil_prefix
      · exact List.cons_prefix_cons.mpr ⟨rfl, ih (List.not_mem_of_not_mem_cons ht) h'⟩

namespace IsWord

theorem notMem (ht : IsWord t) (hu : u ∈ structural) : u ∉ t := fun hmem => ht.plain u hmem hu

theorem ne_nil (ht : IsWord t) : t ≠ [] := by
  rintro rfl
  obtain ⟨_, hu, -⟩ := ht.initial
  cases hu

theorem infix_of_infix_sequence (ht : IsWord t) {sequence : List UInt16}
    (hunits : ∀ v ∈ sequence, v ∈ escapeUnits) (h : t <:+: sequence ++ x) : t <:+: x := by
  induction sequence with
  | nil => exact h
  | cons v sequence ih =>
      obtain ⟨hv, hunits⟩ := List.forall_mem_cons.mp hunits
      obtain hprefix | h := List.infix_cons_iff.mp h
      · obtain ⟨w, hw, hescape, -⟩ := ht.initial
        obtain rfl | ⟨_, rfl, -⟩ := List.prefix_cons_iff.mp hprefix
        · cases hw
        · obtain rfl := Option.some.inj hw
          exact absurd hv hescape
      · exact ih hunits h

theorem infix_escapeUnit (ht : IsWord t) (h : t <:+: escapeUnit u ++ x) :
    t <+: escapeUnit u ++ x ∨ t <:+: x := by
  obtain hself | ⟨sequence, hsequence, hunits⟩ := escapeUnit_cases u
  · rw [hself] at h ⊢
    exact List.infix_cons_iff.mp h
  · rw [hsequence] at h
    obtain hnil | h := infix_append_cons (a := []) (ht.notMem (by decide)) h
    · exact absurd (List.infix_nil.mp hnil) ht.ne_nil
    · exact .inr (ht.infix_of_infix_sequence hunits h)

theorem infix_of_infix_escape (ht : IsWord t) (h : t <:+: escape s) : t <:+: s := by
  have hprefix {s : JsString} (h : t <+: escape s) : t <:+: s :=
    (prefix_of_prefix_escape (ht.notMem (by decide)) h).isInfix
  induction s using escape.induct with
  | case1 => exact h
  | case2 u =>
      rw [escape, ← List.append_nil (escapeUnit u)] at h
      obtain h | h := ht.infix_escapeUnit h
      · rw [List.append_nil] at h
        exact hprefix (s := [u]) h
      · exact absurd (List.infix_nil.mp h) ht.ne_nil
  | case3 u v tail hpair ih =>
      by_cases hstart : t <+: escape (u :: v :: tail)
      · exact hprefix hstart
      rw [escape, if_pos hpair] at h hstart
      obtain h | h := List.infix_cons_iff.mp h
      · exact absurd h hstart
      obtain h | h := List.infix_cons_iff.mp h
      · obtain rfl | ⟨t', rfl, h'⟩ := List.prefix_cons_iff.mp h
        · exact absurd rfl ht.ne_nil
        · have ht' : backslash ∉ t' :=
            List.not_mem_of_not_mem_cons (ht.notMem (by decide))
          exact List.infix_cons (List.cons_prefix_cons.mpr
            ⟨rfl, prefix_of_prefix_escape ht' h'⟩).isInfix
      · exact List.infix_cons (List.infix_cons (ih h))
  | case4 u v tail hpair ih =>
      by_cases hstart : t <+: escape (u :: v :: tail)
      · exact hprefix hstart
      rw [escape, if_neg hpair] at h hstart
      obtain h | h := ht.infix_escapeUnit h
      · exact absurd h hstart
      · exact List.infix_cons (ih h)

end IsWord

end JsString

namespace Json

open JsString

variable {t : JsString}

theorem infix_quoted (ht : IsWord t) {s : JsString} (h : t <:+: quoted s) : t <:+: s := by
  have hquote : quote ∉ t := ht.notMem (by decide)
  obtain hnil | h := infix_append_cons (a := []) hquote h
  · exact absurd (List.infix_nil.mp hnil) ht.ne_nil
  obtain h | hnil := infix_append_cons hquote h
  · exact ht.infix_of_infix_escape h
  · exact absurd (List.infix_nil.mp hnil) ht.ne_nil

theorem not_infix_number (ht : IsWord t) (n : JsNumber) : ¬ t <:+: n.text := by
  intro h
  obtain ⟨u, hu, -, hnumber⟩ := ht.initial
  have hmem : u ∈ n.text := h.subset (List.mem_of_mem_head? hu)
  rw [n.isNumberUnit u hmem] at hnumber
  cases hnumber

theorem infix_entry (ht : IsWord t) {k rest : JsString} {v : Json}
    (h : t <:+: quoted k ++ 0x3A :: (stringify v ++ rest))
    (hrest : rest = [] ∨ ∃ rest', rest = 0x2C :: rest') :
    (t <:+: k ∨ t <:+: stringify v) ∨ t <:+: rest := by
  obtain h | h := infix_append_cons (ht.notMem (by decide)) h
  · exact .inl (.inl (infix_quoted ht h))
  obtain rfl | ⟨rest', rfl⟩ := hrest
  · rw [List.append_nil] at h
    exact .inl (.inr h)
  · obtain h | h := infix_append_cons (ht.notMem (by decide)) h
    · exact .inl (.inr h)
    · exact .inr (List.infix_cons h)

theorem stringifyMoreEntries_cases (entries : List (JsString × Json)) :
    stringifyMoreEntries entries = [] ∨
      ∃ rest, stringifyMoreEntries entries = 0x2C :: rest := by
  cases entries with
  | nil => exact .inl rfl
  | cons e entries => exact .inr ⟨_, by rw [stringifyMoreEntries]; rfl⟩

theorem infix_moreEntries (ht : IsWord t) {entries : List (JsString × Json)}
    (h : t <:+: stringifyMoreEntries entries) :
    ∃ e ∈ entries, t <:+: e.1 ∨ t <:+: stringify e.2 := by
  induction entries with
  | nil => exact absurd (List.infix_nil.mp h) ht.ne_nil
  | cons e entries ih =>
      rw [stringifyMoreEntries] at h
      obtain hnil | h := infix_append_cons (a := []) (ht.notMem (by decide)) h
      · exact absurd (List.infix_nil.mp hnil) ht.ne_nil
      simp only [List.append_eq, List.append_assoc, List.cons_append] at h
      obtain hentry | h := infix_entry ht h (stringifyMoreEntries_cases entries)
      · exact ⟨e, List.mem_cons_self, hentry⟩
      · obtain ⟨e', he', hin⟩ := ih h
        exact ⟨e', List.mem_cons_of_mem _ he', hin⟩

theorem infix_object (ht : IsWord t) {entries : List (JsString × Json)}
    (h : t <:+: stringify (.obj entries)) :
    ∃ e ∈ entries, t <:+: e.1 ∨ t <:+: stringify e.2 := by
  rw [stringify] at h
  obtain hnil | h := infix_append_cons (a := []) (ht.notMem (by decide)) h
  · exact absurd (List.infix_nil.mp hnil) ht.ne_nil
  obtain h | hnil := infix_append_cons (ht.notMem (by decide)) h
  · cases entries with
    | nil => exact absurd (List.infix_nil.mp h) ht.ne_nil
    | cons e entries =>
        apply infix_moreEntries ht
        rw [stringifyMoreEntries]
        rw [stringifyEntries] at h
        exact List.infix_cons h
  · exact absurd (List.infix_nil.mp hnil) ht.ne_nil

/-- Sorting moves the entries, and sorts their values. -/
theorem infix_sortJson_object (ht : IsWord t) {cmp : JsString → JsString → Ordering}
    {fields : List (String × Json)} (h : t <:+: stringify (sortJson cmp (object fields))) :
    ∃ f ∈ fields, t <:+: js f.1 ∨ t <:+: stringify (sortJson cmp f.2) := by
  unfold object at h
  rw [sortJson, reorder_obj] at h
  obtain ⟨e, he, hin⟩ := infix_object ht h
  have hmem := (enumerate_perm _).mem_iff.mp he
  rw [(sortEntries_perm cmp _).mem_iff, List.mem_map] at hmem
  obtain ⟨e', he', rfl⟩ := hmem
  obtain ⟨f, hf, rfl⟩ := List.mem_map.mp he'
  exact ⟨f, hf, hin⟩

theorem infix_str (ht : IsWord t) {cmp : JsString → JsString → Ordering} {s : JsString}
    (h : t <:+: stringify (sortJson cmp (.str s))) : t <:+: s := by
  rw [sortJson, reorder, stringify] at h
  exact infix_quoted ht h

theorem not_infix_nat (ht : IsWord t) {cmp : JsString → JsString → Ordering} (n : ℕ) :
    ¬ t <:+: stringify (sortJson cmp (.nat n)) := by
  rw [sortJson, nat, reorder, stringify]
  exact not_infix_number ht _

end Json
