import Mathlib.Data.List.Count

/-!
# Words of a text

The words of a text are what stands between its separators, and `wordCount` counts how
often a word is one of them. A text that a separator parts in two has the words of both
parts, and a word with a unit that the text lacks is not in it.
-/

namespace List

variable {α : Type*} {p : α → Bool} {w xs ys : List α}

/-- The units of a word are units of the text. -/
theorem mem_of_mem_splitOnP (hw : w ∈ xs.splitOnP p) : ∀ c ∈ w, c ∈ xs := by
  induction xs generalizing w with
  | nil =>
      rw [splitOnP_nil, mem_singleton] at hw
      simp [hw]
  | cons x xs ih =>
      intro c hc
      rw [splitOnP_cons_eq_if_modifyHead] at hw
      split at hw
      · rcases mem_cons.mp hw with rfl | hw
        · cases hc
        · exact mem_cons_of_mem x (ih hw c hc)
      · rcases hsplit : xs.splitOnP p with _ | ⟨v, rest⟩
        · exact absurd hsplit (splitOnP_ne_nil p xs)
        · rw [hsplit, modifyHead_cons, mem_cons] at hw
          rcases hw with rfl | hw
          · rcases mem_cons.mp hc with rfl | hc
            · exact mem_cons_self
            · exact mem_cons_of_mem x (ih (hsplit ▸ mem_cons_self) c hc)
          · exact mem_cons_of_mem x (ih (hsplit ▸ mem_cons_of_mem v hw) c hc)

theorem mem_of_mem_intercalate {sep : List α} {words : List (List α)} {c : α}
    (h : c ∈ sep.intercalate words) : c ∈ sep ∨ ∃ v ∈ words, c ∈ v := by
  induction words with
  | nil => simp at h
  | cons v rest ih =>
      cases rest with
      | nil =>
          rw [intercalate_singleton] at h
          exact .inr ⟨v, mem_cons_self, h⟩
      | cons v' rest =>
          rw [intercalate_cons_cons, mem_append, mem_append] at h
          rcases h with (h | h) | h
          · exact .inr ⟨v, mem_cons_self, h⟩
          · exact .inl h
          · rcases ih h with h | ⟨w, hw, h⟩
            · exact .inl h
            · exact .inr ⟨w, mem_cons_of_mem v hw, h⟩

theorem intercalate_append {sep : List α} {words words' : List (List α)} (h : words ≠ [])
    (h' : words' ≠ []) : sep.intercalate (words ++ words') =
      sep.intercalate words ++ sep ++ sep.intercalate words' := by
  induction words with
  | nil => exact absurd rfl h
  | cons v rest ih =>
      cases rest with
      | nil => simp [intercalate_cons_of_ne_nil h']
      | cons v' rest =>
          rw [cons_append, cons_append, intercalate_cons_cons, ← cons_append,
            ih (cons_ne_nil v' rest), intercalate_cons_cons]
          simp only [append_assoc]

variable [DecidableEq α]

def wordCount (xs : List α) (p : α → Bool) (w : List α) : ℕ := (xs.splitOnP p).count w

theorem wordCount_append_cons (xs ys w : List α) {x : α} (hx : p x = true) :
    (xs ++ x :: ys).wordCount p w = xs.wordCount p w + ys.wordCount p w := by
  rw [wordCount, splitOnP_append_cons xs ys hx, count_append]
  rfl

theorem wordCount_of_forall_not (h : ∀ x ∈ xs, p x = false) :
    xs.wordCount p w = if xs = w then 1 else 0 := by
  rw [wordCount, splitOnP_eq_singleton h, count_singleton]
  simp

theorem wordCount_eq_zero {c : α} (hw : c ∈ w) (hxs : c ∉ xs) : xs.wordCount p w = 0 :=
  count_eq_zero_of_not_mem fun hmem => hxs (mem_of_mem_splitOnP hmem c hw)

theorem wordCount_intercalate {x y : α} (hx : p x = true) (hy : p y = true) (hw : w ≠ [])
    {words : List (List α)} (hwords : ∀ v ∈ words, ∀ c ∈ v, p c = false) :
    ([x, y].intercalate words).wordCount p w = words.count w := by
  have hnil : wordCount [] p w = 0 := by
    rw [wordCount_of_forall_not (forall_mem_nil _), if_neg hw.symm]
  induction words with
  | nil => exact hnil
  | cons v rest ih =>
      obtain ⟨hv, hrest⟩ := forall_mem_cons.mp hwords
      have hone : v.wordCount p w = if v = w then 1 else 0 := wordCount_of_forall_not hv
      cases rest with
      | nil =>
          rw [intercalate_singleton, hone, count_singleton]
          simp
      | cons v' rest =>
          have hparts : [x, y].intercalate (v :: v' :: rest) =
              v ++ x :: ([] ++ y :: [x, y].intercalate (v' :: rest)) := by
            rw [intercalate_cons_cons, append_assoc]
            rfl
          rw [hparts, wordCount_append_cons _ _ _ hx, wordCount_append_cons _ _ _ hy, hnil,
            ih hrest, hone, count_cons (b := v)]
          simp only [beq_iff_eq]
          omega

end List
