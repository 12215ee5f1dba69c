import Mathlib.Data.List.TakeWhile
import Aico.Foundation.RegExpLanguage
import Aico.Foundation.RegExpSyntax
import Aico.Initiatives.GoalQualification

/-!
# The patterns of a goal

`jsEngine` is the platform's reading of the patterns that a goal is qualified with.
`mem_screenNumbers` says which numbers of screens it finds in a text: a number of one or two
digits or one of the words from six to twelve, from the start of a word on, then white space
or hyphens, then a screen word up to its end.
-/

namespace Aico

namespace GoalQualification

open RegExp

def screenPattern : String :=
  "\\b(?:(\\d{1,2})|(six|seven|eight|nine|ten|eleven|twelve))[-\\s]+(?:screen|route|page)s?\\b"

def decimalValue (digits : JsString) : ℕ :=
  digits.foldl (fun n u => 10 * n + (u.toNat - 0x30)) 0

/-- `WORD_NUMBER`. -/
def wordNumbers : List (String × ℕ) :=
  [("six", 6), ("seven", 7), ("eight", 8), ("nine", 9), ("ten", 10), ("eleven", 11),
    ("twelve", 12)]

/-- Whether two texts are the same but for the case of their letters. -/
def sameLetters (x y : JsString) : Bool := x.map (foldUnit true) = y.map (foldUnit true)

def wordNumber (word : JsString) : Option ℕ :=
  (wordNumbers.find? fun entry => sameLetters word (js entry.1)).map Prod.snd

def screenNumber (m : Cursor) : Option ℕ :=
  match m.captured 1 with
  | some (u :: digits) => some (decimalValue (u :: digits))
  | _ => (m.captured 2).bind wordNumber

def screenNumbers (text : JsString) : List ℕ :=
  match compile true screenPattern with
  | some re => (re.matchAll text).filterMap screenNumber
  | none => []

/-- The regular expressions of JavaScript. -/
def jsEngine : RegExpEngine where
  test := tests true
  screenNumbers := screenNumbers

/-! ## The node of the screen pattern -/

def digits : Node := .power (.unit ⟨false, [.digit]⟩)
  (.optionals (.unit ⟨false, [.digit]⟩) 1) 1

def numberWords : Node := .oneOf (wordNumbers.map fun entry => .ofUnits (js entry.1))

def separators : Node :=
  .power (.unit ⟨false, [.space, .unit 0x2D]⟩) (.star ⟨false, [.space, .unit 0x2D]⟩) 1

def screenKinds : List String := ["screen", "route", "page"]

def screenKind : Node := .oneOf (screenKinds.map fun kind => .ofUnits (js kind))

def plural : Node := .optionals (.unit ⟨false, [.unit 0x73]⟩) 1

def count : Node :=
  .alt (.seq (.group 1 (.seq digits .empty)) .empty) (.seq (.group 2 numberWords) .empty)

def screenNode : Node :=
  .seq .wordBoundary (.seq count (.seq separators (.seq screenKind (.seq plural
    (.seq .wordBoundary .empty)))))

theorem compile_screenPattern : compile true screenPattern = some ⟨screenNode, true⟩ := by
  decide +kernel

theorem isSpelled_parts : (Node.seq digits .empty).isSpelled = true ∧
    numberWords.isSpelled = true ∧
    (Node.seq separators (.seq screenKind plural)).isSpelled = true := by
  decide

/-! ## What the parts read -/

def screenWords : List String := ["screen", "screens", "route", "routes", "page", "pages"]

/-- A decimal numeral of any length. -/
structure IsNumeral (num : JsString) (n : ℕ) : Prop where
  ne_nil : num ≠ []
  digits : ∀ u ∈ num, isDigit u = true
  value : decimalValue num = n

/-- A numeral of one or two digits, or a number word. -/
def IsCount (num : JsString) (n : ℕ) : Prop :=
  num.length ≤ 2 ∧ IsNumeral num n ∨ wordNumber num = some n

def isGap (u : UInt16) : Bool := JsString.isWhitespace u || u = 0x2D

/-- White space and hyphens. -/
def IsGap (gap : JsString) : Prop := gap ≠ [] ∧ ∀ u ∈ gap, isGap u = true

def IsScreenWord (word : JsString) : Prop :=
  ∃ w ∈ screenWords, sameLetters word (js w) = true

theorem mem_language_digits {num : JsString} :
    num ∈ (Node.seq digits .empty).language true ↔
      num ≠ [] ∧ num.length ≤ 2 ∧ ∀ u ∈ num, isDigit u = true := by
  have hdigit (u : UInt16) : UnitClass.contains true ⟨false, [.digit]⟩ u = isDigit u := by
    simp [UnitClass.contains, ClassItem.contains]
  simp only [digits, Node.power, Node.optionals, mem_language_seq, mem_language_alt,
    mem_language_unit, mem_language_empty, hdigit]
  constructor
  · rintro ⟨_, ⟨_, ⟨u, hu, rfl⟩, _, ⟨_, ⟨v, hv, rfl⟩, _, rfl, rfl⟩ | rfl, rfl⟩, _, rfl, rfl⟩
    · simp [hu, hv]
    · simp [hu]
  · rintro ⟨hne, hlength, hall⟩
    rcases num with _ | ⟨u, _ | ⟨v, _ | ⟨w, rest⟩⟩⟩
    · exact absurd rfl hne
    · exact ⟨[u], ⟨[u], ⟨u, hall u (by simp), rfl⟩, [], .inr rfl, rfl⟩, [], rfl, rfl⟩
    · exact ⟨[u, v], ⟨[u], ⟨u, hall u (by simp), rfl⟩, [v],
        .inl ⟨[v], ⟨v, hall v (by simp), rfl⟩, [], rfl, rfl⟩, rfl⟩, [], rfl, rfl⟩
    · simp only [List.length_cons] at hlength
      omega

theorem mem_language_words {words : List String} (hwords : words ≠ []) {word : JsString} :
    word ∈ (Node.oneOf (words.map fun w => .ofUnits (js w))).language true ↔
      ∃ w ∈ words, sameLetters word (js w) = true := by
  rw [mem_language_oneOf (fun h => hwords (List.map_eq_nil_iff.mp h))]
  simp [mem_language_ofUnits, sameLetters]

theorem mem_language_separators {gap : JsString} :
    gap ∈ separators.language true ↔ IsGap gap := by
  have hgap (u : UInt16) : UnitClass.contains true ⟨false, [.space, .unit 0x2D]⟩ u = isGap u := by
    have hhyphen : foldUnit true u = foldUnit true 0x2D ↔ u = 0x2D := by
      unfold foldUnit
      grind
    simp [UnitClass.contains, ClassItem.contains, isGap, hhyphen]
  simp only [separators, Node.power, mem_language_seq, mem_language_unit, mem_language_star, hgap]
  constructor
  · rintro ⟨_, ⟨u, hu, rfl⟩, us, hus, rfl⟩
    exact ⟨List.cons_ne_nil _ _, List.forall_mem_cons.mpr ⟨hu, hus⟩⟩
  · rintro ⟨hne, hall⟩
    obtain ⟨u, us, rfl⟩ := List.exists_cons_of_ne_nil hne
    obtain ⟨hu, hus⟩ := List.forall_mem_cons.mp hall
    exact ⟨[u], ⟨u, hu, rfl⟩, us, hus, rfl⟩

theorem sameLetters_append {x y z : JsString} : sameLetters x (y ++ z) = true ↔
    ∃ x₁ x₂, x = x₁ ++ x₂ ∧ sameLetters x₁ y = true ∧ sameLetters x₂ z = true := by
  simp only [sameLetters, decide_eq_true_eq, List.map_append]
  constructor
  · exact fun h => List.map_eq_append_iff.mp h
  · rintro ⟨x₁, x₂, rfl, h₁, h₂⟩
    rw [List.map_append, h₁, h₂]

theorem mem_language_plural {p : JsString} :
    p ∈ plural.language true ↔ sameLetters p (js "s") = true ∨ p = [] := by
  simp only [plural, Node.optionals, mem_language_seq, mem_language_alt, mem_language_unit,
    mem_language_empty, sameLetters, decide_eq_true_eq]
  refine or_congr_left ?_
  constructor
  · rintro ⟨_, ⟨u, hu, rfl⟩, _, rfl, rfl⟩
    simpa [js_eq, JsString.utf16] using contains_unit.mp hu
  · intro h
    obtain ⟨u, rfl, hu⟩ := List.map_eq_singleton_iff.mp h
    exact ⟨[u], ⟨u, contains_unit.mpr hu, rfl⟩, [], rfl, rfl⟩

theorem mem_language_screenWord {word : JsString} :
    word ∈ (Node.seq screenKind plural).language true ↔ IsScreenWord word := by
  have hkinds : ∀ k ∈ screenKinds, k ∈ screenWords ∧ k ++ "s" ∈ screenWords := by decide
  have hwords : ∀ w ∈ screenWords, w ∈ screenKinds ∨ ∃ k ∈ screenKinds, w = k ++ "s" := by
    decide
  have hplural (k : String) : js (k ++ "s") = js k ++ js "s" := by simp [js_eq]
  rw [mem_language_seq, screenKind]
  simp only [mem_language_words (show screenKinds ≠ [] by decide), mem_language_plural]
  constructor
  · rintro ⟨x, ⟨k, hk, hkind⟩, p, hp | rfl, rfl⟩
    · refine ⟨k ++ "s", (hkinds k hk).2, ?_⟩
      rw [hplural]
      exact sameLetters_append.mpr ⟨x, p, rfl, hkind, hp⟩
    · rw [List.append_nil]
      exact ⟨k, (hkinds k hk).1, hkind⟩
  · rintro ⟨w, hw, hsame⟩
    rcases hwords w hw with hkind | ⟨k, hk, rfl⟩
    · exact ⟨word, ⟨w, hkind, hsame⟩, [], .inr rfl, List.append_nil _⟩
    · rw [hplural] at hsame
      obtain ⟨x, p, rfl, hkind, hp⟩ := sameLetters_append.mp hsame
      exact ⟨x, ⟨k, hk, hkind⟩, p, .inl hp, rfl⟩

/-! ## Word units -/

theorem isWord_foldUnit (u : UInt16) : isWord (foldUnit true u) = isWord u := by
  unfold foldUnit isWord isDigit
  grind

theorem isWord_of_isDigit {u : UInt16} (h : isDigit u = true) : isWord u = true := by
  simp [isWord, h]

theorem not_isWord_of_isGap {u : UInt16} (h : isGap u = true) : isWord u = false := by
  simp only [isGap, JsString.isWhitespace, Bool.or_eq_true, Bool.and_eq_true, decide_eq_true_eq,
    or_assoc] at h
  rcases h with ⟨-, h⟩ | rfl | rfl | rfl | ⟨h, -⟩ | rfl | rfl | rfl | rfl | rfl | rfl | rfl
  · unfold isWord isDigit
    grind
  pick_goal 4
  · unfold isWord isDigit
    grind
  all_goals rfl

theorem isWord_of_sameLetters {x y : JsString} (h : sameLetters x y = true)
    (hy : y.all isWord = true) : ∀ u ∈ x, isWord u = true := by
  intro u hu
  have hmem : foldUnit true u ∈ y.map (foldUnit true) := by
    rw [← of_decide_eq_true h]
    exact List.mem_map_of_mem hu
  obtain ⟨v, hv, hfold⟩ := List.mem_map.mp hmem
  rw [← isWord_foldUnit, ← hfold, isWord_foldUnit]
  exact List.all_eq_true.mp hy v hv

theorem ne_nil_of_sameLetters {x y : JsString} (h : sameLetters x y = true) (hy : y ≠ []) :
    x ≠ [] := by
  rintro rfl
  exact hy (List.map_eq_nil_iff.mp (of_decide_eq_true h).symm)

theorem wordNumber_eq_some {word : JsString} {n : ℕ} (h : wordNumber word = some n) :
    ∃ w, (w, n) ∈ wordNumbers ∧ sameLetters word (js w) = true := by
  obtain ⟨entry, hfind, rfl⟩ := Option.map_eq_some_iff.mp h
  have hsame := List.find?_some hfind
  exact ⟨entry.1, List.mem_of_find?_eq_some hfind, hsame⟩

theorem IsCount.ne_nil {num : JsString} {n : ℕ} (h : IsCount num n) : num ≠ [] := by
  rcases h with ⟨-, hnumeral⟩ | hword
  · exact hnumeral.ne_nil
  · have hwords : ∀ entry ∈ wordNumbers, js entry.1 ≠ [] := by decide
    obtain ⟨w, hw, hsame⟩ := wordNumber_eq_some hword
    exact ne_nil_of_sameLetters hsame (hwords _ hw)

theorem IsCount.isWord {num : JsString} {n : ℕ} (h : IsCount num n) :
    ∀ u ∈ num, RegExp.isWord u = true := by
  rcases h with ⟨-, hnumeral⟩ | hword
  · exact fun u hu => isWord_of_isDigit (hnumeral.digits u hu)
  · have hwords : ∀ entry ∈ wordNumbers, (js entry.1).all RegExp.isWord = true := by decide
    obtain ⟨w, hw, hsame⟩ := wordNumber_eq_some hword
    exact isWord_of_sameLetters hsame (hwords _ hw)

theorem IsScreenWord.ne_nil {word : JsString} (h : IsScreenWord word) : word ≠ [] := by
  have hwords : ∀ w ∈ screenWords, js w ≠ [] := by decide
  obtain ⟨w, hw, hsame⟩ := h
  exact ne_nil_of_sameLetters hsame (hwords w hw)

theorem IsScreenWord.isWord {word : JsString} (h : IsScreenWord word) :
    ∀ u ∈ word, RegExp.isWord u = true := by
  have hwords : ∀ w ∈ screenWords, (js w).all RegExp.isWord = true := by decide
  obtain ⟨w, hw, hsame⟩ := h
  exact isWord_of_sameLetters hsame (hwords w hw)

theorem isDigit_foldUnit (u : UInt16) : isDigit (foldUnit true u) = isDigit u := by
  unfold foldUnit isDigit
  grind

/-- A word is not made of digits. -/
theorem exists_not_isDigit {x y : JsString} (h : sameLetters x y = true)
    (hy : (y.any fun v => !isDigit v) = true) : ∃ u ∈ x, isDigit u = false := by
  obtain ⟨v, hv, hletter⟩ := List.any_eq_true.mp hy
  have hmem : foldUnit true v ∈ x.map (foldUnit true) := by
    rw [of_decide_eq_true h]
    exact List.mem_map_of_mem hv
  obtain ⟨u, hu, hfold⟩ := List.mem_map.mp hmem
  refine ⟨u, hu, ?_⟩
  rw [← isDigit_foldUnit, hfold, isDigit_foldUnit]
  simpa using hletter

theorem wordNumber_of_digits {num : JsString} (h : ∀ u ∈ num, isDigit u = true) :
    wordNumber num = none := by
  have hwords : ∀ entry ∈ wordNumbers, ((js entry.1).any fun v => !isDigit v) = true := by decide
  rcases hnumber : wordNumber num with _ | n
  · rfl
  · obtain ⟨w, hw, hsame⟩ := wordNumber_eq_some hnumber
    obtain ⟨u, hu, hletter⟩ := exists_not_isDigit hsame (hwords _ hw)
    exact absurd (h u hu) (by simp [hletter])

theorem IsCount.unique {num : JsString} {n n' : ℕ} (h : IsCount num n) (h' : IsCount num n') :
    n = n' := by
  rcases h with ⟨-, hnumeral⟩ | hword
  · rcases h' with ⟨-, hnumeral'⟩ | hword'
    · exact hnumeral.value.symm.trans hnumeral'.value
    · simp [wordNumber_of_digits hnumeral.digits] at hword'
  · rcases h' with ⟨-, hnumeral⟩ | hword'
    · simp [wordNumber_of_digits hnumeral.digits] at hword
    · exact Option.some.inj (hword.symm.trans hword')

theorem IsScreenWord.not_isCount {word : JsString} (h : IsScreenWord word) (n : ℕ) :
    ¬ IsCount word n := by
  have hletters : ∀ w ∈ screenWords, ((js w).any fun v => !isDigit v) = true := by decide
  have hwords : ∀ w ∈ screenWords, ∀ entry ∈ wordNumbers,
      sameLetters (js w) (js entry.1) = false := by decide
  obtain ⟨w, hw, hsame⟩ := h
  rintro (⟨-, hnumeral⟩ | hword)
  · obtain ⟨u, hu, hletter⟩ := exists_not_isDigit hsame (hletters w hw)
    exact absurd (hnumeral.digits u hu) (by simp [hletter])
  · obtain ⟨w', hw', hsame'⟩ := wordNumber_eq_some hword
    have heq : sameLetters (js w) (js w') = true :=
      decide_eq_true ((of_decide_eq_true hsame).symm.trans (of_decide_eq_true hsame'))
    exact absurd heq (by simp [hwords w hw _ hw'])

/-! ## The matches of the screen pattern -/

/-- The parts of a text that names `n` screens by a number that `counts`. -/
structure IsScreenCount (counts : JsString → ℕ → Prop) (before num gap word rest : JsString)
    (n : ℕ) : Prop where
  start : before.getLast?.any RegExp.isWord = false
  count : counts num n
  gap : IsGap gap
  word : IsScreenWord word
  stop : rest.head?.any RegExp.isWord = false

/-- The text names `n` screens. -/
def NamesScreens (counts : JsString → ℕ → Prop) (text : JsString) (n : ℕ) : Prop :=
  ∃ before num gap word rest, text = before ++ (num ++ (gap ++ (word ++ rest))) ∧
    IsScreenCount counts before num gap word rest n

/-- A word ends where the next unit is of no word. -/
theorem takeWhile_isWord {word rest : JsString} (h : ∀ u ∈ word, RegExp.isWord u = true)
    (hrest : rest.head?.any RegExp.isWord = false) :
    (word ++ rest).takeWhile RegExp.isWord = word := by
  rw [List.takeWhile_append_of_pos h]
  cases rest with
  | nil => simp
  | cons u rest =>
      have hu : RegExp.isWord u = false := hrest
      simp [hu]

theorem IsGap.head {gap : JsString} (h : IsGap gap) (rest : JsString) :
    (gap ++ rest).head?.any RegExp.isWord = false := by
  obtain ⟨u, gap, rfl⟩ := List.exists_cons_of_ne_nil h.1
  exact not_isWord_of_isGap (h.2 u List.mem_cons_self)

/-- Before a word unit, a place is the boundary of a word when no word ends there. -/
theorem atWordBoundary_iff {s : Cursor} (h : s.after.head?.any RegExp.isWord = true) :
    s.atWordBoundary = true ↔ s.before.reverse.getLast?.any RegExp.isWord = false := by
  rw [Cursor.atWordBoundary, h, List.getLast?_reverse]
  simp

theorem any_head_append {x y : JsString} (hx : x ≠ []) (h : ∀ u ∈ x, RegExp.isWord u = true) :
    (x ++ y).head?.any RegExp.isWord = true := by
  obtain ⟨u, x, rfl⟩ := List.exists_cons_of_ne_nil hx
  exact h u List.mem_cons_self

/-- Behind a word, a place is the boundary of a word when no word goes on there. -/
theorem atWordBoundary_behind {s : Cursor} {x word rest : JsString} (hword : word ≠ [])
    (h : ∀ u ∈ word, RegExp.isWord u = true) :
    (s.behind (x ++ word) rest).atWordBoundary = true ↔
      rest.head?.any RegExp.isWord = false := by
  have hbefore : (s.behind (x ++ word) rest).before.head?.any RegExp.isWord = true := by
    rw [Cursor.behind, List.reverse_append, List.append_assoc]
    exact any_head_append (by simpa using hword) fun u hu => h u (List.mem_reverse.mp hu)
  rw [Cursor.atWordBoundary, hbefore]
  simp [Cursor.behind]

theorem screenNumber_digits {t : Cursor} {num : JsString} (hnum : num ≠ [])
    (h : t.captures = [(1, num)]) : screenNumber t = some (decimalValue num) := by
  obtain ⟨u, digits, rfl⟩ := List.exists_cons_of_ne_nil hnum
  simp [screenNumber, Cursor.captured, h]

theorem screenNumber_word {t : Cursor} {word : JsString} (h : t.captures = [(2, word)]) :
    screenNumber t = wordNumber word := by
  simp [screenNumber, Cursor.captured, h]

theorem wordNumber_isSome {word : JsString} :
    word ∈ numberWords.language true ↔ ∃ n, wordNumber word = some n := by
  have hmap : numberWords = .oneOf ((wordNumbers.map Prod.fst).map fun w => .ofUnits (js w)) := by
    rw [List.map_map]
    rfl
  rw [hmap, mem_language_words (by decide), ← Option.isSome_iff_exists, wordNumber,
    Option.isSome_map, List.find?_isSome]
  simp

theorem mem_run_count {s m : Cursor} : m ∈ run true count s ↔
    ∃ num rest index, s.after = num ++ rest ∧
      m = { s.behind num rest with captures := (index, num) :: s.captures } ∧
      (index = 1 ∧ num ∈ (Node.seq digits .empty).language true ∨
        index = 2 ∧ num ∈ numberWords.language true) := by
  obtain ⟨hdigits, hwords, -⟩ := isSpelled_parts
  rw [count, mem_run_alt, mem_run_captured hdigits, mem_run_captured hwords]
  constructor
  · rintro (⟨num, rest, hnum, hafter, rfl⟩ | ⟨num, rest, hnum, hafter, rfl⟩)
    · exact ⟨num, rest, 1, hafter, rfl, .inl ⟨rfl, hnum⟩⟩
    · exact ⟨num, rest, 2, hafter, rfl, .inr ⟨rfl, hnum⟩⟩
  · rintro ⟨num, rest, index, hafter, rfl, ⟨rfl, hnum⟩ | ⟨rfl, hnum⟩⟩
    · exact .inl ⟨num, rest, hnum, hafter, rfl⟩
    · exact .inr ⟨num, rest, hnum, hafter, rfl⟩

/-- Up to the number, the pattern reads a language. -/
theorem mem_run_screenNode {s t : Cursor} : t ∈ run true screenNode s ↔
    s.atWordBoundary = true ∧ ∃ m ∈ run true count s, ∃ gap word rest, IsGap gap ∧
      IsScreenWord word ∧ m.after = gap ++ (word ++ rest) ∧ t = m.behind (gap ++ word) rest ∧
      t.atWordBoundary = true := by
  obtain ⟨-, -, htail⟩ := isSpelled_parts
  have hassoc (m : Cursor) : run true (.seq separators (.seq screenKind (.seq plural
      (.seq .wordBoundary .empty)))) m = run true (.seq (.seq separators (.seq screenKind plural))
        (.seq .wordBoundary .empty)) m := by
    rw [run_seq_assoc, run, run]
    exact List.flatMap_congr fun m' _ => (run_seq_assoc screenKind plural).symm
  rw [screenNode, mem_run_seq]
  constructor
  · rintro ⟨_, hstart, h⟩
    obtain ⟨hboundary, rfl⟩ := mem_run_wordBoundary.mp hstart
    obtain ⟨m, hm, h⟩ := mem_run_seq.mp h
    rw [hassoc] at h
    obtain ⟨us, rest, hus, hafter, rfl, hend⟩ := (mem_run_bounded htail).mp h
    obtain ⟨gap, hgap, word, hword, rfl⟩ := mem_language_seq.mp hus
    rw [List.append_assoc] at hafter
    exact ⟨hboundary, m, hm, gap, word, rest, mem_language_separators.mp hgap,
      mem_language_screenWord.mp hword, hafter, rfl, hend⟩
  · rintro ⟨hboundary, m, hm, gap, word, rest, hgap, hword, hafter, rfl, hend⟩
    refine ⟨s, mem_run_wordBoundary.mpr ⟨hboundary, rfl⟩, mem_run_seq.mpr ⟨m, hm, ?_⟩⟩
    rw [hassoc]
    refine (mem_run_bounded htail).mpr ⟨gap ++ word, rest, mem_language_seq.mpr ⟨gap,
      mem_language_separators.mpr hgap, word, mem_language_screenWord.mpr hword, rfl⟩, ?_, rfl,
      hend⟩
    rw [hafter, List.append_assoc]

theorem screenCount_of_mem_run {s t : Cursor} (h : t ∈ run true screenNode s) :
    ∃ num gap word n, Reads s t (num ++ (gap ++ word)) ∧
      IsScreenCount IsCount s.before.reverse num gap word t.after n ∧
      (s.captures = [] → screenNumber t = some n) := by
  obtain ⟨hboundary, m, hm, gap, word, rest, hgap, hword, hafter, rfl, hend⟩ :=
    mem_run_screenNode.mp h
  obtain ⟨num, _, index, hs, rfl, hindex⟩ := mem_run_count.mp hm
  obtain rfl := hafter
  have hcount : ∃ n, IsCount num n ∧ ∀ t : Cursor, t.captures = [(index, num)] →
      screenNumber t = some n := by
    rcases hindex with ⟨rfl, hnum⟩ | ⟨rfl, hnum⟩
    · obtain ⟨hne, hlength, hdigits⟩ := mem_language_digits.mp hnum
      have hcount : IsCount num (decimalValue num) := .inl ⟨hlength, hne, hdigits, rfl⟩
      exact ⟨_, hcount, fun t ht => screenNumber_digits hcount.ne_nil ht⟩
    · obtain ⟨n, hn⟩ := wordNumber_isSome.mp hnum
      exact ⟨n, .inr hn, fun t ht => (screenNumber_word ht).trans hn⟩
  obtain ⟨n, hcount, hnumber⟩ := hcount
  refine ⟨num, gap, word, n, ⟨?_, ?_⟩, ⟨?_, hcount, hgap, hword, ?_⟩, fun hs => hnumber _ ?_⟩
  · rw [hs]
    simp [Cursor.behind]
  · simp [Cursor.behind]
  · refine (atWordBoundary_iff ?_).mp hboundary
    rw [hs]
    exact any_head_append hcount.ne_nil hcount.isWord
  · exact (atWordBoundary_behind hword.ne_nil hword.isWord).mp hend
  · simp [Cursor.behind, hs]

theorem exists_mem_run {s : Cursor} {num gap word rest : JsString} {n : ℕ}
    (h : IsScreenCount IsCount s.before.reverse num gap word rest n)
    (hafter : s.after = num ++ (gap ++ (word ++ rest))) :
    ∃ t ∈ run true screenNode s, s.captures = [] → screenNumber t = some n := by
  have hboundary : s.atWordBoundary = true := by
    refine (atWordBoundary_iff ?_).mpr h.start
    rw [hafter]
    exact any_head_append h.count.ne_nil h.count.isWord
  have hcount : ∃ index, (index = 1 ∧ num ∈ (Node.seq digits .empty).language true ∨
      index = 2 ∧ num ∈ numberWords.language true) ∧
      ∀ t : Cursor, t.captures = [(index, num)] → screenNumber t = some n := by
    rcases h.count with ⟨hlength, hnumeral⟩ | hword
    · exact ⟨1, .inl ⟨rfl, mem_language_digits.mpr ⟨hnumeral.ne_nil, hlength, hnumeral.digits⟩⟩,
        fun t ht => by rw [screenNumber_digits hnumeral.ne_nil ht, hnumeral.value]⟩
    · exact ⟨2, .inr ⟨rfl, wordNumber_isSome.mpr ⟨n, hword⟩⟩, fun t ht =>
        (screenNumber_word ht).trans hword⟩
  obtain ⟨index, hindex, hnumber⟩ := hcount
  refine ⟨_, mem_run_screenNode.mpr ⟨hboundary, _,
    mem_run_count.mpr ⟨num, gap ++ (word ++ rest), index, hafter, rfl, hindex⟩, gap, word, rest,
    h.gap, h.word, rfl, rfl, (atWordBoundary_behind h.word.ne_nil h.word.isWord).mpr h.stop⟩,
    fun hs => hnumber _ ?_⟩
  simp [Cursor.behind, hs]

theorem any_getLast_append {x y : JsString} (hy : y ≠ []) :
    (x ++ y).getLast?.any RegExp.isWord = y.getLast?.any RegExp.isWord := by
  rw [List.getLast?_append_of_ne_nil _ hy]

theorem any_getLast_of_words {x : JsString} (hx : x ≠ [])
    (h : ∀ u ∈ x, RegExp.isWord u = true) : x.getLast?.any RegExp.isWord = true := by
  rw [List.getLast?_eq_some_getLast hx]
  exact h _ (List.getLast_mem hx)

/-- The number in a text is the word the text begins with. -/
theorem num_eq_takeWhile {before num gap word rest : JsString} {n : ℕ}
    (h : IsScreenCount IsCount before num gap word rest n) (tail : JsString) :
    (num ++ (gap ++ tail)).takeWhile RegExp.isWord = num :=
  takeWhile_isWord h.count.isWord (h.gap.head tail)

/-- A match goes on to the end of a screen word, and no number begins in its gap or in its
screen word. -/
theorem neverOverlaps_screenNode : screenNode.NeverOverlaps true where
  reads s t us h hreads := by
    obtain ⟨num, gap, word, n, hparts, hcount, -⟩ := screenCount_of_mem_run h
    rw [List.append_cancel_right (hreads.after.symm.trans hparts.after)]
    exact List.append_ne_nil_of_left_ne_nil hcount.count.ne_nil _
  free s t us vs h hreads hus hvs m hbefore hafter := by
    obtain ⟨num, gap, word, n, hparts, hcount, -⟩ := screenCount_of_mem_run h
    have hsplit : us ++ vs = num ++ (gap ++ word) :=
      List.append_cancel_right (hreads.after.symm.trans hparts.after)
    refine List.eq_nil_iff_forall_not_mem.mpr fun t' ht' => ?_
    obtain ⟨num', gap', word', n', hparts', hcount', -⟩ := screenCount_of_mem_run ht'
    have hend : us.getLast?.any RegExp.isWord = false := by
      have hstart := hcount'.start
      rw [hbefore, List.reverse_append, List.reverse_reverse, any_getLast_append hus] at hstart
      exact hstart
    have hrest : vs ++ t.after = num' ++ (gap' ++ (word' ++ t'.after)) := by
      rw [← hafter, hparts'.after, List.append_assoc, List.append_assoc]
    have hvsWord : vs ≠ word := by
      rintro rfl
      have hword := num_eq_takeWhile hcount' (word' ++ t'.after)
      rw [← hrest, takeWhile_isWord hcount.word.isWord hcount.stop] at hword
      exact hcount.word.not_isCount n' (hword ▸ hcount'.count)
    have hnotEnd {x : JsString} (hx : x ≠ []) (hwords : ∀ u ∈ x, RegExp.isWord u = true) :
        x.getLast?.any RegExp.isWord ≠ false := by
      simp [any_getLast_of_words hx hwords]
    rcases List.append_eq_append_iff.mp hsplit with ⟨x, rfl, -⟩ | ⟨x, rfl, hgap⟩
    · exact hnotEnd hus (fun u hu => hcount.count.isWord u (List.mem_append_left _ hu)) hend
    rcases List.append_eq_append_iff.mp hgap with ⟨y, rfl, hword⟩ | ⟨y, hgap, hvs⟩
    · have hy : y ≠ [] := by
        rintro rfl
        exact hvsWord hword.symm
      rw [any_getLast_append (List.append_ne_nil_of_right_ne_nil _ hy), any_getLast_append hy]
        at hend
      exact hnotEnd hy (fun u hu => hcount.word.isWord u (hword ▸ List.mem_append_left _ hu)) hend
    · have hy : y ≠ [] := by
        rintro rfl
        exact hvsWord hvs
      have hgapHead : IsGap y :=
        ⟨hy, fun u hu => hcount.gap.2 u (hgap ▸ List.mem_append_right _ hu)⟩
      have hhead := any_head_append (y := gap' ++ (word' ++ t'.after)) hcount'.count.ne_nil
        hcount'.count.isWord
      rw [← hrest, hvs, List.append_assoc, hgapHead.head] at hhead
      cases hhead

theorem screenNumbers_eq (text : JsString) : screenNumbers text =
    (positions [] text).filterMap fun s => (run true screenNode s).head?.bind screenNumber := by
  have hmatches : (RegExp.mk screenNode true).matchAll text =
      (positions [] text).filterMap fun s => (run true screenNode s).head? :=
    matchAll_eq neverOverlaps_screenNode text
  unfold screenNumbers
  simp only [compile_screenPattern, hmatches, List.filterMap_filterMap]

theorem mem_screenNumbers {text : JsString} {n : ℕ} :
    n ∈ screenNumbers text ↔ NamesScreens IsCount text n := by
  rw [screenNumbers_eq, List.mem_filterMap]
  constructor
  · rintro ⟨s, hs, hfirst⟩
    obtain ⟨t, hhead, hnumber⟩ := Option.bind_eq_some_iff.mp hfirst
    obtain ⟨before, rest, rfl, rfl⟩ := mem_positions.mp hs
    obtain ⟨num, gap, word, n', hreads, hcount, hfound⟩ :=
      screenCount_of_mem_run (List.mem_of_mem_head? hhead)
    have heq := (hfound rfl).symm.trans hnumber
    obtain rfl := Option.some.inj heq
    have hafter : rest = num ++ (gap ++ word) ++ t.after := hreads.after
    refine ⟨before, num, gap, word, t.after, ?_, by simpa using hcount⟩
    rw [hafter, List.append_assoc, List.append_assoc]
  · rintro ⟨before, num, gap, word, rest, rfl, hcount⟩
    have hcursor : IsScreenCount IsCount (Cursor.mk (before.reverse ++ []) (num ++ (gap ++ (word ++ rest)))
        []).before.reverse num gap word rest n := by simpa using hcount
    obtain ⟨t, ht, hfound⟩ := exists_mem_run hcursor rfl
    refine ⟨_, mem_positions.mpr ⟨before, _, rfl, rfl⟩, ?_⟩
    obtain ⟨t', others, hrun⟩ := List.exists_cons_of_ne_nil (List.ne_nil_of_mem ht)
    have ht' : t' ∈ run true screenNode ⟨before.reverse ++ [],
        num ++ (gap ++ (word ++ rest)), []⟩ := hrun ▸ List.mem_cons_self
    obtain ⟨num', gap', word', n', hreads, hcount', hfound'⟩ := screenCount_of_mem_run ht'
    have hafter : num ++ (gap ++ (word ++ rest)) = num' ++ (gap' ++ (word' ++ t'.after)) := by
      rw [← List.append_assoc gap', ← List.append_assoc num']
      exact hreads.after
    have hnum : num' = num := by
      rw [← num_eq_takeWhile hcount' (word' ++ t'.after), ← hafter, num_eq_takeWhile hcount]
    subst hnum
    rw [hrun, hcount.count.unique hcount'.count]
    exact hfound' rfl

end GoalQualification

end Aico
