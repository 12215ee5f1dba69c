import Aico.Json.Text

/-!
# Regular expressions

The part of the regular expressions of JavaScript that has units, classes, greedy
repetition of a class, alternatives, groups, the anchors and the word boundary. A cursor
stands between the units before it, nearest first, and the units after it. `run` lists the
cursors a node leads to in the order in which a backtracking matcher tries them, so that the
first one is the match at the cursor. `test` asks whether there is a match anywhere, and
`matchAll` lists the matches that do not overlap, from left to right.

A node that reads no separator and looks at no end of the text is local: it matches in texts
that are joined by the separator just when it matches in one of them.
-/

namespace RegExp

inductive ClassItem where
  | unit (u : UInt16)
  | digit
  | space
deriving DecidableEq

/-- A class, `[…]` or `[^…]`. -/
structure UnitClass where
  negated : Bool
  items : List ClassItem
deriving DecidableEq

/-- The nodes of a pattern. A repetition `star` is of a class. -/
inductive Node where
  | empty
  | unit (c : UnitClass)
  | star (c : UnitClass)
  | seq (r q : Node)
  | alt (r q : Node)
  | group (index : ℕ) (r : Node)
  | wordBoundary
  | start
  | stop
deriving DecidableEq

def isDigit (u : UInt16) : Bool := 0x30 ≤ u && u ≤ 0x39

/-- The units of `\w`. -/
def isWord (u : UInt16) : Bool :=
  isDigit u || (0x41 ≤ u && u ≤ 0x5A) || (0x61 ≤ u && u ≤ 0x7A) || u = 0x5F

/-- How a pattern with the flag `i` reads a unit, where the pattern has ASCII letters only:
no other unit is folded to one of them. -/
def foldUnit (ignoreCase : Bool) (u : UInt16) : UInt16 :=
  if ignoreCase && (0x61 ≤ u && u ≤ 0x7A) then u - 0x20 else u

def ClassItem.contains (ignoreCase : Bool) (u : UInt16) : ClassItem → Bool
  | unit v => foldUnit ignoreCase u = foldUnit ignoreCase v
  | digit => isDigit u
  | space => JsString.isWhitespace u

def UnitClass.contains (ignoreCase : Bool) (c : UnitClass) (u : UInt16) : Bool :=
  c.negated != c.items.any (ClassItem.contains ignoreCase u)

/-- A place in a text, and what the groups have captured. -/
@[ext] structure Cursor where
  before : JsString
  after : JsString
  captures : List (ℕ × JsString)
deriving DecidableEq

namespace Cursor

def next (s : Cursor) (u : UInt16) (rest : JsString) : Cursor :=
  { s with before := u :: s.before, after := rest }

def upTo (s t : Cursor) : JsString := s.after.take (s.after.length - t.after.length)

/-- The cursor in a text that goes on at both ends. -/
def within (s : Cursor) (before after : JsString) : Cursor :=
  { s with before := s.before ++ before, after := s.after ++ after }

/-- What the group has captured, if it took part in the match. -/
def captured (s : Cursor) (index : ℕ) : Option JsString :=
  (s.captures.find? fun capture => capture.1 = index).map Prod.snd

def atWordBoundary (s : Cursor) : Bool := s.before.head?.any isWord != s.after.head?.any isWord

end Cursor

/-- The cursors behind repetitions of a class, the longest one first. -/
def starRuns (p : UInt16 → Bool) (captures : List (ℕ × JsString)) :
    JsString → JsString → List Cursor
  | before, [] => [⟨before, [], captures⟩]
  | before, u :: rest =>
      (if p u then starRuns p captures (u :: before) rest else []) ++
        [⟨before, u :: rest, captures⟩]

/-- The cursors behind the matches of the node at a cursor, in the order they are tried. -/
def run (ignoreCase : Bool) : Node → Cursor → List Cursor
  | .empty, s => [s]
  | .unit c, s =>
      match s.after with
      | [] => []
      | u :: rest => if c.contains ignoreCase u then [s.next u rest] else []
  | .star c, s => starRuns (c.contains ignoreCase) s.captures s.before s.after
  | .seq r q, s => (run ignoreCase r s).flatMap (run ignoreCase q)
  | .alt r q, s => run ignoreCase r s ++ run ignoreCase q s
  | .group index r, s =>
      (run ignoreCase r s).map fun t => { t with captures := (index, s.upTo t) :: t.captures }
  | .wordBoundary, s => if s.atWordBoundary then [s] else []
  | .start, s => if s.before = [] then [s] else []
  | .stop, s => if s.after = [] then [s] else []

/-- The places of a text, from left to right. -/
def positions (before : JsString) : JsString → List Cursor
  | [] => [⟨before, [], []⟩]
  | u :: rest => ⟨before, u :: rest, []⟩ :: positions (u :: before) rest

/-- The matches of a node from a place on, where `skip` units belong to the last one. -/
def scan (ignoreCase : Bool) (r : Node) : ℕ → JsString → JsString → List Cursor
  | 0, before, [] => ((run ignoreCase r ⟨before, [], []⟩).head?).toList
  | _ + 1, _, [] => []
  | 0, before, u :: rest =>
      match (run ignoreCase r ⟨before, u :: rest, []⟩).head? with
      | some t => t :: scan ignoreCase r (rest.length - t.after.length) (u :: before) rest
      | none => scan ignoreCase r 0 (u :: before) rest
  | skip + 1, before, u :: rest => scan ignoreCase r skip (u :: before) rest

end RegExp

/-- A regular expression: its pattern and its flag `i`. -/
structure RegExp where
  node : RegExp.Node
  ignoreCase : Bool
deriving DecidableEq

namespace RegExp

/-- Whether the expression matches somewhere in the text. -/
def test (re : RegExp) (text : JsString) : Bool :=
  (positions [] text).any fun s => run re.ignoreCase re.node s ≠ []

def matchAll (re : RegExp) (text : JsString) : List Cursor :=
  scan re.ignoreCase re.node 0 [] text

variable {ignoreCase : Bool} {c : UnitClass} {r q : Node} {s t : Cursor} {x y : JsString}

/-! ## What a node matches -/

/-- The cursor `t` stands behind the units `us` that follow `s`. -/
structure Reads (s t : Cursor) (us : JsString) : Prop where
  after : s.after = us ++ t.after
  before : t.before = us.reverse ++ s.before

theorem Reads.trans {m : Cursor} {us vs : JsString} (h : Reads s m us) (h' : Reads m t vs) :
    Reads s t (us ++ vs) where
  after := by rw [h.after, h'.after, List.append_assoc]
  before := by rw [h'.before, h.before, List.reverse_append, List.append_assoc]

theorem Reads.upTo {us : JsString} (h : Reads s t us) : s.upTo t = us := by
  rw [Cursor.upTo, h.after]
  simp

theorem mem_run_unit : t ∈ run ignoreCase (.unit c) s ↔
    ∃ u rest, s.after = u :: rest ∧ c.contains ignoreCase u = true ∧ t = s.next u rest := by
  rw [run]
  rcases s.after with _ | ⟨u, rest⟩
  · simp
  · dsimp only
    split
    · next h => simp [h]
    · next h => simp [h]

theorem mem_starRuns {p : UInt16 → Bool} {captures : List (ℕ × JsString)}
    {before after : JsString} : t ∈ starRuns p captures before after ↔
      ∃ us rest, after = us ++ rest ∧ (∀ u ∈ us, p u = true) ∧
        t = ⟨us.reverse ++ before, rest, captures⟩ := by
  induction after generalizing before with
  | nil =>
      simp only [starRuns, List.mem_singleton]
      constructor
      · rintro rfl
        exact ⟨[], [], rfl, List.forall_mem_nil _, rfl⟩
      · rintro ⟨us, rest, hafter, -, rfl⟩
        obtain ⟨rfl, rfl⟩ := List.append_eq_nil_iff.mp hafter.symm
        rfl
  | cons u after ih =>
      rw [starRuns, List.mem_append, List.mem_singleton]
      constructor
      · rintro (h | rfl)
        · split at h
          · next hu =>
              obtain ⟨us, rest, rfl, hus, rfl⟩ := ih.mp h
              exact ⟨u :: us, rest, rfl, List.forall_mem_cons.mpr ⟨hu, hus⟩, by simp⟩
          · cases h
        · exact ⟨[], u :: after, rfl, List.forall_mem_nil _, rfl⟩
      · rintro ⟨us, rest, hafter, hus, rfl⟩
        cases us with
        | nil =>
            cases hafter
            exact .inr rfl
        | cons v us =>
            cases hafter
            obtain ⟨hu, hrest⟩ := List.forall_mem_cons.mp hus
            rw [if_pos hu]
            exact .inl (ih.mpr ⟨us, rest, rfl, hrest, by simp⟩)

theorem mem_run_star : t ∈ run ignoreCase (.star c) s ↔
    ∃ us rest, s.after = us ++ rest ∧ (∀ u ∈ us, c.contains ignoreCase u = true) ∧
      t = ⟨us.reverse ++ s.before, rest, s.captures⟩ :=
  mem_starRuns

theorem mem_run_seq : t ∈ run ignoreCase (.seq r q) s ↔
    ∃ m ∈ run ignoreCase r s, t ∈ run ignoreCase q m :=
  List.mem_flatMap

theorem mem_run_alt : t ∈ run ignoreCase (.alt r q) s ↔
    t ∈ run ignoreCase r s ∨ t ∈ run ignoreCase q s :=
  List.mem_append

theorem mem_run_group {index : ℕ} : t ∈ run ignoreCase (.group index r) s ↔
    ∃ m ∈ run ignoreCase r s, t = { m with captures := (index, s.upTo m) :: m.captures } := by
  rw [run, List.mem_map]
  simp only [eq_comm]

theorem mem_run_wordBoundary :
    t ∈ run ignoreCase .wordBoundary s ↔ s.atWordBoundary = true ∧ t = s := by
  rw [run]
  split
  · next h => simp [h]
  · next h => simp [h]

/-- A match reads units that follow the cursor. -/
theorem reads_of_mem_run : ∀ {r : Node} {s t : Cursor}, t ∈ run ignoreCase r s →
    ∃ us, Reads s t us
  | .empty, s, t, h => ⟨[], by rw [List.mem_singleton.mp h]; exact ⟨rfl, rfl⟩⟩
  | .unit c, s, t, h => by
      obtain ⟨u, rest, hafter, -, rfl⟩ := mem_run_unit.mp h
      exact ⟨[u], hafter, rfl⟩
  | .star c, s, t, h => by
      obtain ⟨us, rest, hafter, -, rfl⟩ := mem_run_star.mp h
      exact ⟨us, hafter, rfl⟩
  | .seq r q, s, t, h => by
      obtain ⟨m, hm, h⟩ := mem_run_seq.mp h
      obtain ⟨us, hus⟩ := reads_of_mem_run hm
      obtain ⟨vs, hvs⟩ := reads_of_mem_run h
      exact ⟨us ++ vs, hus.trans hvs⟩
  | .alt r q, s, t, h => (mem_run_alt.mp h).elim reads_of_mem_run reads_of_mem_run
  | .group index r, s, t, h => by
      obtain ⟨m, hm, rfl⟩ := mem_run_group.mp h
      obtain ⟨us, hus⟩ := reads_of_mem_run hm
      exact ⟨us, hus.after, hus.before⟩
  | .wordBoundary, s, t, h => by
      rw [(mem_run_wordBoundary.mp h).2]
      exact ⟨[], rfl, rfl⟩
  | .start, s, t, h => by
      rw [run] at h
      split at h
      · exact ⟨[], by rw [List.mem_singleton.mp h]; exact ⟨rfl, rfl⟩⟩
      · cases h
  | .stop, s, t, h => by
      rw [run] at h
      split at h
      · exact ⟨[], by rw [List.mem_singleton.mp h]; exact ⟨rfl, rfl⟩⟩
      · cases h

/-- The places of a text are where it can be parted. -/
theorem mem_positions {before after : JsString} : s ∈ positions before after ↔
    ∃ us rest, after = us ++ rest ∧ s = ⟨us.reverse ++ before, rest, []⟩ := by
  induction after generalizing before with
  | nil =>
      simp only [positions, List.mem_singleton]
      constructor
      · rintro rfl
        exact ⟨[], [], rfl, rfl⟩
      · rintro ⟨us, rest, hafter, rfl⟩
        obtain ⟨rfl, rfl⟩ := List.append_eq_nil_iff.mp hafter.symm
        rfl
  | cons u after ih =>
      rw [positions, List.mem_cons, ih]
      constructor
      · rintro (rfl | ⟨us, rest, rfl, rfl⟩)
        · exact ⟨[], u :: after, rfl, rfl⟩
        · exact ⟨u :: us, rest, rfl, by simp⟩
      · rintro ⟨us, rest, hafter, rfl⟩
        cases us with
        | nil =>
            cases hafter
            exact .inl rfl
        | cons v us =>
            cases hafter
            exact .inr ⟨us, rest, rfl, by simp⟩

theorem test_iff {re : RegExp} {text : JsString} : re.test text = true ↔
    ∃ s ∈ positions [] text, ∃ t, t ∈ run re.ignoreCase re.node s := by
  simp only [test, List.any_eq_true, decide_eq_true_eq, ne_eq,
    List.eq_nil_iff_forall_not_mem, not_forall, not_not]

/-! ## Texts joined by a separator -/

/-- The node reads no separator and looks at no end of the text. -/
def Node.isLocal (ignoreCase : Bool) (sep : UInt16) : Node → Bool
  | empty | wordBoundary => true
  | unit c | star c => !c.contains ignoreCase sep
  | seq r q | alt r q => r.isLocal ignoreCase sep && q.isLocal ignoreCase sep
  | group _ r => r.isLocal ignoreCase sep
  | start | stop => false

/-- The units begin with the separator, if there are any. -/
def Edge (sep : UInt16) (units : JsString) : Prop := ∀ u ∈ units.head?, u = sep

theorem edge_nil (sep : UInt16) : Edge sep [] := nofun

theorem edge_cons (sep : UInt16) (units : JsString) : Edge sep (sep :: units) := by
  rintro u ⟨⟩
  rfl

/-- At an edge that is no word unit a text ends as at its end. -/
theorem head?_append_edge {sep : UInt16} (hsep : isWord sep = false) (hx : Edge sep x)
    (units : JsString) : (units ++ x).head?.any isWord = units.head?.any isWord := by
  cases units with
  | cons u units => rfl
  | nil =>
      cases x with
      | nil => rfl
      | cons u x =>
          obtain rfl := hx u rfl
          simpa using hsep

theorem atWordBoundary_within {sep : UInt16} (hsep : isWord sep = false) (hx : Edge sep x)
    (hy : Edge sep y) : (s.within y x).atWordBoundary = s.atWordBoundary := by
  simp only [Cursor.atWordBoundary, Cursor.within, head?_append_edge hsep hx,
    head?_append_edge hsep hy]

theorem starRuns_within {p : UInt16 → Bool} {sep : UInt16} (hp : p sep = false)
    (hx : Edge sep x) (captures : List (ℕ × JsString)) (before after : JsString) :
    starRuns p captures (before ++ y) (after ++ x) =
      (starRuns p captures before after).map (Cursor.within · y x) := by
  induction after generalizing before with
  | nil =>
      cases x with
      | nil => rfl
      | cons u x =>
          obtain rfl := hx u rfl
          have hstop : starRuns p captures (before ++ y) (u :: x) =
              [⟨before ++ y, u :: x, captures⟩] := by
            rw [starRuns, hp]
            rfl
          exact hstop
  | cons u after ih =>
      rw [List.cons_append, starRuns, starRuns, List.map_append, List.map_singleton]
      congr 1
      split
      · exact ih (u :: before)
      · rfl

theorem upTo_within {us : JsString} (h : Reads s t us) :
    (s.within y x).upTo (t.within y x) = s.upTo t := by
  have houter : Reads (s.within y x) (t.within y x) us := by
    refine ⟨?_, ?_⟩
    · simp only [Cursor.within, h.after, List.append_assoc]
    · simp only [Cursor.within, h.before, List.append_assoc]
  rw [houter.upTo, h.upTo]

/-- A local node matches in a part of the text as in the part alone. -/
theorem run_within {sep : UInt16} (hsep : isWord sep = false) (hx : Edge sep x)
    (hy : Edge sep y) {r : Node} (hr : r.isLocal ignoreCase sep = true) (s : Cursor) :
    run ignoreCase r (s.within y x) = (run ignoreCase r s).map (Cursor.within · y x) := by
  induction r generalizing s with
  | empty => rfl
  | unit c =>
      have hc : c.contains ignoreCase sep = false := by simpa [Node.isLocal] using hr
      rcases s with ⟨before, after, captures⟩
      cases after with
      | cons u after =>
          rw [run, run]
          dsimp only [Cursor.within, List.cons_append]
          split <;> rfl
      | nil =>
          cases x with
          | nil => rfl
          | cons u x =>
              obtain rfl := hx u rfl
              rw [run, run]
              dsimp only [Cursor.within, List.nil_append]
              rw [hc]
              rfl
  | star c =>
      have hc : c.contains ignoreCase sep = false := by simpa [Node.isLocal] using hr
      exact starRuns_within hc hx _ _ _
  | seq r q ihr ihq =>
      obtain ⟨hr, hq⟩ := Bool.and_eq_true_iff.mp hr
      rw [run, run, ihr hr, List.flatMap_map, List.map_flatMap]
      exact List.flatMap_congr fun m _ => ihq hq m
  | alt r q ihr ihq =>
      obtain ⟨hr, hq⟩ := Bool.and_eq_true_iff.mp hr
      rw [run, run, ihr hr, ihq hq, List.map_append]
  | group index r ih =>
      rw [run, run, ih hr, List.map_map, List.map_map]
      refine List.map_congr_left fun m hm => ?_
      obtain ⟨us, hus⟩ := reads_of_mem_run hm
      simp only [Function.comp_apply, upTo_within hus]
      rfl
  | wordBoundary =>
      rw [run, run, atWordBoundary_within hsep hx hy]
      split <;> rfl
  | start => cases hr
  | stop => cases hr

/-- The places of a text behind a separator follow those before it. -/
theorem positions_append_cons (before a b : JsString) (sep : UInt16) :
    positions before (a ++ sep :: b) =
      (positions before a).map (Cursor.within · [] (sep :: b)) ++
        positions (sep :: (a.reverse ++ before)) b := by
  induction a generalizing before with
  | nil => simp [positions, Cursor.within]
  | cons u a ih =>
      rw [List.cons_append, positions, positions, ih, List.map_cons, List.cons_append]
      simp [Cursor.within]

theorem positions_append_before (before y after : JsString) :
    positions (before ++ y) after = (positions before after).map (Cursor.within · y []) := by
  induction after generalizing before with
  | nil => simp [positions, Cursor.within]
  | cons u after ih =>
      rw [positions, positions, ← List.cons_append, ih, List.map_cons]
      simp [Cursor.within]

/-- A local expression matches in a text with a separator just when it matches before the
separator or behind it. -/
theorem test_append_cons {re : RegExp} {sep : UInt16} (hsep : isWord sep = false)
    (hre : re.node.isLocal re.ignoreCase sep = true) (a b : JsString) :
    re.test (a ++ sep :: b) = (re.test a || re.test b) := by
  have hedge : Edge sep (sep :: (a.reverse ++ [])) := edge_cons sep _
  have hpart (places : List Cursor) {x y : JsString} (hx : Edge sep x) (hy : Edge sep y) :
      ((places.map (Cursor.within · y x)).any fun s => run re.ignoreCase re.node s ≠ []) =
        places.any fun s => run re.ignoreCase re.node s ≠ [] := by
    rw [List.any_map]
    congr 1
    funext s
    simp only [Function.comp_apply, run_within hsep hx hy hre, ne_eq, List.map_eq_nil_iff]
  have hbehind := positions_append_before [] (sep :: (a.reverse ++ [])) b
  rw [List.nil_append] at hbehind
  rw [test, positions_append_cons, List.any_append, hbehind, hpart _ (edge_cons sep b)
    (edge_nil sep), hpart _ (edge_nil sep) hedge]
  rfl

/-- A local expression matches in joined texts just when it matches in one of them. -/
theorem test_join {re : RegExp} {sep : UInt16} (hsep : isWord sep = false)
    (hre : re.node.isLocal re.ignoreCase sep = true) {texts : List JsString} (htexts : texts ≠ []) :
    re.test ([sep].intercalate texts) = texts.any re.test := by
  induction texts with
  | nil => exact absurd rfl htexts
  | cons text rest ih =>
      cases rest with
      | nil => simp
      | cons text' rest =>
          rw [List.intercalate_cons_cons, List.append_assoc, List.singleton_append,
            test_append_cons hsep hre, ih (List.cons_ne_nil _ _), List.any_cons (a := text)]

/-! ## All matches -/

/-- The places before the end of the first part. -/
theorem mem_take_positions {before a b : JsString}
    (h : s ∈ (positions before (a ++ b)).take a.length) :
    ∃ us vs, a = us ++ vs ∧ vs ≠ [] ∧ s = ⟨us.reverse ++ before, vs ++ b, []⟩ := by
  induction a generalizing before with
  | nil => cases h
  | cons u a ih =>
      rw [List.cons_append, positions, List.length_cons, List.take_succ_cons, List.mem_cons] at h
      rcases h with rfl | h
      · exact ⟨[], u :: a, rfl, List.cons_ne_nil _ _, rfl⟩
      · obtain ⟨us, vs, rfl, hvs, rfl⟩ := ih h
        exact ⟨u :: us, vs, rfl, hvs, by simp⟩

/-- Every match reads something, and none begins inside another one. -/
structure Node.NeverOverlaps (ignoreCase : Bool) (r : Node) : Prop where
  reads : ∀ s t us, t ∈ run ignoreCase r s → Reads s t us → us ≠ []
  free : ∀ s t us vs, t ∈ run ignoreCase r s → Reads s t (us ++ vs) → us ≠ [] → vs ≠ [] →
    ∀ m : Cursor, m.before = us.reverse ++ s.before → m.after = vs ++ t.after →
      run ignoreCase r m = []

/-- A scan that skips places without a match finds the match at every place. -/
theorem scan_skip {r : Node} (hr : r.NeverOverlaps ignoreCase) (skip : ℕ)
    (before after : JsString) (hskip : skip ≤ after.length)
    (hnone : ∀ m ∈ (positions before after).take skip, run ignoreCase r m = []) :
    scan ignoreCase r skip before after =
      (positions before after).filterMap fun s => (run ignoreCase r s).head? := by
  induction after generalizing skip before with
  | nil =>
      obtain rfl : skip = 0 := Nat.le_zero.mp hskip
      rw [scan, positions]
      rw [List.filterMap_cons]
      rcases (run ignoreCase r ⟨before, [], []⟩).head? with _ | t <;> rfl
  | cons u rest ih =>
      cases skip with
      | succ skip =>
          rw [positions, List.take_succ_cons, List.forall_mem_cons] at hnone
          rw [scan, positions, List.filterMap_cons, hnone.1]
          exact ih skip (u :: before) (Nat.le_of_succ_le_succ hskip) hnone.2
      | zero =>
          rw [scan, positions]
          split
          · next t hhead =>
              rw [List.filterMap_cons, hhead]
              have hmem : t ∈ run ignoreCase r ⟨before, u :: rest, []⟩ :=
                List.mem_of_mem_head? hhead
              obtain ⟨us, hus⟩ := reads_of_mem_run hmem
              obtain ⟨v, vs, rfl⟩ := List.exists_cons_of_ne_nil (hr.reads _ _ _ hmem hus)
              have hafter : u :: rest = v :: (vs ++ t.after) := hus.after
              obtain ⟨rfl, rfl⟩ := List.cons.inj hafter
              have hlength : (vs ++ t.after).length - t.after.length = vs.length := by simp
              rw [hlength]
              congr 1
              refine ih _ _ (by simp) fun m hm => ?_
              obtain ⟨us, ws, rfl, hws, rfl⟩ := mem_take_positions hm
              exact hr.free _ t (u :: us) ws hmem hus (List.cons_ne_nil _ _) hws _ (by simp) rfl
          · next hhead =>
              rw [List.filterMap_cons, hhead]
              exact ih 0 (u :: before) (Nat.zero_le _) (List.forall_mem_nil _)

theorem matchAll_eq {re : RegExp} (hre : re.node.NeverOverlaps re.ignoreCase) (text : JsString) :
    re.matchAll text =
      (positions [] text).filterMap fun s => (run re.ignoreCase re.node s).head? :=
  scan_skip hre 0 [] text (Nat.zero_le _) (List.forall_mem_nil _)

end RegExp
