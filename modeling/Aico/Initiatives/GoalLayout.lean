import Aico.Initiatives.GoalEngine
import Aico.Initiatives.QualificationCoherence

/-!
# The layout of a goal

The fields of a goal are joined by line ends and read as one text. Every pattern but that of
the screens is local to a line, so it finds in the text what it finds in one of the lines
(`test_requestedText`). A number of screens is found in a line, or it straddles lines: the
number ends one line and the screen word begins a later one (`namesScreens_join`).
-/

namespace Aico

namespace GoalQualification

open RegExp QualificationPolicy

/-! ## Patterns that are local to a line -/

def lines (goal : StructuredGoalDto) : List JsString :=
  [goal.targetUser, goal.problem, goal.desiredOutcome, goal.primaryFlow, goal.visualDirection] ++
    goal.mustHaves.map MustHaveDto.text

/-- The pattern reads no line end. -/
def IsLocal (p : String) : Prop :=
  ((compile true p).any fun re => re.node.isLocal true 0x0A) = true

def boundaryPatterns : List String :=
  ["\\bgeneral[- ]purpose coding\\b", "\\bunrestricted agent\\b", "\\bcustom coding sandbox\\b",
    "\\b(?:two|2|three|3|multiple) (?:primary )?personas\\b",
    "\\band also (?:for )?(?:admins?|customers?|operators?) as (?:a )?" ++ "primary\\b",
    "\\bfor both [^.\\n]+ and [^.\\n]+ as primary users\\b"]

def templatePatterns : List String :=
  ["\\b(?:rails|django|laravel|flutter|swiftui)\\b", "\\breact\\b"]

/-- Whether the characters of the pattern read no line end. -/
def readsLocally (p : String) : Bool :=
  JsString.isAscii p && (compileChars true (JsString.asciiChars p)).any fun re =>
    re.node.isLocal true 0x0A

theorem isLocal_of_readsLocally {p : String} (h : readsLocally p = true) : IsLocal p := by
  obtain ⟨hascii, hlocal⟩ := Bool.and_eq_true_iff.mp h
  rw [IsLocal, compile_of_isAscii hascii]
  exact hlocal

theorem isLocal_of_boundary : ∀ p ∈ boundaryPatterns ++ templatePatterns, IsLocal p := by
  have hall : (boundaryPatterns ++ templatePatterns).all readsLocally = true := by
    decide +kernel
  exact fun p hp => isLocal_of_readsLocally (List.all_eq_true.mp hall p hp)

theorem isLocal_of_denied :
    ∀ entry ∈ deniedCapabilityPatterns, ∀ p ∈ entry.patterns, IsLocal p := by
  have hall : (deniedCapabilityPatterns.all fun entry => entry.patterns.all readsLocally) =
      true := by
    decide +kernel
  intro entry hentry p hp
  exact isLocal_of_readsLocally (List.all_eq_true.mp (List.all_eq_true.mp hall entry hentry) p hp)

theorem ignoreCase_of_compile {p : String} {re : RegExp} (h : compile true p = some re) :
    re.ignoreCase = true := by
  simp only [compile, Option.bind_eq_bind, Option.bind_eq_some_iff, Option.some.injEq] at h
  obtain ⟨_, -, _, -, rfl⟩ := h
  rfl

/-- A local pattern is found in joined lines just when it is found in one of them. -/
theorem test_join_lines {p : String} (hp : IsLocal p) {texts : List JsString}
    (htexts : texts ≠ []) :
    jsEngine.test p ([0x0A].intercalate texts) = texts.any (jsEngine.test p) := by
  obtain ⟨re, hcompile, hlocal⟩ := (Option.any_eq_true _ _).mp hp
  have htest (text : JsString) : jsEngine.test p text = re.test text := by
    simp [jsEngine, tests, hcompile]
  have hre : re.node.isLocal re.ignoreCase 0x0A = true := by
    rw [ignoreCase_of_compile hcompile]
    exact hlocal
  have hsep : isWord 0x0A = false := by decide
  rw [htest, test_join hsep hre htexts]
  congr 1
  funext text
  exact (htest text).symm

theorem test_requestedText {p : String} (hp : IsLocal p) (goal : StructuredGoalDto) :
    jsEngine.test p (requestedText goal) = (lines goal).any (jsEngine.test p) :=
  test_join_lines hp (List.cons_ne_nil _ _)

/-! ## The estimate of the screens -/

theorem le_foldl_max {ns : List ℕ} {start m : ℕ} :
    m ≤ ns.foldl max start ↔ m ≤ start ∨ ∃ n ∈ ns, m ≤ n := by
  induction ns generalizing start with
  | nil => simp
  | cons n ns ih =>
      rw [List.foldl_cons, ih, le_max_iff, List.exists_mem_cons_iff, or_assoc]

theorem lt_screenEstimateFromText {text : JsString} {m : ℕ} :
    m < screenEstimateFromText jsEngine text ↔ ∃ n, m < n ∧ NamesScreens IsCount text n := by
  have hestimate : screenEstimateFromText jsEngine text = (screenNumbers text).foldl max 0 := by
    simp only [screenEstimateFromText, jsEngine]
  rw [hestimate, ← Nat.add_one_le_iff, le_foldl_max, or_iff_right (Nat.not_succ_le_zero m)]
  simp only [mem_screenNumbers, Nat.add_one_le_iff, and_comm]

theorem screenEstimate_evaluate (engine : RegExpEngine) (goal : StructuredGoalDto) :
    (evaluateGoalQualification engine goal).screenEstimate =
      max goal.constraints.maxScreens (screenEstimateFromText engine (requestedText goal)) := by
  unfold evaluateGoalQualification
  dsimp only
  split
  · rfl
  · split <;> rfl

/-- What a text names, it still names when something is added that goes on with no word. -/
theorem NamesScreens.append {counts : JsString → ℕ → Prop} {text more : JsString} {n : ℕ}
    (h : NamesScreens counts text n) (hmore : more.head?.any RegExp.isWord = false) :
    NamesScreens counts (text ++ more) n := by
  obtain ⟨before, num, gap, word, rest, rfl, hcount⟩ := h
  refine ⟨before, num, gap, word, rest ++ more, by simp, ?_⟩
  have hstop : (rest ++ more).head?.any RegExp.isWord = false := by
    cases rest with
    | nil => exact hmore
    | cons u rest => exact hcount.stop
  exact { hcount with stop := hstop }

/-! ## Asking for more -/

def askMore (goal : StructuredGoalDto) (more : List MustHaveDto) : StructuredGoalDto :=
  { goal with mustHaves := goal.mustHaves ++ more }

variable {goal : StructuredGoalDto} {more : List MustHaveDto}

theorem lines_askMore : lines (askMore goal more) = lines goal ++ more.map MustHaveDto.text := by
  rw [lines, lines, askMore, List.map_append, List.append_assoc]

/-- The text goes on behind a line end, if it goes on at all. -/
theorem requestedText_askMore (goal : StructuredGoalDto) (more : List MustHaveDto) :
    ∃ added : JsString, added.head?.any RegExp.isWord = false ∧
    requestedText (askMore goal more) = requestedText goal ++ added := by
  have htext (goal : StructuredGoalDto) : requestedText goal = [0x0A].intercalate (lines goal) :=
    rfl
  rw [htext, htext, lines_askMore]
  cases more with
  | nil => exact ⟨[], rfl, by simp⟩
  | cons item more =>
      refine ⟨0x0A :: [0x0A].intercalate ((item :: more).map MustHaveDto.text), rfl, ?_⟩
      have hlines : lines goal ≠ [] := List.cons_ne_nil _ _
      have hmore : (item :: more).map MustHaveDto.text ≠ [] := List.cons_ne_nil _ _
      rw [List.intercalate_append hlines hmore, List.append_assoc, List.singleton_append]

theorem test_askMore {p : String} (hp : IsLocal p)
    (h : jsEngine.test p (requestedText goal) = true) :
    jsEngine.test p (requestedText (askMore goal more)) = true := by
  rw [test_requestedText hp] at h ⊢
  rw [lines_askMore, List.any_append, h]
  rfl

theorem screenEstimateFromText_askMore (goal : StructuredGoalDto) (more : List MustHaveDto) :
    screenEstimateFromText jsEngine (requestedText goal) ≤
      screenEstimateFromText jsEngine (requestedText (askMore goal more)) := by
  refine le_of_forall_lt fun m hm => ?_
  obtain ⟨n, hn, hnames⟩ := lt_screenEstimateFromText.mp hm
  obtain ⟨added, hadded, htext⟩ := requestedText_askMore goal more
  rw [htext]
  exact lt_screenEstimateFromText.mpr ⟨n, hn, hnames.append hadded⟩

theorem boundaryFindings_askMore {finding : QualificationFinding}
    (h : finding ∈ boundaryFindings jsEngine goal)
    (hcode : finding.reasonCode ≠ "GOAL_TEMPLATE_UNAVAILABLE") :
    finding ∈ boundaryFindings jsEngine (askMore goal more) := by
  have htest : ∀ p ∈ boundaryPatterns, jsEngine.test p (requestedText goal) = true →
      jsEngine.test p (requestedText (askMore goal more)) = true :=
    fun p hp => test_askMore (isLocal_of_boundary p (List.mem_append_left _ hp))
  have hscreens := screenEstimateFromText_askMore goal more
  simp only [boundaryPatterns, List.forall_mem_cons] at htest
  obtain ⟨hgeneral, hagent, hsandbox, hmultiple, halso, hboth, -⟩ := htest
  have hpersonas : personaCountFromText jsEngine (requestedText goal) ≤
      personaCountFromText jsEngine (requestedText (askMore goal more)) := by
    unfold personaCountFromText
    split
    · next h => rw [if_pos (h.imp hmultiple (Or.imp halso hboth))]
    · split <;> decide
  simp only [boundaryFindings, List.mem_append, mem_findingIf, or_assoc] at h ⊢
  rcases h with ⟨h, rfl⟩ | ⟨h, rfl⟩ | h | h | h | h | ⟨-, rfl⟩
  · rw [Bool.or_eq_true, Bool.or_eq_true] at h
    rw [Bool.or_eq_true, Bool.or_eq_true]
    exact .inl ⟨h.imp (Or.imp hgeneral hagent) hsandbox, rfl⟩
  · exact .inr (.inl ⟨decide_eq_true ((of_decide_eq_true h).trans_le hpersonas), rfl⟩)
  · exact .inr (.inr (.inl h))
  · refine .inr (.inr (.inr (.inl ?_)))
    have hlimit : (askMore goal more).constraints = goal.constraints := rfl
    rw [hlimit]
    split at h
    · next hmax => rwa [if_pos hmax]
    · next hmax =>
        obtain ⟨hover, rfl⟩ := mem_findingIf.mp h
        rw [if_neg hmax]
        exact mem_findingIf.mpr
          ⟨decide_eq_true ((of_decide_eq_true hover).trans_le hscreens), rfl⟩
  · exact .inr (.inr (.inr (.inr (.inl h))))
  · exact .inr (.inr (.inr (.inr (.inr (.inl h)))))
  · exact absurd rfl hcode

theorem capabilityFindings_askMore {finding : QualificationFinding}
    (h : finding ∈ capabilityFindings jsEngine (requestedText goal)) :
    finding ∈ capabilityFindings jsEngine (requestedText (askMore goal more)) := by
  obtain ⟨entry, hentry, rfl⟩ := List.mem_map.mp h
  obtain ⟨hentry, hfound⟩ := List.mem_filter.mp hentry
  obtain ⟨p, hp, htest⟩ := List.any_eq_true.mp hfound
  have hlocal := isLocal_of_denied entry hentry p hp
  exact List.mem_map_of_mem (List.mem_filter.mpr
    ⟨hentry, List.any_eq_true.mpr ⟨p, hp, test_askMore hlocal htest⟩⟩)

theorem outOfScopeFindings_askMore {finding : QualificationFinding}
    (h : finding ∈ outOfScopeFindings jsEngine goal)
    (hcode : finding.reasonCode ≠ "GOAL_TEMPLATE_UNAVAILABLE") :
    finding ∈ outOfScopeFindings jsEngine (askMore goal more) := by
  rcases List.mem_append.mp h with h | h
  · exact List.mem_append_left _ (boundaryFindings_askMore h hcode)
  · exact List.mem_append_right _ (capabilityFindings_askMore h)

/-- Asking for more makes no goal more acceptable. What was found is found again, except that
the template is not available, and the estimate of the screens does not go down. -/
theorem asking_more (goal : StructuredGoalDto) (more : List MustHaveDto) :
    let q := evaluateGoalQualification jsEngine goal
    let q' := evaluateGoalQualification jsEngine (askMore goal more)
    (q.result = .outOfScope → ∀ finding ∈ q.findings,
      finding.reasonCode ≠ "GOAL_TEMPLATE_UNAVAILABLE" →
        q'.result = .outOfScope ∧ finding ∈ q'.findings) ∧
    q.screenEstimate ≤ q'.screenEstimate ∧
    (q.result = .outOfScope →
      (∀ finding ∈ q.findings, finding.reasonCode ≠ "GOAL_TEMPLATE_UNAVAILABLE") →
        q'.result = .outOfScope ∧ q.reasonCodes ⊆ q'.reasonCodes) := by
  have hcoherent := coherent_evaluate jsEngine goal
  have hcoherent' := coherent_evaluate jsEngine (askMore goal more)
  have hfound (hresult : (evaluateGoalQualification jsEngine goal).result = .outOfScope) :
      ∀ finding ∈ (evaluateGoalQualification jsEngine goal).findings,
        finding.reasonCode ≠ "GOAL_TEMPLATE_UNAVAILABLE" →
          (evaluateGoalQualification jsEngine (askMore goal more)).result = .outOfScope ∧
            finding ∈ (evaluateGoalQualification jsEngine (askMore goal more)).findings := by
    intro finding hfinding hcode
    rw [(hcoherent.outOfScope hresult).1] at hfinding
    have hmem : finding ∈ outOfScopeFindings jsEngine (askMore goal more) :=
      outOfScopeFindings_askMore hfinding hcode
    have hresult' := hcoherent'.outOfScope_iff.mpr (List.ne_nil_of_mem hmem)
    rw [(hcoherent'.outOfScope hresult').1]
    exact ⟨hresult', hmem⟩
  refine ⟨hfound, ?_, fun hresult hcodes => ?_⟩
  · rw [screenEstimate_evaluate, screenEstimate_evaluate]
    exact max_le_max_left _ (screenEstimateFromText_askMore goal more)
  · have hall (finding) (hfinding : finding ∈ (evaluateGoalQualification jsEngine goal).findings) :=
      hfound hresult finding hfinding (hcodes finding hfinding)
    obtain ⟨finding, hfinding⟩ := List.exists_mem_of_ne_nil _
      (hcoherent.outOfScope_iff.mp hresult)
    rw [← (hcoherent.outOfScope hresult).1] at hfinding
    refine ⟨(hall finding hfinding).1, fun code hcode => ?_⟩
    obtain ⟨finding', hfinding', rfl⟩ := (hcoherent.codes code).mp hcode
    exact (hcoherent'.codes _).mpr ⟨finding', (hall finding' hfinding').2, rfl⟩

def payGoal : StructuredGoalDto :=
  { demoGoal with mustHaves := [⟨js "MH-001", js "Pay with Stripe"⟩] }

theorem stripe_mem : (⟨"GOAL_CAPABILITY_UNSUPPORTED", "denied_capability", none,
    some "real_payment"⟩ : QualificationFinding) ∈ outOfScopeFindings jsEngine payGoal := by
  have hasked : jsEngine.test "\\bstripe\\b" (requestedText payGoal) = true := by decide
  have hentry : deniedCapabilityPatterns[4] ∈ deniedCapabilityPatterns :=
    List.getElem_mem (by decide)
  refine List.mem_append_right _ (List.mem_map.mpr ⟨_, List.mem_filter.mpr ⟨hentry, ?_⟩, rfl⟩)
  exact List.any_eq_true.mpr ⟨_, List.mem_cons_self, hasked⟩

theorem asking_more_demo : (evaluateGoalQualification jsEngine
    (askMore payGoal [⟨js "MH-002", js "Use Rails and React"⟩])).result = .outOfScope := by
  have hcoherent := coherent_evaluate jsEngine payGoal
  have hdenied := hcoherent.outOfScope_iff.mpr (List.ne_nil_of_mem stripe_mem)
  obtain ⟨hstays, -, -⟩ := asking_more payGoal [⟨js "MH-002", js "Use Rails and React"⟩]
  have hfinding := stripe_mem
  rw [← (hcoherent.outOfScope hdenied).1] at hfinding
  exact (hstays hdenied _ hfinding (by decide)).1

/-! ## Numbers that straddle lines -/

/-- The line ends with a number, up to white space and hyphens. -/
def EndsWithCount (line : JsString) (n : ℕ) : Prop :=
  ∃ before num gap, line = before ++ (num ++ gap) ∧ before.getLast?.any RegExp.isWord = false ∧
    IsCount num n ∧ ∀ u ∈ gap, isGap u = true

/-- The line begins with a screen word, up to white space and hyphens. -/
def OpensWithWord (line : JsString) : Prop :=
  ∃ gap word rest, line = gap ++ (word ++ rest) ∧ (∀ u ∈ gap, isGap u = true) ∧
    IsScreenWord word ∧ rest.head?.any RegExp.isWord = false

/-- One line ends with the number `n` and a later one begins with a screen word, with nothing
but white space and hyphens in the lines between them. -/
def Straddles (texts : List JsString) (n : ℕ) : Prop :=
  ∃ above line between line' below, texts = above ++ line :: (between ++ line' :: below) ∧
    EndsWithCount line n ∧ (∀ text ∈ between, ∀ u ∈ text, isGap u = true) ∧ OpensWithWord line'

/-- A text with a line end, parted in two: the line end is in the first part or in the
second. -/
theorem append_eq_append_cons {x y line text : JsString} {u : UInt16}
    (h : x ++ y = line ++ u :: text) :
    (∃ z, x = line ++ u :: z ∧ text = z ++ y) ∨ ∃ z, line = x ++ z ∧ y = z ++ u :: text := by
  rcases List.append_eq_append_iff.mp h with ⟨z, hline, hy⟩ | ⟨z, hx, hcons⟩
  · exact .inr ⟨z, hline, hy⟩
  · cases z with
    | nil => exact .inr ⟨[], by simpa using hx.symm, hcons.symm⟩
    | cons v z =>
        obtain ⟨rfl, rfl⟩ := List.cons.inj hcons
        exact .inl ⟨z, hx, rfl⟩

theorem isGap_lineEnd : isGap 0x0A = true := by decide

theorem lineEnd_notMem {word : JsString} (h : ∀ u ∈ word, RegExp.isWord u = true) :
    (0x0A : UInt16) ∉ word :=
  fun hmem => absurd (h _ hmem) (by decide)

theorem opensWithWord_cons {line text : JsString} : OpensWithWord (line ++ 0x0A :: text) ↔
    OpensWithWord line ∨ (∀ u ∈ line, isGap u = true) ∧ OpensWithWord text := by
  constructor
  · rintro ⟨gap, word, rest, hparts, hgap, hword, hstop⟩
    rcases append_eq_append_cons hparts.symm with ⟨z, rfl, htext⟩ | ⟨z, hline, hrest⟩
    · rw [List.forall_mem_append, List.forall_mem_cons] at hgap
      exact .inr ⟨hgap.1, z, word, rest, htext, hgap.2.2, hword, hstop⟩
    rcases append_eq_append_cons hrest with ⟨z', rfl, -⟩ | ⟨z', rfl, rfl⟩
    · exact absurd (by simp) (lineEnd_notMem hword.isWord)
    · refine .inl ⟨gap, word, z', hline, hgap, hword, ?_⟩
      cases z' with
      | nil => rfl
      | cons u z' => exact hstop
  · rintro (⟨gap, word, rest, rfl, hgap, hword, hstop⟩ | ⟨hline, gap, word, rest, rfl, hgap, hword,
      hstop⟩)
    · refine ⟨gap, word, rest ++ 0x0A :: text, by simp, hgap, hword, ?_⟩
      cases rest with
      | nil => rfl
      | cons u rest => exact hstop
    · refine ⟨line ++ 0x0A :: gap, word, rest, by simp, ?_, hword, hstop⟩
      rw [List.forall_mem_append, List.forall_mem_cons]
      exact ⟨hline, isGap_lineEnd, hgap⟩

/-- Joined lines open with a screen word when a line does behind lines of gaps. -/
theorem opensWithWord_join {texts : List JsString} :
    OpensWithWord ([0x0A].intercalate texts) ↔ ∃ between line below,
      texts = between ++ line :: below ∧ (∀ text ∈ between, ∀ u ∈ text, isGap u = true) ∧
        OpensWithWord line := by
  have hnil : ¬ OpensWithWord [] := by
    rintro ⟨gap, word, rest, hparts, -, hword, -⟩
    rw [eq_comm, List.append_eq_nil_iff, List.append_eq_nil_iff] at hparts
    exact hword.ne_nil hparts.2.1
  induction texts with
  | nil => simp [hnil]
  | cons text texts ih =>
      have hjoin : OpensWithWord ([0x0A].intercalate (text :: texts)) ↔ OpensWithWord text ∨
          (∀ u ∈ text, isGap u = true) ∧ OpensWithWord ([0x0A].intercalate texts) := by
        cases texts with
        | nil => simp [hnil]
        | cons text' texts =>
            rw [List.intercalate_cons_cons, List.append_assoc, List.singleton_append,
              opensWithWord_cons]
      refine hjoin.trans ((or_congr_right (and_congr_right fun _ => ih)).trans ?_)
      constructor
      · rintro (hopens | ⟨hgap, between, line, below, rfl, hbetween, hopens⟩)
        · exact ⟨[], text, texts, rfl, List.forall_mem_nil _, hopens⟩
        · exact ⟨text :: between, line, below, rfl,
            List.forall_mem_cons.mpr ⟨hgap, hbetween⟩, hopens⟩
      · rintro ⟨between, line, below, hparts, hbetween, hopens⟩
        cases between with
        | nil =>
            cases hparts
            exact .inl hopens
        | cons text' between =>
            cases hparts
            obtain ⟨hgap, hbetween⟩ := List.forall_mem_cons.mp hbetween
            exact .inr ⟨hgap, between, line, below, rfl, hbetween, hopens⟩

theorem straddles_cons {text : JsString} {texts : List JsString} {n : ℕ} :
    Straddles (text :: texts) n ↔
      EndsWithCount text n ∧ OpensWithWord ([0x0A].intercalate texts) ∨ Straddles texts n := by
  rw [opensWithWord_join]
  constructor
  · rintro ⟨above, line, between, line', below, hparts, hends, hbetween, hopens⟩
    cases above with
    | nil =>
        cases hparts
        exact .inl ⟨hends, between, line', below, rfl, hbetween, hopens⟩
    | cons text' above =>
        cases hparts
        exact .inr ⟨above, line, between, line', below, rfl, hends, hbetween, hopens⟩
  · rintro (⟨hends, between, line', below, rfl, hbetween, hopens⟩ | ⟨above, line, between, line',
      below, rfl, hends, hbetween, hopens⟩)
    · exact ⟨[], text, between, line', below, rfl, hends, hbetween, hopens⟩
    · exact ⟨text :: above, line, between, line', below, rfl, hends, hbetween, hopens⟩

/-- Where a text with a line end names screens, the line end is behind them, in their gap or
before them. -/
theorem namesScreens_cons {line text : JsString} {n : ℕ} :
    NamesScreens IsCount (line ++ 0x0A :: text) n ↔ NamesScreens IsCount line n ∨
      EndsWithCount line n ∧ OpensWithWord text ∨ NamesScreens IsCount text n := by
  constructor
  · rintro ⟨before, num, gap, word, rest, hparts, hcount⟩
    rcases append_eq_append_cons hparts.symm with ⟨z, rfl, htext⟩ | ⟨z₁, hline, hnum⟩
    · refine .inr (.inr ⟨z, num, gap, word, rest, htext, { hcount with start := ?_ }⟩)
      cases z with
      | nil => rfl
      | cons u z =>
          have hstart := hcount.start
          rwa [any_getLast_append (List.cons_ne_nil _ _), List.getLast?_cons_cons] at hstart
    rcases append_eq_append_cons hnum with ⟨z, rfl, -⟩ | ⟨z₂, rfl, hbetween⟩
    · exact absurd (by simp) (lineEnd_notMem hcount.count.isWord)
    rcases append_eq_append_cons hbetween with ⟨z, rfl, htext⟩ | ⟨z₃, rfl, hword⟩
    · have hgap := hcount.gap.2
      rw [List.forall_mem_append, List.forall_mem_cons] at hgap
      exact .inr (.inl ⟨⟨before, num, z₂, hline, hcount.start, hcount.count, hgap.1⟩,
        z, word, rest, htext, hgap.2.2, hcount.word, hcount.stop⟩)
    rcases append_eq_append_cons hword with ⟨z, rfl, -⟩ | ⟨z₄, rfl, rfl⟩
    · exact absurd (by simp) (lineEnd_notMem hcount.word.isWord)
    · refine .inl ⟨before, num, gap, word, z₄, hline, { hcount with stop := ?_ }⟩
      cases z₄ with
      | nil => rfl
      | cons u z₄ => exact hcount.stop
  · rintro (hline | ⟨⟨before, num, gap, rfl, hstart, hnum, hgap⟩, gap', word, rest, rfl, hgap',
      hword, hstop⟩ | ⟨before, num, gap, word, rest, rfl, hcount⟩)
    · exact hline.append rfl
    · refine ⟨before, num, gap ++ 0x0A :: gap', word, rest, by simp, hstart, hnum, ⟨by simp, ?_⟩,
        hword, hstop⟩
      rw [List.forall_mem_append, List.forall_mem_cons]
      exact ⟨hgap, isGap_lineEnd, hgap'⟩
    · refine ⟨line ++ 0x0A :: before, num, gap, word, rest, by simp, { hcount with start := ?_ }⟩
      cases before with
      | nil => rw [any_getLast_append (List.cons_ne_nil _ _)]; rfl
      | cons u before =>
          rw [any_getLast_append (List.cons_ne_nil _ _), List.getLast?_cons_cons]
          exact hcount.start

/-- Joined lines name the screens that one of them names, and those that straddle lines. -/
theorem namesScreens_join {texts : List JsString} {n : ℕ} :
    NamesScreens IsCount ([0x0A].intercalate texts) n ↔
      (∃ line ∈ texts, NamesScreens IsCount line n) ∨ Straddles texts n := by
  have hnil : ¬ Straddles [] n := by
    rintro ⟨above, line, between, line', below, hparts, -⟩
    simp at hparts
  induction texts with
  | nil =>
      have hempty : ¬ NamesScreens IsCount [] n := by
        rintro ⟨before, num, gap, word, rest, hparts, hcount⟩
        simp only [eq_comm, List.append_eq_nil_iff] at hparts
        exact hcount.count.ne_nil hparts.2.1
      simp [hnil, hempty]
  | cons text texts ih =>
      rw [straddles_cons, List.exists_mem_cons_iff]
      cases texts with
      | nil =>
          have hclosed : ¬ OpensWithWord [] := by
            rintro ⟨gap, word, rest, hparts, -, hword, -⟩
            simp only [eq_comm, List.append_eq_nil_iff] at hparts
            exact hword.ne_nil hparts.2.1
          simp [hnil, hclosed]
      | cons text' texts =>
          rw [List.intercalate_cons_cons, List.append_assoc, List.singleton_append,
            namesScreens_cons, or_congr_right (or_congr_right ih), or_assoc]
          exact or_congr_right or_left_comm

end GoalQualification

end Aico
