import Aico.Initiatives.GoalLayout

/-!
# Goals with too many screens

A goal is refused for its screens when its own limit or a number its text names is over five
(`refusesScreens_iff`). The screen pattern reads numerals of one or two digits, and it reads
on over the end of a line: so a longer numeral is not found, and a number can be made of two
must-haves that follow each other.
-/

namespace Aico

namespace GoalQualification

open RegExp QualificationPolicy

variable {goal : StructuredGoalDto}

/-- The refusal of a goal with too many screens. -/
def RefusesScreens (q : GoalQualification) : Prop :=
  q.result = .outOfScope ∧ "GOAL_TOO_MANY_SCREENS" ∈ q.reasonCodes ∧ 6 ≤ q.screenEstimate

theorem mem_boundaryFindings_screens {finding : QualificationFinding}
    (h : finding ∈ outOfScopeFindings jsEngine goal)
    (hcode : finding.reasonCode = "GOAL_TOO_MANY_SCREENS") :
    maxScreens < goal.constraints.maxScreens ∨
      maxScreens < screenEstimateFromText jsEngine (requestedText goal) := by
  have hentries : ∀ entry ∈ deniedCapabilityPatterns,
      entry.reasonCode ≠ "GOAL_TOO_MANY_SCREENS" := by
    decide
  rcases List.mem_append.mp h with h | h
  · simp only [boundaryFindings, List.mem_append, mem_findingIf, or_assoc] at h
    rcases h with ⟨-, rfl⟩ | ⟨-, rfl⟩ | ⟨-, rfl⟩ | h | ⟨-, rfl⟩ | ⟨-, rfl⟩ | ⟨-, rfl⟩
    pick_goal 4
    · split at h
      · next hmax => exact .inl hmax
      · exact .inr (of_decide_eq_true (mem_findingIf.mp h).1)
    all_goals exact absurd hcode (by decide)
  · obtain ⟨entry, hentry, rfl⟩ := List.mem_map.mp h
    exact absurd hcode (hentries entry (List.mem_of_mem_filter hentry))

theorem exists_screens_finding (h : maxScreens < goal.constraints.maxScreens ∨
    maxScreens < screenEstimateFromText jsEngine (requestedText goal)) :
    ∃ finding ∈ outOfScopeFindings jsEngine goal,
      finding.reasonCode = "GOAL_TOO_MANY_SCREENS" := by
  have hmem {finding : QualificationFinding} (hfinding : finding ∈
      if maxScreens < goal.constraints.maxScreens then
        [⟨"GOAL_TOO_MANY_SCREENS", "max_five_screens", some "goal.constraints.max_screens", none⟩]
      else
        findingIf (maxScreens < screenEstimateFromText jsEngine (requestedText goal))
          ⟨"GOAL_TOO_MANY_SCREENS", "max_five_screens", some "goal.primary_flow", none⟩) :
      finding ∈ outOfScopeFindings jsEngine goal := by
    simp only [outOfScopeFindings, boundaryFindings, List.mem_append]
    exact .inl (.inl (.inl (.inl (.inr hfinding))))
  by_cases hmax : maxScreens < goal.constraints.maxScreens
  · exact ⟨_, hmem (by rw [if_pos hmax]; exact List.mem_singleton_self _), rfl⟩
  · have htext := h.resolve_left hmax
    exact ⟨_, hmem (by rw [if_neg hmax]; exact mem_findingIf.mpr ⟨decide_eq_true htext, rfl⟩), rfl⟩

/-- A goal is refused for its screens just when its limit or its text is over five. -/
theorem refusesScreens_iff : RefusesScreens (evaluateGoalQualification jsEngine goal) ↔
    5 < goal.constraints.maxScreens ∨
      ∃ n, 5 < n ∧ NamesScreens IsCount (requestedText goal) n := by
  have hcoherent := coherent_evaluate jsEngine goal
  rw [← lt_screenEstimateFromText]
  constructor
  · rintro ⟨hresult, hcode, -⟩
    obtain ⟨finding, hfinding, hcode⟩ := (hcoherent.codes _).mp hcode
    rw [(hcoherent.outOfScope hresult).1] at hfinding
    exact mem_boundaryFindings_screens hfinding hcode
  · intro h
    obtain ⟨finding, hfinding, hcode⟩ := exists_screens_finding h
    have hresult := hcoherent.outOfScope_iff.mpr (List.ne_nil_of_mem hfinding)
    rw [← (hcoherent.outOfScope hresult).1] at hfinding
    refine ⟨hresult, (hcoherent.codes _).mpr ⟨finding, hfinding, hcode⟩, ?_⟩
    rw [screenEstimate_evaluate]
    exact le_max_iff.mpr (h.imp Nat.succ_le_of_lt Nat.succ_le_of_lt)

/-- Whoever writes a number of more than five screens in a line is refused just when the
number has one or two digits, or else the limit is over five or the text names another
number over five that the pattern reads. -/
theorem tooManyScreens_iff {line before num gap word rest : JsString} {n : ℕ}
    (hline : line ∈ lines goal) (hparts : line = before ++ (num ++ (gap ++ (word ++ rest))))
    (hcount : IsScreenCount IsNumeral before num gap word rest n) (hn : 5 < n) :
    RefusesScreens (evaluateGoalQualification jsEngine goal) ↔
      num.length ≤ 2 ∨ 5 < goal.constraints.maxScreens ∨
        ∃ n, 5 < n ∧ NamesScreens IsCount (requestedText goal) n := by
  rw [refusesScreens_iff]
  constructor
  · exact .inr
  · rintro (hlength | h)
    · have hnames : NamesScreens IsCount line n :=
        ⟨before, num, gap, word, rest, hparts, { hcount with count := .inl ⟨hlength, hcount.count⟩ }⟩
      exact .inr ⟨n, hn, namesScreens_join.mpr (.inl ⟨line, hline, hnames⟩)⟩
    · exact h

/-- A goal whose text asks for a number of screens. -/
def screensGoal (request : String) : StructuredGoalDto :=
  { demoGoal with mustHaves := [⟨js "MH-001", js request⟩] }

theorem isScreenCount_request (num : String) {n : ℕ} (hne : js num ≠ [])
    (hdigits : (js num).all isDigit = true) (hvalue : decimalValue (js num) = n) :
    IsScreenCount IsNumeral (js "Show ") (js num) (js " ") (js "Screens") [] n where
  start := by decide
  count := ⟨hne, List.all_eq_true.mp hdigits, hvalue⟩
  gap := ⟨by decide, List.all_eq_true.mp (by decide)⟩
  word := ⟨"screens", by decide, by decide⟩
  stop := rfl

theorem tooManyScreens_demo :
    RefusesScreens (evaluateGoalQualification jsEngine (screensGoal "Show 12 Screens")) := by
  have hline : js "Show 12 Screens" ∈ lines (screensGoal "Show 12 Screens") := by
    simp [lines, screensGoal]
  have hcount := isScreenCount_request "12" (by decide) (by decide) rfl
  exact (tooManyScreens_iff hline (by decide) hcount (by decide)).mpr (.inl (by decide))

/-- A goal with a hundred screens is qualified. -/
theorem tooManyScreens_fails :
    js "Show 100 Screens" ∈ lines (screensGoal "Show 100 Screens") ∧
      js "Show 100 Screens" = js "Show " ++ (js "100" ++ (js " " ++ (js "Screens" ++ []))) ∧
      IsScreenCount IsNumeral (js "Show ") (js "100") (js " ") (js "Screens") [] 100 ∧
      ¬ RefusesScreens (evaluateGoalQualification jsEngine (screensGoal "Show 100 Screens")) := by
  refine ⟨by simp [lines, screensGoal], by decide,
    isScreenCount_request "100" (by decide) (by decide) rfl, fun hrefuses => ?_⟩
  have hestimate : screenEstimateFromText jsEngine
      (requestedText (screensGoal "Show 100 Screens")) ≤ 5 := by
    decide +kernel
  rcases refusesScreens_iff.mp hrefuses with hlimit | hnames
  · exact absurd hlimit (by decide)
  · exact absurd (lt_screenEstimateFromText.mpr hnames) (not_lt.mpr hestimate)

/-! ## The order of the must-haves -/

def reorder (goal : StructuredGoalDto) (mustHaves : List MustHaveDto) : StructuredGoalDto :=
  { goal with mustHaves := mustHaves }

/-- The largest number of screens that a single line names. -/
def lineEstimate (goal : StructuredGoalDto) : ℕ :=
  ((lines goal).map (screenEstimateFromText jsEngine)).foldl max 0

theorem le_screenEstimateFromText {text : JsString} {n : ℕ} (h : NamesScreens IsCount text n) :
    n ≤ screenEstimateFromText jsEngine text := by
  by_contra hlt
  exact lt_irrefl _ (lt_screenEstimateFromText.mpr ⟨n, not_le.mp hlt, h⟩)

theorem lt_lineEstimate {m : ℕ} : m < lineEstimate goal ↔
    ∃ line ∈ lines goal, ∃ n, m < n ∧ NamesScreens IsCount line n := by
  simp only [← lt_screenEstimateFromText]
  rw [lineEstimate, ← Nat.add_one_le_iff, le_foldl_max, or_iff_right (Nat.not_succ_le_zero m)]
  simp only [List.mem_map, exists_exists_and_eq_and, Nat.add_one_le_iff]

variable {mustHaves : List MustHaveDto}

theorem lines_reorder (h : mustHaves.Perm goal.mustHaves) :
    (lines (reorder goal mustHaves)).Perm (lines goal) :=
  (h.map MustHaveDto.text).append_left _

theorem lineEstimate_reorder (h : mustHaves.Perm goal.mustHaves) :
    lineEstimate (reorder goal mustHaves) = lineEstimate goal := by
  refine eq_of_forall_lt_iff fun m => ?_
  rw [lt_lineEstimate, lt_lineEstimate]
  simp only [(lines_reorder h).mem_iff]

theorem lineEstimate_le : lineEstimate goal ≤
    screenEstimateFromText jsEngine (requestedText goal) := by
  refine le_of_forall_lt fun m hm => ?_
  obtain ⟨line, hline, n, hn, hnames⟩ := lt_lineEstimate.mp hm
  exact lt_screenEstimateFromText.mpr ⟨n, hn, namesScreens_join.mpr (.inl ⟨line, hline, hnames⟩)⟩

/-- The estimate is that of the single lines when no larger number straddles them. -/
theorem screenEstimate_eq_lineEstimate :
    (evaluateGoalQualification jsEngine goal).screenEstimate =
        max goal.constraints.maxScreens (lineEstimate goal) ↔
      ∀ n, Straddles (lines goal) n → n ≤ max goal.constraints.maxScreens (lineEstimate goal) := by
  rw [screenEstimate_evaluate]
  constructor
  · intro h n hn
    rw [← h]
    exact le_max_of_le_right (le_screenEstimateFromText (namesScreens_join.mpr (.inr hn)))
  · intro h
    refine le_antisymm (max_le (le_max_left _ _) ?_) (max_le_max_left _ lineEstimate_le)
    refine le_of_forall_lt fun m hm => ?_
    obtain ⟨n, hn, hnames⟩ := lt_screenEstimateFromText.mp hm
    rcases namesScreens_join.mp hnames with ⟨line, hline, hnames⟩ | hstraddles
    · exact lt_max_of_lt_right (lt_lineEstimate.mpr ⟨line, hline, n, hn, hnames⟩)
    · exact hn.trans_le (h n hstraddles)

theorem test_reorder (h : mustHaves.Perm goal.mustHaves) {p : String} (hp : IsLocal p) :
    jsEngine.test p (requestedText (reorder goal mustHaves)) =
      jsEngine.test p (requestedText goal) := by
  rw [test_requestedText hp, test_requestedText hp]
  exact (lines_reorder h).any_eq

theorem boundaryFindings_reorder (h : mustHaves.Perm goal.mustHaves)
    (hestimate : max goal.constraints.maxScreens
        (screenEstimateFromText jsEngine (requestedText (reorder goal mustHaves))) =
      max goal.constraints.maxScreens (screenEstimateFromText jsEngine (requestedText goal))) :
    boundaryFindings jsEngine (reorder goal mustHaves) = boundaryFindings jsEngine goal := by
  have htest : ∀ p ∈ boundaryPatterns ++ templatePatterns,
      jsEngine.test p (requestedText (reorder goal mustHaves)) =
        jsEngine.test p (requestedText goal) :=
    fun p hp => test_reorder h (isLocal_of_boundary p hp)
  simp only [boundaryPatterns, templatePatterns, List.cons_append, List.nil_append,
    List.forall_mem_cons] at htest
  obtain ⟨hgeneral, hagent, hsandbox, hmultiple, halso, hboth, htemplate, hreact, -⟩ := htest
  have hover (hmax : ¬ maxScreens < goal.constraints.maxScreens) :
      maxScreens < screenEstimateFromText jsEngine (requestedText (reorder goal mustHaves)) ↔
        maxScreens < screenEstimateFromText jsEngine (requestedText goal) := by
    have hlt (m : ℕ) : maxScreens < m ↔ maxScreens < max goal.constraints.maxScreens m := by
      rw [lt_max_iff, or_iff_right hmax]
    rw [hlt, hestimate, ← hlt]
  have hlimit : (reorder goal mustHaves).constraints = goal.constraints := rfl
  unfold boundaryFindings personaCountFromText
  simp only [hgeneral, hagent, hsandbox, hmultiple, halso, hboth, htemplate, hreact, hlimit]
  by_cases hmax : maxScreens < goal.constraints.maxScreens
  · simp only [if_pos hmax]
  · simp only [if_neg hmax, hover hmax]

theorem capabilityFindings_reorder (h : mustHaves.Perm goal.mustHaves) :
    capabilityFindings jsEngine (requestedText (reorder goal mustHaves)) =
      capabilityFindings jsEngine (requestedText goal) := by
  unfold capabilityFindings
  congr 1
  refine List.filter_congr fun entry hentry => ?_
  rw [Bool.eq_iff_iff, List.any_eq_true, List.any_eq_true]
  refine exists_congr fun p => and_congr_right fun hp => ?_
  rw [test_reorder h (isLocal_of_denied entry hentry p hp)]

theorem evaluate_reorder (h : mustHaves.Perm goal.mustHaves) :
    evaluateGoalQualification jsEngine (reorder goal mustHaves) =
        evaluateGoalQualification jsEngine goal ↔
      (evaluateGoalQualification jsEngine (reorder goal mustHaves)).screenEstimate =
        (evaluateGoalQualification jsEngine goal).screenEstimate := by
  refine ⟨congrArg GoalQualification.screenEstimate, fun hestimate => ?_⟩
  rw [screenEstimate_evaluate, screenEstimate_evaluate] at hestimate
  have hnil : (reorder goal mustHaves).mustHaves = [] ↔ goal.mustHaves = [] := by
    rw [← List.length_eq_zero_iff, ← List.length_eq_zero_iff, reorder, h.length_eq]
  have hquestions : openQuestions jsEngine (reorder goal mustHaves) =
      openQuestions jsEngine goal := by
    unfold openQuestions
    congr 1
    exact if_congr hnil rfl rfl
  unfold evaluateGoalQualification
  dsimp only
  rw [boundaryFindings_reorder h hestimate, capabilityFindings_reorder h, hquestions, hestimate]

/-- The layout of a goal does not matter just when in no order of the must-haves a number that
straddles lines is over the limit and over all that the single lines name. -/
theorem layout_iff (goal : StructuredGoalDto) :
    ((∀ mustHaves : List MustHaveDto, mustHaves.Perm goal.mustHaves →
        evaluateGoalQualification jsEngine (reorder goal mustHaves) =
          evaluateGoalQualification jsEngine goal) ∧
      (evaluateGoalQualification jsEngine goal).screenEstimate =
        max goal.constraints.maxScreens (lineEstimate goal)) ↔
    ∀ mustHaves : List MustHaveDto, mustHaves.Perm goal.mustHaves →
      ∀ n, Straddles (lines (reorder goal mustHaves)) n → n ≤ goal.constraints.maxScreens ∨
        ∃ line ∈ lines goal, ∃ m, n ≤ m ∧ NamesScreens IsCount line m := by
  have hbound {n : ℕ} : (n ≤ goal.constraints.maxScreens ∨
      ∃ line ∈ lines goal, ∃ m, n ≤ m ∧ NamesScreens IsCount line m) ↔
        n ≤ max goal.constraints.maxScreens (lineEstimate goal) := by
    rw [le_max_iff]
    cases n with
    | zero => simp
    | succ n => rw [Nat.succ_le_iff (n := lineEstimate goal), lt_lineEstimate]; rfl
  have hexact {mustHaves : List MustHaveDto} (h : mustHaves.Perm goal.mustHaves) :
      (evaluateGoalQualification jsEngine (reorder goal mustHaves)).screenEstimate =
          max goal.constraints.maxScreens (lineEstimate goal) ↔
        ∀ n, Straddles (lines (reorder goal mustHaves)) n →
          n ≤ max goal.constraints.maxScreens (lineEstimate goal) := by
    have hline := lineEstimate_reorder h
    rw [← hline]
    exact screenEstimate_eq_lineEstimate
  simp only [hbound]
  constructor
  · rintro ⟨hsame, hestimate⟩ mustHaves h
    refine (hexact h).mp ?_
    rw [hsame mustHaves h, hestimate]
  · intro hnone
    have hestimate (mustHaves) (h : mustHaves.Perm goal.mustHaves) :=
      (hexact h).mpr (hnone mustHaves h)
    have hgoal := hestimate goal.mustHaves (List.Perm.refl _)
    refine ⟨fun mustHaves h => (evaluate_reorder h).mpr ?_, hgoal⟩
    exact (hestimate mustHaves h).trans hgoal.symm

def staffScreens : MustHaveDto := ⟨js "MH-001", js "Screens for the staff"⟩

def orderLimit : MustHaveDto := ⟨js "MH-002", js "Orders up to 12"⟩

def layoutGoal : StructuredGoalDto := { demoGoal with mustHaves := [staffScreens, orderLimit] }

/-- The other way round, two must-haves name twelve screens that neither of them names. -/
theorem layout_fails : [orderLimit, staffScreens].Perm layoutGoal.mustHaves ∧
    (evaluateGoalQualification jsEngine layoutGoal).screenEstimate = 3 ∧
    (evaluateGoalQualification jsEngine
      (reorder layoutGoal [orderLimit, staffScreens])).screenEstimate = 12 ∧
    max layoutGoal.constraints.maxScreens
      (lineEstimate (reorder layoutGoal [orderLimit, staffScreens])) = 3 := by
  rw [screenEstimate_evaluate, screenEstimate_evaluate]
  exact ⟨List.Perm.swap _ _ _, by decide +kernel, by decide +kernel, by decide +kernel⟩

end GoalQualification

end Aico
