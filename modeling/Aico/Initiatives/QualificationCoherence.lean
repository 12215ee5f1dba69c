import Aico.Foundation.Words
import Aico.Json.Ascii
import Aico.Validation.Agreement

/-!
# The record of a qualification

The reason codes of a qualification are those of its findings, in their fixed order. It is
out of scope just when a rule found something, and then its proposal names each denied
capability once; otherwise it asks its open questions, or it is qualified. So the row that
is stored for it meets the constraints across its columns.
-/

namespace Aico

namespace GoalQualification

open QualificationPolicy

variable (engine : RegExpEngine) (goal : StructuredGoalDto)

def outOfScopeFindings : List QualificationFinding :=
  boundaryFindings engine goal ++ capabilityFindings engine (requestedText goal)

/-- What separates the words of a proposal: anything but letters and underscores. -/
def isSeparator (c : Char) : Bool := !(c.isAlpha || c = '_')

def mentions (text name : String) : ℕ := text.toList.wordCount isSeparator name.toList

def deniedCapabilities : List String :=
  (deniedCapabilityPatterns.filter fun entry =>
    entry.patterns.any fun p => engine.test p (requestedText goal)).map
      DeniedCapability.capability

/-- What holds of the record of a qualification. -/
structure Coherent (q : GoalQualification) : Prop where
  nodup : q.reasonCodes.Nodup
  ordered : q.reasonCodes.Sublist reasonCodeOrder
  codes : ∀ code, code ∈ q.reasonCodes ↔ ∃ finding ∈ q.findings, finding.reasonCode = code
  outOfScope_iff : q.result = .outOfScope ↔ outOfScopeFindings engine goal ≠ []
  outOfScope : q.result = .outOfScope → q.findings = outOfScopeFindings engine goal ∧
    q.clarificationQuestions = [] ∧ ∃ proposal, q.proposal = some proposal ∧ proposal ≠ "" ∧
      ∀ entry ∈ deniedCapabilityPatterns, mentions proposal entry.capability =
        if entry.capability ∈ deniedCapabilities engine goal then 1 else 0
  needsClarification : q.result = .needsClarification → q.proposal = none ∧
    1 ≤ q.clarificationQuestions.length ∧ q.clarificationQuestions.length ≤ 5 ∧
    q.clarificationQuestions.map ClarificationQuestion.id =
      (List.range q.clarificationQuestions.length).map (fun i => "Q" ++ toString (i + 1)) ∧
    (q.clarificationQuestions.map ClarificationQuestion.code).Nodup
  qualified : q.result = .qualified → q.proposal = none ∧ q.findings = [] ∧
    q.clarificationQuestions = [] ∧ q.screenEstimate ≤ 5

variable {engine goal}

/-! ## Reason codes -/

theorem reasonCodeOrder_nodup : reasonCodeOrder.Nodup := by decide

theorem mem_uniqueReasonCodes {findings : List QualificationFinding} {code : String} :
    code ∈ uniqueReasonCodes findings ↔
      code ∈ reasonCodeOrder ∧ ∃ finding ∈ findings, finding.reasonCode = code := by
  simp [uniqueReasonCodes]

theorem mem_findingIf {found : Bool} {finding f : QualificationFinding} :
    f ∈ findingIf found finding ↔ found = true ∧ f = finding := by
  unfold findingIf
  split
  · next h => simp [h]
  · next h => simp [h]

theorem findingIf_eq_nil {found : Bool} {finding : QualificationFinding} :
    findingIf found finding = [] ↔ found = false := by
  cases found <;> simp [findingIf]

/-- A rule reports one of the codes of the order. -/
theorem reasonCode_mem_order {finding : QualificationFinding}
    (h : finding ∈ outOfScopeFindings engine goal) : finding.reasonCode ∈ reasonCodeOrder := by
  have hentries : ∀ entry ∈ deniedCapabilityPatterns, entry.reasonCode ∈ reasonCodeOrder := by
    decide
  rcases List.mem_append.mp h with h | h
  · simp only [boundaryFindings, List.mem_append, mem_findingIf, or_assoc] at h
    rcases h with ⟨-, rfl⟩ | ⟨-, rfl⟩ | ⟨-, rfl⟩ | h | ⟨-, rfl⟩ | ⟨-, rfl⟩ | ⟨-, rfl⟩
    · decide
    · decide
    · decide
    · split at h
      · rw [List.mem_singleton.mp h]
        decide
      · rw [(mem_findingIf.mp h).2]
        decide
    · decide
    · decide
    · decide
  · obtain ⟨entry, hentry, rfl⟩ := List.mem_map.mp h
    exact hentries entry (List.mem_of_mem_filter hentry)

/-- No code is lost, so a finding is a reason. -/
theorem uniqueReasonCodes_eq_nil :
    uniqueReasonCodes (outOfScopeFindings engine goal) = [] ↔
      outOfScopeFindings engine goal = [] := by
  constructor
  · intro hcodes
    refine List.eq_nil_iff_forall_not_mem.mpr fun finding hfinding => ?_
    have hcode : finding.reasonCode ∈ uniqueReasonCodes (outOfScopeFindings engine goal) :=
      mem_uniqueReasonCodes.mpr ⟨reasonCode_mem_order hfinding, finding, hfinding, rfl⟩
    rw [hcodes] at hcode
    cases hcode
  · intro hfindings
    rw [hfindings]
    rfl

/-! ## The proposal -/

theorem mem_distinct {values : List String} {v : String} : v ∈ distinct values ↔ v ∈ values := by
  simp [distinct]

theorem nodup_distinct (values : List String) : (distinct values).Nodup :=
  List.nodup_reverse.mpr (List.nodup_dedup _)

theorem capabilities_outOfScopeFindings (engine : RegExpEngine) (goal : StructuredGoalDto) :
    (outOfScopeFindings engine goal).filterMap QualificationFinding.capability =
      deniedCapabilities engine goal := by
  have hboundary : (boundaryFindings engine goal).filterMap QualificationFinding.capability =
      [] := by
    refine List.filterMap_eq_nil_iff.mpr fun finding h => ?_
    simp only [boundaryFindings, List.mem_append, mem_findingIf, or_assoc] at h
    rcases h with ⟨-, rfl⟩ | ⟨-, rfl⟩ | ⟨-, rfl⟩ | h | ⟨-, rfl⟩ | ⟨-, rfl⟩ | ⟨-, rfl⟩
    · rfl
    · rfl
    · rfl
    · split at h
      · rw [List.mem_singleton.mp h]
      · rw [(mem_findingIf.mp h).2]
    · rfl
    · rfl
    · rfl
  rw [outOfScopeFindings, List.filterMap_append, hboundary, List.nil_append, capabilityFindings,
    List.filterMap_map, deniedCapabilities]
  exact congrFun List.filterMap_eq_map _

theorem capability_word : ∀ entry ∈ deniedCapabilityPatterns,
    '_' ∈ entry.capability.toList ∧ ∀ c ∈ entry.capability.toList, isSeparator c = false := by
  have hall : (deniedCapabilityPatterns.all fun entry => JsString.isAscii entry.capability &&
      ((JsString.asciiChars entry.capability).contains '_' &&
        (JsString.asciiChars entry.capability).all fun c => !isSeparator c)) = true := by
    decide
  intro entry hentry
  obtain ⟨hascii, hword⟩ := Bool.and_eq_true_iff.mp (List.all_eq_true.mp hall entry hentry)
  rw [JsString.toList_of_isAscii hascii]
  simpa using hword

theorem underscore_notMem_nextAction (code : String) : '_' ∉ (reason code).nextAction.toList := by
  unfold reason
  split <;> (rw [JsString.toList_of_isAscii (by decide)]; decide)

/-- The actions of a proposal name no capability. -/
theorem underscore_notMem_actions (codes : List String) :
    '_' ∉ (" ".intercalate (distinct (codes.map fun code => (reason code).nextAction))).toList := by
  rw [String.toList_intercalate]
  intro hmem
  rcases List.mem_of_mem_intercalate hmem with hmem | ⟨word, hword, hmem⟩
  · exact absurd hmem (by decide)
  · obtain ⟨action, haction, rfl⟩ := List.mem_map.mp hword
    obtain ⟨code, -, rfl⟩ := List.mem_map.mp (mem_distinct.mp haction)
    exact underscore_notMem_nextAction code hmem

theorem deniedCapabilities_word :
    ∀ word ∈ (deniedCapabilities engine goal).map String.toList,
      ∀ c ∈ word, isSeparator c = false := by
  intro word hword
  obtain ⟨name, hname, rfl⟩ := List.mem_map.mp hword
  obtain ⟨entry, hentry, rfl⟩ := List.mem_map.mp hname
  exact (capability_word entry (List.mem_of_mem_filter hentry)).2

/-- A word with an underscore is in the proposal as often as among the capabilities. -/
theorem mentions_proposalFor {findings : List QualificationFinding} (codes : List String)
    {name : String} (hname : '_' ∈ name.toList)
    (hwords : ∀ word ∈ (distinct (findings.filterMap QualificationFinding.capability)).map
      String.toList, ∀ c ∈ word, isSeparator c = false) :
    mentions (proposalFor codes findings) name =
      (distinct (findings.filterMap QualificationFinding.capability)).count name := by
  have hspace : isSeparator ' ' = true := by decide
  have hcomma : isSeparator ',' = true := by decide
  have hne : name.toList ≠ [] := List.ne_nil_of_mem hname
  have hnone {text : List Char} (htext : '_' ∉ text) :
      text.wordCount isSeparator name.toList = 0 := List.wordCount_eq_zero hname htext
  unfold proposalFor mentions
  dsimp only
  generalize distinct (findings.filterMap QualificationFinding.capability) = capabilities
    at hwords
  have hactions := underscore_notMem_actions codes
  generalize " ".intercalate (distinct (codes.map fun code => (reason code).nextAction)) =
    actions at hactions
  generalize hkeep :
    "Keep one primary persona, one primary flow, and five screens or fewer using local mock data."
      = opening
  have hopening : '_' ∉ opening.toList := by
    rw [← hkeep, JsString.toList_of_isAscii (by decide)]
    decide
  by_cases hcapabilities : capabilities = []
  · rw [if_pos hcapabilities, hcapabilities, List.count_nil]
    have hparts : (opening ++ "" ++ " " ++ actions).toList =
        opening.toList ++ ' ' :: actions.toList := by simp
    rw [hparts, List.wordCount_append_cons _ _ _ hspace, hnone hopening, hnone hactions]
  · rw [if_neg hcapabilities]
    have hparts : (opening ++ (" Remove " ++ ", ".intercalate capabilities ++
          " from the requested behavior.") ++ " " ++ actions).toList =
        opening.toList ++ ' ' :: ("Remove".toList ++ ' ' ::
          ([',', ' '].intercalate (capabilities.map String.toList) ++ ' ' ::
            ("from the requested behavior.".toList ++ ' ' :: actions.toList))) := by
      simp
    have hremove : '_' ∉ "Remove".toList := by decide
    have hbehavior : '_' ∉ "from the requested behavior.".toList := by decide
    rw [hparts, List.wordCount_append_cons _ _ _ hspace, List.wordCount_append_cons _ _ _ hspace,
      List.wordCount_append_cons _ _ _ hspace, List.wordCount_append_cons _ _ _ hspace,
      List.wordCount_intercalate hcomma hspace hne hwords, hnone hopening, hnone hremove,
      hnone hbehavior, hnone hactions]
    have hcount : (capabilities.map String.toList).count name.toList = capabilities.count name :=
      List.count_map_of_injective _ _ (fun _ _ => String.toList_inj.mp) _
    omega

/-! ## The questions -/

theorem map_id_numbered (questions : List Question) :
    (numbered questions).map ClarificationQuestion.id =
      (List.range questions.length).map fun i => "Q" ++ toString (i + 1) := by
  rw [numbered, List.map_map]
  refine List.ext_getElem (by simp) fun i hi _ => ?_
  simp

theorem map_code_numbered (questions : List Question) :
    (numbered questions).map ClarificationQuestion.code = questions.map Question.code := by
  rw [numbered, List.map_map]
  refine List.ext_getElem (by simp) fun i hi _ => ?_
  simp

/-- Each question is asked once at most. -/
theorem nodup_code_openQuestions : ((openQuestions engine goal).map Question.code).Nodup := by
  have hone (c : Prop) [Decidable c] (question : Question) :
      ((if c then [question] else []).map Question.code).Sublist [question.code] := by
    split
    · exact List.Sublist.refl _
    · exact List.nil_sublist _
  have hcodes : ((openQuestions engine goal).map Question.code).Sublist
      (["missing_target_user"] ++ ["vague_problem"] ++ ["vague_outcome"] ++ ["vague_flow"] ++
        ["missing_must_have"]) := by
    simp only [openQuestions, List.map_append]
    exact ((((hone _ _).append (hone _ _)).append (hone _ _)).append (hone _ _)).append (hone _ _)
  exact List.Nodup.sublist hcodes (by decide)

theorem screenEstimate_le (h : outOfScopeFindings engine goal = []) :
    max goal.constraints.maxScreens (screenEstimateFromText engine (requestedText goal)) ≤ 5 := by
  simp only [outOfScopeFindings, boundaryFindings, List.append_eq_nil_iff] at h
  obtain ⟨⟨⟨⟨⟨⟨-, -⟩, hscreens⟩, -⟩, -⟩, -⟩, -⟩ := h
  split at hscreens
  · cases hscreens
  · next hmax =>
      have htext := findingIf_eq_nil.mp hscreens
      rw [decide_eq_false_iff_not] at htext
      exact max_le (not_lt.mp hmax) (not_lt.mp htext)

/-! ## The record -/

theorem coherent_outOfScope (hcodes : uniqueReasonCodes (outOfScopeFindings engine goal) ≠ []) :
    Coherent engine goal (evaluateGoalQualification engine goal) := by
  have heval : evaluateGoalQualification engine goal =
      { result := .outOfScope
        reasonCodes := uniqueReasonCodes (outOfScopeFindings engine goal)
        explanation := explanationFor (uniqueReasonCodes (outOfScopeFindings engine goal)) .outOfScope
        proposal := some (proposalFor (uniqueReasonCodes (outOfScopeFindings engine goal))
          (outOfScopeFindings engine goal))
        clarificationQuestions := []
        screenEstimate := max goal.constraints.maxScreens
          (screenEstimateFromText engine (requestedText goal))
        policyVersion := QualificationPolicy.policyVersion
        findings := outOfScopeFindings engine goal } := by
    unfold evaluateGoalQualification
    exact if_pos hcodes
  rw [heval]
  exact {
    nodup := List.filter_sublist.nodup reasonCodeOrder_nodup
    ordered := List.filter_sublist
    codes := fun code => by
      rw [mem_uniqueReasonCodes, and_iff_right_iff_imp]
      rintro ⟨finding, hfinding, rfl⟩
      exact reasonCode_mem_order hfinding
    outOfScope_iff := iff_of_true rfl (mt uniqueReasonCodes_eq_nil.mpr hcodes)
    outOfScope := by
      refine fun _ => ⟨rfl, rfl, _, rfl, proposalFor_ne_empty _ _, fun entry hentry => ?_⟩
      have hcapabilities := capabilities_outOfScopeFindings engine goal
      have hwords : ∀ word ∈ (distinct ((outOfScopeFindings engine goal).filterMap
          QualificationFinding.capability)).map String.toList,
          ∀ c ∈ word, isSeparator c = false := by
        intro word hword
        rw [hcapabilities, List.mem_map] at hword
        obtain ⟨name, hname, rfl⟩ := hword
        exact deniedCapabilities_word _ (List.mem_map_of_mem (mem_distinct.mp hname))
      rw [mentions_proposalFor _ (capability_word entry hentry).1 hwords, hcapabilities,
        (nodup_distinct _).count]
      simp only [mem_distinct]
    needsClarification := nofun
    qualified := nofun }

theorem coherent_inScope (hfindings : outOfScopeFindings engine goal = []) :
    Coherent engine goal (evaluateGoalQualification engine goal) := by
  have hcodes := uniqueReasonCodes_eq_nil.mpr hfindings
  rw [outOfScopeFindings] at hcodes
  have hlast : ["GOAL_NEEDS_CLARIFICATION"].Sublist reasonCodeOrder := by decide
  unfold evaluateGoalQualification
  dsimp only
  rw [if_neg (not_not.mpr hcodes)]
  split
  · next question rest hquestions =>
      exact {
        nodup := List.nodup_singleton _
        ordered := hlast
        codes := fun code => by simp [eq_comm]
        outOfScope_iff := iff_of_false (fun h => by cases h) (not_not.mpr hfindings)
        outOfScope := fun h => by cases h
        needsClarification := fun _ => by
          refine ⟨rfl, ?_, ?_, ?_, ?_⟩
          · dsimp only
            rw [hquestions]
            exact Nat.succ_pos _
          · exact List.length_take_le _ _
          · dsimp only
            rw [List.map_take, map_id_numbered, List.length_take, ← List.map_take, List.take_range]
            simp [numbered]
          · dsimp only
            rw [List.map_take, map_code_numbered]
            exact (List.take_sublist _ _).nodup nodup_code_openQuestions
        qualified := fun h => by cases h }
  · exact {
      nodup := List.nodup_nil
      ordered := List.nil_sublist _
      codes := fun code => by simp
      outOfScope_iff := iff_of_false (fun h => by cases h) (not_not.mpr hfindings)
      outOfScope := fun h => by cases h
      needsClarification := fun h => by cases h
      qualified := fun _ => ⟨rfl, rfl, rfl, screenEstimate_le hfindings⟩ }

theorem coherent_evaluate (engine : RegExpEngine) (goal : StructuredGoalDto) :
    Coherent engine goal (evaluateGoalQualification engine goal) := by
  by_cases hfindings : outOfScopeFindings engine goal = []
  · exact coherent_inScope hfindings
  · exact coherent_outOfScope (mt uniqueReasonCodes_eq_nil.mp hfindings)

/-- The record of a qualification is coherent. A goal that was accepted is written with its
qualification without a constraint of the table being violated: whatever the identifiers of
the row, it meets all of them. -/
theorem qualification_coherent (engine : RegExpEngine) (goal : StructuredGoalDto) :
    Coherent engine goal (evaluateGoalQualification engine goal) ∧
    (∀ companyId initiativeId ids, (Initiatives.qualificationRow companyId initiativeId ids
      (evaluateGoalQualification engine goal)).check = true) ∧
    ∀ dto : CreateGoalDto, dto.isValid = true → dto.goal = goal →
      ∀ rt workflowVersion actor initiativeId expectedVersion idempotencyKey correlationId
        (w : World), w.db.ChecksHold →
        let call := Initiatives.createGoalAndRun
          ⟨rt, workflowVersion, evaluateGoalQualification engine⟩ actor initiativeId
          expectedVersion idempotencyKey correlationId dto
        (∀ row ∈ (call w).2.db.goalQualifications, row.check = true) ∧
          (call w).1 ≠ .error (.constraint "goal_qualifications_check") := by
  refine ⟨coherent_evaluate engine goal, fun companyId initiativeId ids => ?_,
    fun dto hvalid _ => ?_⟩
  · exact Initiatives.check_qualificationRow (qualificationCheck_evaluate engine goal) _ _ _
  · intro rt workflowVersion actor initiativeId expectedVersion idempotencyKey correlationId w hw
    have hkeeps := Initiatives.createGoalAndRun_keepsChecks hvalid rt workflowVersion engine actor
      initiativeId expectedVersion idempotencyKey correlationId
    refine ⟨(hkeeps.store w hw).goalQualifications, fun herror => ?_⟩
    exact hkeeps.error w _ hw herror (by decide)

def demoGoal : StructuredGoalDto where
  targetUser := js "Shop owner"
  problem := js "Orders get lost at times."
  desiredOutcome := js "Every order is done once."
  primaryFlow := js "Enter and close orders"
  mustHaves := [⟨js "MH-001", js "Open orders"⟩]
  nonGoals := []
  visualDirection := js "Plain"
  constraints := ⟨3, 1, true, js "mock_or_local"⟩
  referenceIds := []

def demoDto : CreateGoalDto := ⟨1, demoGoal, [], true⟩

theorem qualification_coherent_demo :
    (evaluateGoalQualification RequestBody.plainEngine demoGoal).screenEstimate ≤ 5 ∧
    (Initiatives.createGoalAndRun
      ⟨RequestBody.plainRuntime, "", evaluateGoalQualification RequestBody.plainEngine⟩
      RequestBody.founderCall.actor RequestBody.founderCall.initiativeId 1 0
      RequestBody.founderCall.correlationId demoDto RequestBody.founderWorld).1 ≠
        .error (.constraint "goal_qualifications_check") := by
  obtain ⟨hcoherent, -, hstored⟩ := qualification_coherent RequestBody.plainEngine demoGoal
  have hqualified : (evaluateGoalQualification RequestBody.plainEngine demoGoal).result =
      .qualified := by decide
  refine ⟨(hcoherent.qualified hqualified).2.2.2, ?_⟩
  exact (hstored demoDto (by decide) rfl RequestBody.plainRuntime "" _ _ 1 0 _ _
    RequestBody.founderWorld_checksHold).2

end GoalQualification

end Aico
