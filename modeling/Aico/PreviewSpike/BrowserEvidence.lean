import Aico.PreviewSpike.BrowserMediation

/-!
# The evidence of the adapter

Evidence that was reset lists the requests that have been answered since, in the order of
their answers. Each entry describes its request and its response, the entries are numbered,
and four of the totals are sums over them. The other three count what the callbacks were
asked and have allowed, also by requests that are not answered yet.
-/

namespace Aico

namespace BrowserHttp

/-- What an answer says of itself. -/
structure DispatchResult.Consistent (controls : ProofControls) (result : DispatchResult) :
    Prop where
  policy : CarriesPolicy result.policyProfile controls result.response.headers
  denied : result.decision = .deny ↔ result.response.status = 404
  bytes : result.generatedBytes =
    if result.policyProfile = .generatedV1 then result.response.body.length else 0

/-- The entries are numbered, and the totals are sums over them. -/
structure AdapterState.Tallied (s : AdapterState) : Prop where
  sequence : s.evidence.map BrowserHttpEvidenceEntry.sequence = List.range' 1 s.evidence.length
  requests : s.totals.requests = s.evidence.length
  allowed : s.totals.allowed = s.evidence.countP (·.decision = .allow)
  denied : s.totals.denied = s.evidence.countP (·.decision = .deny)
  generatedBytes : s.totals.generatedBytes =
    (s.evidence.map BrowserHttpEvidenceEntry.generatedBytes).sum

namespace DeterministicBrowserHttpAdapter

variable (a : DeterministicBrowserHttpAdapter)

/-- What an entry says of a request and of the response to it. -/
structure Describes (entry : BrowserHttpEvidenceEntry) (input : BrowserHttpRequest)
    (response : BrowserHttpResponse) : Prop where
  request : entry.requestClass = (a.normalized input).target.requestClass ∧
    entry.methodClass = methodClass (a.normalized input).method ∧
    entry.pathClass = (a.normalized input).target.pathClass
  context : entry.hostClass = a.hostClass (a.normalized input) ∧
    entry.originClass = a.originClass (a.normalized input) ∧
    entry.fetchSiteClass =
      classifyFetchSite (firstHeader (a.normalized input).headers (js "sec-fetch-site"))
  status : entry.status = response.status
  denied : entry.decision = .deny ↔ response.status = 404
  policy : CarriesPolicy entry.policyProfile a.controls response.headers
  digest : entry.policyHeaderDigest = policyHeaderDigest a.platform
    (policyHeaders entry.policyProfile a.controls) entry.policyProfile a.controls
  bytes : entry.generatedBytes =
    if entry.policyProfile = .generatedV1 then response.body.length else 0

/-- The entry describes a request that has been answered. -/
def Transcribes (entry : BrowserHttpEvidenceEntry)
    (e : EndedCall CallbackAnswer AdapterStop AdapterError BrowserHttpResponse
      BrowserHttpRequest) : Prop :=
  ∃ response, e.result = .ok response ∧ a.Describes entry e.tag response

variable {a} {request : NormalizedRequest}

/-! ## One entry -/

theorem consistent_unavailable (reasonClass : JsString) (profile : PolicyProfile) :
    (a.unavailable reasonClass profile).Consistent a.controls where
  policy := carriesPolicy_assign profile a.controls (by decide)
  denied := iff_of_true rfl rfl
  bytes := (ite_self 0).symm

/-- A response with a body that is left out of the answer to a `HEAD`. -/
theorem carriesPolicy_response (status : ℕ) (profile : PolicyProfile) (mediaType : JsString)
    (body : Bytes) (head : Bool) (controls : ProofControls) :
    CarriesPolicy profile controls
      (response status profile mediaType body head controls).headers := by
  apply carriesPolicy_assign
  simp [addedNames]

theorem consistent_generated (mediaType : JsString) (body : Bytes) (reasonClass : JsString) :
    (a.generated request mediaType body reasonClass).Consistent a.controls where
  policy := carriesPolicy_response 200 .generatedV1 mediaType body _ a.controls
  denied := iff_of_false (by simp [generated]) (by simp [generated, response])
  bytes := by
    by_cases h : request.method = js "HEAD" <;> simp [generated, response, h]

theorem consistent_bootstrap : (a.bootstrap request).Consistent a.controls := by
  unfold bootstrap
  split_ifs
  · exact consistent_unavailable _ _
  · exact consistent_unavailable _ _
  · exact
      { policy := carriesPolicy_response 200 .bootstrapV1 _ _ _ a.controls
        denied := iff_of_false (by simp) (by simp [response])
        bytes := rfl }

theorem consistent_exchanged (decision : BrowserExchangeDecision) :
    (a.exchanged decision).Consistent a.controls := by
  unfold exchanged
  split
  · exact consistent_unavailable _ _
  · split
    · exact consistent_unavailable _ _
    · split
      · exact consistent_unavailable _ _
      · split_ifs
        · exact consistent_unavailable _ _
        · exact consistent_unavailable _ _
        · exact
            { policy := carriesPolicy_assign .bootstrapV1 a.controls (by simp [addedNames])
              denied := iff_of_false (by simp) (by simp)
              bytes := rfl }

theorem consistent_served (asset : Option HostileFixtureAsset) :
    (a.served request asset).Consistent a.controls := by
  unfold served
  split
  · exact consistent_unavailable _ _
  · split_ifs
    · exact consistent_unavailable _ _
    · exact consistent_generated _ _ _

theorem consistent_of_answers {dialogue : Dialogue} {result : DispatchResult}
    (h : a.Answers request dialogue result) : result.Consistent a.controls := by
  cases h with
  | denied _ reasonClass profile => exact consistent_unavailable reasonClass profile
  | page host target => exact consistent_bootstrap
  | redirect offers decision => exact consistent_exchanged decision
  | content path sessionPresentation presents => exact consistent_served _
  | unchecked off path => exact consistent_served _
  | unsafeRequest off asset => exact consistent_generated _ _ _
  | worker off => exact consistent_generated _ _ _
  | reserved off =>
      exact
        { policy := carriesPolicy_assign .generatedV1 a.controls (by decide)
          denied := iff_of_false (by simp [weakenedReservedRoute]) (by simp [weakenedReservedRoute])
          bytes := rfl }

theorem describes_evidenceEntry {input : BrowserHttpRequest} {result : DispatchResult}
    (h : result.Consistent a.controls) (before : MutableTotals) (s : AdapterState) :
    a.Describes (a.evidenceEntry (a.normalized input) before result s) input result.response where
  request := ⟨rfl, rfl, rfl⟩
  context := ⟨rfl, rfl, rfl⟩
  status := rfl
  denied := h.denied
  policy := h.policy
  digest := h.policy.policyHeaderDigest_eq a.platform
  bytes := h.bytes

/-! ## The totals -/

theorem tallied_initial : AdapterState.initial.Tallied where
  sequence := rfl
  requests := rfl
  allowed := rfl
  denied := rfl
  generatedBytes := rfl

theorem tallied_recorded {s : AdapterState} (h : s.Tallied) (before : MutableTotals)
    (result : DispatchResult) : (a.recorded request before result s).Tallied where
  sequence := by
    simp [recorded, evidenceEntry, h.sequence, List.range'_concat, Nat.add_comm]
  requests := by simp [recorded, counted, h.requests]
  allowed := by
    cases hdecision : result.decision <;>
      simp [recorded, counted, evidenceEntry, h.allowed, hdecision]
  denied := by
    cases hdecision : result.decision <;>
      simp [recorded, counted, evidenceEntry, h.denied, hdecision]
  generatedBytes := by simp [recorded, counted, evidenceEntry, h.generatedBytes]

theorem tallied_counts {s : AdapterState} (h : s.Tallied)
    (authorizationCalls exchangeCalls objectReads : ℕ) :
    AdapterState.Tallied
      { s with
        totals := { s.totals with
          authorizationCalls := authorizationCalls
          exchangeCalls := exchangeCalls
          objectReads := objectReads } } where
  sequence := h.sequence
  requests := h.requests
  allowed := h.allowed
  denied := h.denied
  generatedBytes := h.generatedBytes

theorem evidence_of_stops {told : Dialogue} {s₀ s : AdapterState} {stop : AdapterStop}
    (h : a.Stops request told s₀ stop s) : s.evidence = s₀.evidence ∧ (s₀.Tallied → s.Tallied) := by
  cases stop with
  | authorizing input =>
      obtain ⟨⟨-, rfl⟩, -⟩ := h
      exact ⟨rfl, fun htallied => tallied_counts htallied _ _ _⟩
  | exchanging input =>
      obtain ⟨⟨-, rfl⟩, -⟩ := h
      exact ⟨rfl, fun htallied => tallied_counts htallied _ _ _⟩
  | dispatched =>
      obtain ⟨reads, rfl, -⟩ := h
      exact ⟨rfl, fun htallied => tallied_counts htallied _ _ _⟩

/-! ## Since a reset -/

variable (a)

def TranscribedSince
    (earlier : List (EndedCall CallbackAnswer AdapterStop AdapterError BrowserHttpResponse
      BrowserHttpRequest)) (s : AdapterState)
    (ended : List (EndedCall CallbackAnswer AdapterStop AdapterError BrowserHttpResponse
      BrowserHttpRequest)) : Prop :=
  s.Tallied ∧ ∃ answered, ended = earlier ++ answered ∧
    List.Forall₂ a.Transcribes s.evidence answered

variable {a}

/-- An answer is transcribed when it is recorded, and nothing else touches the evidence. -/
theorem records_transcribed
    (earlier : List (EndedCall CallbackAnswer AdapterStop AdapterError BrowserHttpResponse
      BrowserHttpRequest)) :
    Calls.Records (fun input => a.Stops (a.normalized input)) a.Handled (a.TranscribedSince earlier) where
  stops _ told s₀ stop s ended hstops h := by
    obtain ⟨htallied, answered, hended, htranscribes⟩ := h
    obtain ⟨hevidence, hkept⟩ := evidence_of_stops hstops
    exact ⟨hkept htallied, answered, hended, hevidence ▸ htranscribes⟩
  ends input told s₀ r s ended hhandled h := by
    obtain ⟨htallied, answered, rfl, htranscribes⟩ := h
    obtain ⟨dialogue, result, before, rfl, rfl, hanswers, rfl⟩ := hhandled
    refine ⟨tallied_recorded htallied before result, answered ++ [_],
      List.append_assoc _ _ _, List.rel_append htranscribes (.cons ?_ .nil)⟩
    exact ⟨result.response, rfl, describes_evidenceEntry (consistent_of_answers hanswers) _ _⟩

/-- What a reset establishes and every other step keeps. -/
theorem since_reset {P : BrowserSystem → Prop} {earlier later : List BrowserAction}
    (hP : ∀ s action, a.Holds s → P s → action ≠ .resetEvidence → P (a.step s action))
    (hreset : P ((a.after earlier).update resetEvidence)) (hlater : .resetEvidence ∉ later) :
    P (a.after (earlier ++ .resetEvidence :: later)) := by
  have hholds : a.Holds ((a.after earlier).update resetEvidence) :=
    (holds_after earlier).update resetEvidence
  have heach : Transition.EachStep a.step (fun _ action => action ≠ .resetEvidence)
      ((a.after earlier).update resetEvidence) later :=
    Transition.eachStep_of_forall (fun action haction _ => ne_of_mem_of_not_mem haction hlater) _
  have hrun := Transition.run_invariant_of_eachStep (P := fun s => a.Holds s ∧ P s)
    (fun s action hs hne => ⟨holds_step hs.1 action, hP s action hs.1 hs.2 hne⟩)
    ⟨hholds, hreset⟩ heach
  unfold after at hrun ⊢
  rw [Transition.run_append]
  exact hrun.2

/-- Since a reset, the evidence is one entry for each request that has been answered, in
order. Requests that were started before are among them, whoever they interleave with. -/
theorem evidence_after (earlier later : List BrowserAction)
    (hlater : .resetEvidence ∉ later) :
    (a.after (earlier ++ .resetEvidence :: later)).store.Tallied ∧
      ∃ answered, (a.after (earlier ++ .resetEvidence :: later)).ended =
          (a.after earlier).ended ++ answered ∧
        List.Forall₂ a.Transcribes (a.after (earlier ++ .resetEvidence :: later)).store.evidence
          answered := by
  refine since_reset
    (P := fun s => a.TranscribedSince (a.after earlier).ended s.store s.ended)
    (fun s action hs h hne => ?_) ⟨tallied_initial, [], (List.append_nil _).symm, .nil⟩ hlater
  have hstep := step_steps (a := a) s action
  generalize a.step s action = s' at hstep ⊢
  cases hstep with
  | handle input => exact (records_transcribed _).start (handle_tells input) h
  | answer n answer fits => exact (records_transcribed _).answer hs fits h
  | ignored n answer => exact h
  | resetEvidence => exact absurd rfl hne

/-! ## Callbacks and objects -/

theorem due_callPrices (told : Dialogue) : callPrices.due told = 0 := by
  unfold Calls.Prices.due
  cases told.getLast? <;> rfl

theorem balanced_calls :
    Calls.Balanced callPrices (fun s : AdapterState =>
        (s.totals.authorizationCalls, s.totals.exchangeCalls))
      (fun input => a.Stops (a.normalized input)) a.Handled where
  stops _ told s₀ stop s hstops := by
    rw [due_callPrices, zero_add]
    cases stop with
    | authorizing input =>
        obtain ⟨⟨-, rfl⟩, -⟩ := hstops
        rfl
    | exchanging input =>
        obtain ⟨⟨-, rfl⟩, -⟩ := hstops
        rfl
    | dispatched =>
        obtain ⟨reads, rfl, -⟩ := hstops
        rfl
  ends input told s₀ r s hhandled := by
    obtain ⟨dialogue, result, before, -, -, -, rfl⟩ := hhandled
    rw [due_callPrices]
    rfl

theorem balanced_reads (hcookie : a.controls.cookieIsolation = true)
    (hmethod : a.controls.methodPathAndReferrerSafety = true) :
    Calls.Balanced readPrices (fun s : AdapterState => s.totals.objectReads)
      (fun input => a.Stops (a.normalized input)) a.Handled where
  stops _ told s₀ stop s hstops := by
    cases stop with
    | authorizing input =>
        obtain ⟨⟨rfl, rfl⟩, -⟩ := hstops
        rfl
    | exchanging input =>
        obtain ⟨⟨rfl, rfl⟩, -⟩ := hstops
        rfl
    | dispatched =>
        obtain ⟨reads, rfl, hreads⟩ := hstops
        exact congrArg (s₀.totals.objectReads + ·) (hreads hcookie hmethod)
  ends input told s₀ r s hhandled := by
    obtain ⟨dialogue, result, before, rfl, -, -, rfl⟩ := hhandled
    simp [Calls.Prices.due, readPrices, recorded, counted]

theorem spent_since {M : Type} [AddCommMonoid M] {prices : Calls.Prices CallbackAnswer AdapterStop M}
    {balance : AdapterState → M}
    (hprices : Calls.Balanced prices balance (fun input => a.Stops (a.normalized input)) a.Handled)
    (hinitial : balance .initial = 0) (earlier : List BrowserAction) {later : List BrowserAction}
    (hlater : .resetEvidence ∉ later) :
    (a.after (earlier ++ .resetEvidence :: later)).spent prices = (a.after earlier).spent prices +
      balance (a.after (earlier ++ .resetEvidence :: later)).store := by
  refine since_reset
    (P := fun s => s.spent prices = (a.after earlier).spent prices + balance s.store)
    (fun s action hs h hne => ?_) ?_ hlater
  · have hstep := step_steps (a := a) s action
    generalize a.step s action = s' at hstep ⊢
    cases hstep with
    | handle input => exact hprices.start (handle_tells input) h
    | answer n answer fits => exact hprices.answer hs fits h
    | ignored n answer => exact h
    | resetEvidence => exact absurd rfl hne
  · change (a.after earlier).spent prices = (a.after earlier).spent prices + balance .initial
    rw [hinitial, add_zero]

/-- Since a reset, each callback was asked as often as the totals say, by requests that have
been answered or not. With both controls, one object was read for each authorization that
was allowed, and for nothing else. -/
theorem callbacks_after (earlier later : List BrowserAction)
    (hlater : .resetEvidence ∉ later) :
    (a.after (earlier ++ .resetEvidence :: later)).spent callPrices =
        (a.after earlier).spent callPrices +
          ((a.after (earlier ++ .resetEvidence :: later)).store.totals.authorizationCalls,
            (a.after (earlier ++ .resetEvidence :: later)).store.totals.exchangeCalls) ∧
      (a.controls.cookieIsolation = true → a.controls.methodPathAndReferrerSafety = true →
        (a.after (earlier ++ .resetEvidence :: later)).spent readPrices =
          (a.after earlier).spent readPrices +
            (a.after (earlier ++ .resetEvidence :: later)).store.totals.objectReads) :=
  ⟨spent_since balanced_calls rfl earlier hlater, fun hcookie hmethod =>
    spent_since (balanced_reads hcookie hmethod) rfl earlier hlater⟩

end DeterministicBrowserHttpAdapter

namespace BrowserDemo

def asks : BrowserHttpRequest :=
  get (js "/index.html") host [js "__Host-aico_preview=session"]

/-- A request that is still being authorized when the evidence is reset. -/
def opened : List BrowserAction := [.handle asks]

/-- The callback allows that request and one that comes after it, and denies a third. -/
def closed : List BrowserAction :=
  [.handle asks, .answer 0 (.authorization .allowed), .answer 0 (.authorization .allowed),
    .handle asks, .answer 2 (.authorization (.denied (js "NOT_ALLOWED"))),
    .answer 0 .resumed, .answer 0 .resumed, .answer 0 .resumed]

theorem evidence_after_demo :
    ∃ answered, ((adapter defaultProofControls).after (opened ++ .resetEvidence :: closed)).ended =
        ((adapter defaultProofControls).after opened).ended ++ answered ∧
      List.Forall₂ (adapter defaultProofControls).Transcribes
        ((adapter defaultProofControls).after (opened ++ .resetEvidence :: closed)).store.evidence
        answered :=
  (DeterministicBrowserHttpAdapter.evidence_after opened closed (by simp [closed])).2

/-- Since the reset two requests were asked about, and two objects were read. -/
theorem callbacks_after_demo :
    let before := (adapter defaultProofControls).after opened
    let s := (adapter defaultProofControls).after (opened ++ .resetEvidence :: closed)
    s.ended.length = 3 ∧ s.store.totals.authorizationCalls = 2 ∧
      s.store.totals.objectReads = 2 ∧ s.spent callPrices = before.spent callPrices + (2, 0) ∧
      s.spent readPrices = before.spent readPrices + 2 := by
  intro before s
  have hcalls : s.ended.length = 3 ∧ s.store.totals.authorizationCalls = 2 ∧
      s.store.totals.exchangeCalls = 0 ∧ s.store.totals.objectReads = 2 := by
    decide +kernel
  obtain ⟨hasked, hread⟩ := DeterministicBrowserHttpAdapter.callbacks_after
    (a := adapter defaultProofControls) opened closed (by simp [closed])
  obtain ⟨hended, hauthorizations, hexchanges, hreads⟩ := hcalls
  refine ⟨hended, hauthorizations, hreads, ?_, ?_⟩
  · rw [hasked, hauthorizations, hexchanges]
  · rw [hread rfl rfl, hreads]

end BrowserDemo

end BrowserHttp

end Aico
