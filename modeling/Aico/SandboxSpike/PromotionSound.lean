import Aico.Common.Identifiers
import Aico.Foundation.Outcome
import Aico.SandboxSpike.StartsOnce

/-!
# What a promotion rests on

A promotion is counted for a clean success whose output passes its check. The check reads the
files and their digest, but it takes the total of the bytes from the adapter, and it is left
out where there is no output. The writable paths of a request are held against the letters of
the two directories, not against the directories.
-/

namespace Aico

namespace JsReal

/-- `a + b`, exact for the finite numbers. -/
def add : JsReal → JsReal → JsReal
  | finite a, finite b => finite (a + b)
  | nan, _ | _, nan | infinity, negInfinity | negInfinity, infinity => nan
  | infinity, _ | _, infinity => infinity
  | negInfinity, _ | _, negInfinity => negInfinity

/-- `a <= b`, which no `NaN` meets. -/
def le : JsReal → JsReal → Bool
  | finite a, finite b => a ≤ b
  | nan, _ | _, nan => false
  | negInfinity, _ | _, infinity => true
  | _, _ => false

/-- A limit that is a number is kept where it is not passed. -/
theorem le_of_not_gt {q : ℚ} {b : JsReal} (hb : b.isFinite = true)
    (h : ¬ (finite q).gt b = true) : (finite q).le b = true := by
  cases b with
  | finite b => simpa [gt, le] using h
  | infinity | negInfinity | nan => cases hb

end JsReal

namespace SandboxProof

/-- A relative path of at most 240 units, in which every segment is a name. -/
structure IsSafePath (path : JsString) : Prop where
  short : path.length ≤ 240
  noBackslash : 0x5C ∉ path
  visible : path.head? ≠ some 0x2E
  names : ∀ segment ∈ path.splitOn 0x2F,
    segment ≠ [] ∧ segment ≠ js "." ∧ segment ≠ js ".."

/-- The empty path, a leading slash and a double slash leave an empty segment. -/
theorem isSafeRelativePath_iff {path : JsString} :
    isSafeRelativePath path = true ↔ IsSafePath path := by
  have hchecks : isSafeRelativePath path = true ↔ path ≠ [] ∧ path.length ≤ 240 ∧
      0x5C ∉ path ∧ path.head? ≠ some 0x2F ∧ path.head? ≠ some 0x2E ∧ ¬ js "//" <:+: path ∧
      ∀ segment ∈ path.splitOn 0x2F, segment ≠ [] ∧ segment ≠ js "." ∧ segment ≠ js ".." := by
    simp [isSafeRelativePath, and_assoc]
  rw [hchecks]
  constructor
  · rintro ⟨-, hshort, hbackslash, -, hvisible, -, hnames⟩
    exact ⟨hshort, hbackslash, hvisible, hnames⟩
  · intro h
    have hfull : [] ∉ path.splitOn 0x2F := fun hmem => (h.names [] hmem).1 rfl
    have hnonempty : path ≠ [] := by
      rintro rfl
      exact hfull List.mem_cons_self
    have hleading : path.head? ≠ some 0x2F := by
      intro hhead
      obtain ⟨rest, rfl⟩ := List.head?_eq_some_iff.mp hhead
      refine hfull ?_
      rw [← List.nil_append (0x2F :: rest), List.splitOn_append_cons_self]
      exact List.mem_append_left _ List.mem_cons_self
    have hdouble : ¬ js "//" <:+: path := by
      rintro ⟨before, after, rfl⟩
      have hslashes : before ++ js "//" ++ after = before ++ 0x2F :: ([] ++ 0x2F :: after) := by
        rw [List.append_assoc]
        rfl
      refine hfull ?_
      rw [hslashes, List.splitOn_append_cons_self, List.splitOn_append_cons_self]
      exact List.mem_append_right _ (List.mem_append_left _ List.mem_cons_self)
    exact ⟨hnonempty, h.short, h.noBackslash, hleading, h.visible, hdouble, h.names⟩

def byteSum (files : List OutputFileEvidence) : JsReal :=
  files.foldl (fun n file => n.add file.bytes) (.ofNat 0)

structure IsEvidence (pf : Platform) (policy : OutputPolicy) (output : OutputEvidence) :
    Prop where
  files : ∀ file ∈ output.files, file.kind = .regular ∧ IsSafePath file.path ∧
    js "dist/" <+: file.path ∧ file.mediaType ∈ policy.mediaTypes
  count : (JsReal.ofNat output.files.length).le policy.maximumFiles = true
  bytes : (byteSum output.files).le policy.maximumBytes = true
  digest : output.aggregateDigest = pf.filesDigest output.files

def HasEvidence (pf : Platform) (request : SandboxProofRequest)
    (answer : SandboxAdapterReceipt) : Prop :=
  ∃ output, answer.output = some output ∧ IsEvidence pf request.outputPolicy output

def writableRoots : List JsString := [js "src", js "dist"]

/-- The path is one of the directories, or a safe path inside of one. -/
def IsWritable (path : JsString) : Prop :=
  ∃ root ∈ writableRoots, path = root ∨ root ++ js "/" <+: path ∧ IsSafePath path

/-- The path begins with the letters of a directory and is not below it. -/
def IsLookalike (path : JsString) : Prop :=
  ∃ root ∈ writableRoots, root <+: path ∧ path ≠ root ∧ ¬ root ++ js "/" <+: path

namespace SandboxProofService

theorem denyIf_eq_ok {c : Prop} [Decidable c] {reason : SandboxReason} {u : Unit} :
    denyIf c reason = .ok u ↔ ¬ c := by
  unfold denyIf
  split
  · next hc => exact iff_of_false nofun (not_not.mpr hc)
  · next hc => exact iff_of_true rfl hc

variable {pf : Platform} {now : ℤ} {request : SandboxProofRequest}

theorem admitted (h : assertAdmitted pf now request = .ok ()) :
    assertFilesystemBoundary request = .ok () ∧ assertOutputPolicy request = .ok () := by
  obtain ⟨⟨⟩, -, h⟩ := Except.exists_of_bind_eq_ok h
  obtain ⟨⟨⟩, -, h⟩ := Except.exists_of_bind_eq_ok h
  obtain ⟨⟨⟩, -, h⟩ := Except.exists_of_bind_eq_ok h
  obtain ⟨⟨⟩, hpaths, h⟩ := Except.exists_of_bind_eq_ok h
  obtain ⟨⟨⟩, -, h⟩ := Except.exists_of_bind_eq_ok h
  obtain ⟨⟨⟩, -, h⟩ := Except.exists_of_bind_eq_ok h
  obtain ⟨⟨⟩, -, h⟩ := Except.exists_of_bind_eq_ok h
  obtain ⟨⟨⟩, -, hpolicy⟩ := Except.exists_of_bind_eq_ok h
  exact ⟨hpaths, hpolicy⟩

theorem writablePaths_of_boundary (h : assertFilesystemBoundary request = .ok ())
    {path : JsString} (hpath : path ∈ request.writablePaths) :
    IsSafePath path ∧ ∃ root ∈ writableRoots, root <+: path := by
  obtain ⟨hsafe, hroot⟩ := not_or.mp (denyIf_eq_ok.mp h)
  rw [Bool.not_eq_true, List.any_eq_false] at hsafe hroot
  have hmem : path ∈ request.inputPaths ++ request.writablePaths ++ [request.workingDirectory] :=
    List.mem_append_left _ (List.mem_append_right _ hpath)
  refine ⟨isSafeRelativePath_iff.mp (by simpa using hsafe path hmem), ?_⟩
  have hletters : ¬ js "src" <+: path → js "dist" <+: path := by simpa using hroot path hpath
  by_cases hsrc : js "src" <+: path
  · exact ⟨js "src", List.mem_cons_self, hsrc⟩
  · exact ⟨js "dist", List.mem_cons_of_mem _ List.mem_cons_self, hletters hsrc⟩

theorem maximumFiles_of_policy (h : assertOutputPolicy request = .ok ()) :
    request.outputPolicy.maximumFiles.isFinite = true := by
  have hpassed := denyIf_eq_ok.mp h
  rw [not_or, not_or] at hpassed
  exact (Bool.and_eq_true_iff.mp (not_not.mp hpassed.2.1)).1

/-- What the check of an output looks at. -/
theorem assertOutputIntegrity_eq_ok {output : OutputEvidence} :
    assertOutputIntegrity pf request output = .ok () ↔
      (∀ file ∈ output.files, file.kind = .regular ∧ IsSafePath file.path ∧
        js "dist/" <+: file.path ∧ file.mediaType ∈ request.outputPolicy.mediaTypes) ∧
      ¬ (JsReal.ofNat output.files.length).gt request.outputPolicy.maximumFiles = true ∧
      ¬ output.totalBytes.gt request.outputPolicy.maximumBytes = true ∧
      output.aggregateDigest = pf.filesDigest output.files := by
  unfold assertOutputIntegrity
  rw [denyIf_eq_ok, not_or, not_or, not_or, not_not]
  refine and_congr_left' ?_
  simp [and_assoc, isSafeRelativePath_iff]

/-- A promotion is counted for a clean success with an output that passes, or without one. -/
def IsPromoted (pf : Platform) (request : SandboxProofRequest) (answer : SandboxAdapterReceipt) :
    Prop :=
  (outcome pf request answer).1 = .succeeded ∧ answer.cleanupComplete = true

theorem isPromoted_iff {answer : SandboxAdapterReceipt} : IsPromoted pf request answer ↔
    answer.result = .succeeded ∧ answer.cleanupComplete = true ∧
      ∀ output ∈ answer.output, assertOutputIntegrity pf request output = .ok () := by
  unfold IsPromoted outcome
  rcases answer.output with _ | output
  · simp
  · rcases hcheck : assertOutputIntegrity pf request output with reason | ⟨⟩
    · simp [hcheck]
    · simp [hcheck]

/-- A clean success comes with an output, whose bytes are within the limit where the check
passes it. -/
def AnswersSoundly (pf : Platform) (request : SandboxProofRequest)
    (answer : SandboxAdapterReceipt) : Prop :=
  answer.result = .succeeded → answer.cleanupComplete = true →
    ∃ output, answer.output = some output ∧
      (assertOutputIntegrity pf request output = .ok () →
        (byteSum output.files).le request.outputPolicy.maximumBytes = true)

variable (pf) in
theorem hasEvidence_iff (answer : SandboxAdapterReceipt)
    (hfinite : request.outputPolicy.maximumFiles.isFinite = true) :
    (IsPromoted pf request answer → HasEvidence pf request answer) ↔
      AnswersSoundly pf request answer := by
  rw [isPromoted_iff]
  constructor
  · intro hevidence hresult hclean
    cases houtput : answer.output with
    | none =>
        obtain ⟨output, hsome, -⟩ := hevidence ⟨hresult, hclean, by simp [houtput]⟩
        simp [houtput] at hsome
    | some output =>
        refine ⟨output, rfl, fun hcheck => ?_⟩
        obtain ⟨output', hsome, hevidence⟩ := hevidence ⟨hresult, hclean, by simpa [houtput]⟩
        obtain rfl := Option.some.inj (houtput.symm.trans hsome)
        exact hevidence.bytes
  · rintro hsound ⟨hresult, hclean, hcheck⟩
    obtain ⟨output, houtput, hbytes⟩ := hsound hresult hclean
    have hpassed := hcheck output houtput
    obtain ⟨hfiles, hcount, -, hdigest⟩ := assertOutputIntegrity_eq_ok.mp hpassed
    exact ⟨output, houtput, hfiles, JsReal.le_of_not_gt hfinite hcount, hbytes hpassed, hdigest⟩

/-- Among the paths of an admitted request the writable ones are those that are no lookalikes. -/
theorem isWritable_iff (h : assertAdmitted pf now request = .ok ()) {path : JsString}
    (hpath : path ∈ request.writablePaths) : IsWritable path ↔ ¬ IsLookalike path := by
  obtain ⟨hsafe, root, hroot, hletters⟩ := writablePaths_of_boundary (admitted h).1 hpath
  constructor
  · rintro ⟨below, hbelow, hinside⟩ ⟨other, hother, hprefix, hne, houtside⟩
    have hstarts : below <+: path := by
      rcases hinside with rfl | ⟨hinside, -⟩
      · exact List.prefix_rfl
      · exact (List.prefix_append _ _).trans hinside
    -- no path begins with the letters of both
    have hsame : below = other := by
      have hfirst := List.prefix_or_prefix_of_prefix hstarts hprefix
      revert hfirst
      simp only [writableRoots, List.mem_cons, List.not_mem_nil, or_false] at hbelow hother
      rcases hbelow with rfl | rfl <;> rcases hother with rfl | rfl <;> decide
    subst hsame
    rcases hinside with heq | ⟨hinside, -⟩
    · exact hne heq
    · exact houtside hinside
  · intro hlookalike
    by_contra hnot
    refine hlookalike ⟨root, hroot, hletters, fun heq => ?_, fun hinside => ?_⟩
    · exact hnot ⟨root, hroot, .inl heq⟩
    · exact hnot ⟨root, hroot, .inr ⟨hinside, hsafe⟩⟩

end SandboxProofService

open SandboxProofService

namespace Sandbox

variable {pf : Platform} {s : Sandbox}

/-- A promotion that the action counts rests on evidence, and a request that it hands to the
adapter writes below the directories only. -/
structure SoundStep (pf : Platform) (s : Sandbox) (act : SandboxAction) : Prop where
  promotion : (s.step pf act).service.ledger.promotions ≠ s.service.ledger.promotions →
    ∃ k answer receiptId frame, act = .answered k answer receiptId ∧
      s.calls k = some frame ∧ HasEvidence pf frame.request answer
  adapter : ∀ request, (s.step pf act).adapterCalls = request :: s.adapterCalls →
    ∀ path ∈ request.writablePaths, IsWritable path

/-- The calls that wait are of requests with a limit for the number of files. -/
def Limited (s : Sandbox) : Prop :=
  ∀ k frame, s.calls k = some frame →
    frame.request.outputPolicy.maximumFiles.isFinite = true

theorem cons_ne_self {α : Type} (a : α) (l : List α) : l ≠ a :: l := by
  intro h
  have hlength := congrArg List.length h
  simp at hlength

/-- The request comes to the adapter. -/
structure Reaches (pf : Platform) (s : Sandbox) (k : ℕ) (request : SandboxProofRequest) : Prop where
  free : s.calls k = none
  fresh : s.service.receipts.get request.logicalIdempotencyKey = none
  admitted : assertAdmitted pf s.now request = .ok ()

/-- A request that is handed to the adapter has no lookalike among its writable paths, and an
answer to it is sound. -/
def StaysSound (pf : Platform) (s : Sandbox) : SandboxAction → Prop
  | .execute k request _ =>
      s.Reaches pf k request → ∀ path ∈ request.writablePaths, ¬ IsLookalike path
  | .answered k answer _ => ∀ frame, s.calls k = some frame → AnswersSoundly pf frame.request answer
  | _ => True

variable (pf) in
/-- What becomes of an execution. -/
theorem step_execute (s : Sandbox) (k : ℕ) (request : SandboxProofRequest)
    (receiptId : JsString) :
    let s' := s.step pf (.execute k request receiptId)
    s'.service.ledger.promotions = s.service.ledger.promotions ∧
      (¬ s.Reaches pf k request ∧ s'.calls = s.calls ∧ s'.adapterCalls = s.adapterCalls ∨
        s.Reaches pf k request ∧ s'.adapterCalls = request :: s.adapterCalls ∧
          s'.calls = Function.update s.calls k (some ⟨request, requestDigest pf request⟩)) := by
  intro s'
  by_cases hfree : s.calls k = none
  swap
  · have hstep : s' = s := by
      simp only [s', step]
      split
      · next hnone => exact absurd hnone hfree
      · rfl
    rw [hstep]
    exact ⟨rfl, .inl ⟨fun h => hfree h.free, rfl, rfl⟩⟩
  have hstep : s' = s.startExecute pf k request receiptId := by
    simp only [s', step, hfree]
  rw [hstep]
  rcases hget : s.service.receipts.get request.logicalIdempotencyKey with _ | stored
  swap
  · have hkept : s.startExecute pf k request receiptId = s := by
      unfold startExecute
      rw [execute_of_stored hget]
      split
      · next heq =>
          unfold replay at heq
          split at heq <;> cases heq
      · next heq =>
          cases heq
          rfl
    rw [hkept]
    exact ⟨rfl, .inl ⟨fun h => absurd (hget.symm.trans h.fresh) (by simp), rfl, rfl⟩⟩
  have hread : (Prog.gets fun s => s.receipts.get request.logicalIdempotencyKey :
      ServiceProg _) s.service = (.ok none, s.service) := by
    rw [Prog.gets, hget]
  unfold startExecute SandboxProofService.execute
  rw [Prog.bind_of_ok hread]
  dsimp only
  rcases hadmitted : assertAdmitted pf s.now request with reason | ⟨⟩
  · exact ⟨rfl, .inl ⟨fun h => absurd (hadmitted.symm.trans h.admitted) (by simp), rfl, rfl⟩⟩
  · exact ⟨rfl, .inr ⟨⟨hfree, hget, hadmitted⟩, rfl, rfl⟩⟩

variable (pf) in
theorem step_answered {k : ℕ} {frame : SandboxFrame} (hcall : s.calls k = some frame)
    (answer : SandboxAdapterReceipt) (receiptId : JsString) :
    (s.step pf (.answered k answer receiptId)).service.ledger.promotions ≠
      s.service.ledger.promotions ↔ IsPromoted pf frame.request answer := by
  have hcount : (s.step pf (.answered k answer receiptId)).service.ledger.promotions =
      s.service.ledger.promotions +
        if (outcome pf frame.request answer).1 = .succeeded ∧ answer.cleanupComplete
        then 1 else 0 := by
    simp only [step, hcall]
    rfl
  rw [hcount, IsPromoted]
  split
  · next hpromoted => exact iff_of_true (by omega) hpromoted
  · next hother => exact iff_of_false (by omega) hother

theorem limited_step (h : s.Limited) (act : SandboxAction) : (s.step pf act).Limited := by
  cases act with
  | execute k request receiptId =>
      obtain ⟨-, ⟨-, hcalls, -⟩ | ⟨hreaches, -, hcalls⟩⟩ :=
        step_execute pf s k request receiptId
      · rw [Limited, hcalls]
        exact h
      · intro k' frame hk'
        rw [hcalls, Function.update_apply] at hk'
        split at hk'
        · obtain rfl := Option.some.inj hk'
          exact maximumFiles_of_policy (admitted hreaches.admitted).2
        · exact h k' frame hk'
  | answered k answer receiptId =>
      rw [step]
      split
      · exact fun k' frame hk' => h k' frame (calls_of_ended hk').2
      · exact h
  | failed k => exact fun k' frame hk' => h k' frame (calls_of_ended hk').2
  | wait duration => exact h

theorem limited_initial (receipts : List (JsString × StoredReceipt)) (now : ℤ) :
    (initial receipts now).Limited := fun _ _ hk => by cases hk

theorem limited_run (h : s.Limited) (acts : List SandboxAction) : (s.after pf acts).Limited :=
  Transition.run_invariant (P := Limited) (fun _ act hs => limited_step hs act) h acts

theorem SoundStep.of_kept {act : SandboxAction}
    (hpromotions : (s.step pf act).service.ledger.promotions = s.service.ledger.promotions)
    (hadapter : (s.step pf act).adapterCalls = s.adapterCalls) : SoundStep pf s act where
  promotion hne := absurd hpromotions hne
  adapter _ hcons := absurd (hadapter.symm.trans hcons) (cons_ne_self _ _)

theorem soundStep_iff (h : s.Limited) (act : SandboxAction) :
    SoundStep pf s act ↔ StaysSound pf s act := by
  cases act with
  | failed k | wait duration => exact iff_of_true (.of_kept rfl rfl) trivial
  | execute k request receiptId =>
      obtain ⟨hpromotions, ⟨hother, -, hadapter⟩ | ⟨hreaches, hadapter, -⟩⟩ :=
        step_execute pf s k request receiptId
      · refine iff_of_true (.of_kept hpromotions hadapter) ?_
        exact fun hreaches => absurd hreaches hother
      · constructor
        · intro hsound _ path hpath
          exact (isWritable_iff hreaches.admitted hpath).mp
            (hsound.adapter request hadapter path hpath)
        · intro hstays
          refine ⟨fun hne => absurd hpromotions hne, fun request' hcons path hpath => ?_⟩
          obtain rfl : request = request' := (List.cons.inj (hadapter.symm.trans hcons)).1
          exact (isWritable_iff hreaches.admitted hpath).mpr (hstays hreaches path hpath)
  | answered k answer receiptId =>
      have hadapter : (s.step pf (.answered k answer receiptId)).adapterCalls =
          s.adapterCalls := by
        rw [step]
        split <;> rfl
      cases hcall : s.calls k with
      | none =>
          have hkept : s.step pf (.answered k answer receiptId) = s := by
            simp only [step, hcall]
          refine iff_of_true (.of_kept (by rw [hkept]) hadapter) ?_
          intro frame hframe
          rw [hcall] at hframe
          cases hframe
      | some frame =>
          have hevidence := hasEvidence_iff pf answer (h k frame hcall)
          have hpromoted := step_answered pf hcall answer receiptId
          constructor
          · intro hsound frame' hframe
            obtain rfl := Option.some.inj (hcall.symm.trans hframe)
            refine hevidence.mp fun hcounted => ?_
            obtain ⟨k', answer', receiptId', frame', hact, hcall', hevidence⟩ :=
              hsound.promotion (hpromoted.mpr hcounted)
            cases hact
            obtain rfl := Option.some.inj (hcall.symm.trans hcall')
            exact hevidence
          · intro hstays
            refine ⟨fun hne => ?_, fun _ hcons => ?_⟩
            · exact ⟨k, answer, receiptId, frame, rfl, hcall,
                hevidence.mpr (hstays frame hcall) (hpromoted.mp hne)⟩
            · exact absurd (hadapter.symm.trans hcons) (cons_ne_self _ _)

/-- In a run every promotion rests on evidence and every request at the adapter writes below the
directories, if and only if no request is handed over with a lookalike among its writable paths
and every clean success has an output that keeps to the limit of the bytes. -/
theorem promotion_sound_iff (pf : Platform) (receipts : List (JsString × StoredReceipt)) (now : ℤ)
    (acts : List SandboxAction) :
    Transition.EachStep (fun s => s.step pf) (SoundStep pf) (initial receipts now) acts ↔
      Transition.EachStep (fun s => s.step pf) (StaysSound pf) (initial receipts now) acts :=
  Transition.eachStep_congr (P := Limited) (fun _ act h => limited_step h act)
    (fun _ act h => soundStep_iff h act) (limited_initial receipts now) acts

def filingPlatform : Platform :=
  { demoPlatform with
    filesDigest := fun files =>
      Runtime.foldDigest (files.flatMap fun file => file.path ++ file.sha256) }

def demoBuild : SandboxProofRequest :=
  { demoRequest with
    writablePaths := [js "dist", js "src/lib"]
    resourceLimits := { demoRequest.resourceLimits with outputBytes := .ofNat 2 }
    outputPolicy := ⟨[js "dist"], [js "text/html"], .ofNat 1, .ofNat 2⟩ }

def demoPage : List OutputFileEvidence :=
  [⟨js "dist/index.html", .ofNat 2, js "5f", js "text/html", .regular⟩]

def demoBuilt : SandboxAdapterReceipt :=
  { demoAnswer with
    output := some ⟨demoPage, filingPlatform.filesDigest demoPage, .ofNat 2⟩ }

def demoBuilding : List SandboxAction :=
  [.execute 0 demoBuild [], .answered 0 demoBuilt [3]]

theorem byteSum_demoPage : byteSum demoPage = .finite 2 := by
  change JsReal.finite ((0 : ℕ) + (2 : ℕ)) = _
  norm_num

/-- The request comes to the adapter, and its page of two bytes is promoted. -/
theorem promotion_sound_iff_demo :
    Transition.EachStep (fun s => s.step filingPlatform) (SoundStep filingPlatform)
        (initial [] 0) demoBuilding ∧
      ((initial [] 0).after filingPlatform demoBuilding).service.ledger.promotions = 1 ∧
      ((initial [] 0).after filingPlatform demoBuilding).adapterCalls = [demoBuild] := by
  have hpaths : ∀ path ∈ demoBuild.writablePaths, ¬ IsLookalike path := by
    unfold IsLookalike
    decide
  refine ⟨(promotion_sound_iff filingPlatform [] 0 demoBuilding).mpr ⟨?_, ?_, trivial⟩, ?_, ?_⟩
  · exact fun _ => hpaths
  · intro frame hframe _ _
    obtain rfl : (⟨demoBuild, [2]⟩ : SandboxFrame) = frame := Option.some.inj hframe
    refine ⟨_, rfl, fun _ => ?_⟩
    change (byteSum demoPage).le (.ofNat 2) = true
    rw [byteSum_demoPage]
    rfl
  · decide +kernel
  · rfl
/-- A request that may write HTML, and one that writes beside the directories. -/
def demoHtml : SandboxProofRequest :=
  { demoRequest with
    outputPolicy := ⟨[js "dist"], [js "text/html"], .ofNat 1, .ofNat 1⟩ }

def demoLookalike : SandboxProofRequest := { demoRequest with writablePaths := [js "srcfoo"] }

/-- A file of two bytes with a total of one. -/
def demoOutput : OutputEvidence :=
  ⟨[⟨js "dist/a", .ofNat 2, [], js "text/html", .regular⟩], [], .ofNat 1⟩

def demoOversized : SandboxAdapterReceipt := { demoAnswer with output := some demoOutput }

/-- A success without any output is promoted, a success with more bytes than the limit is
promoted, and a request that writes beside the directories comes to the adapter. -/
theorem promotion_sound_fails :
    ¬ SoundStep demoPlatform ((initial [] 0).after demoPlatform [.execute 0 demoRequest []])
        (.answered 0 demoAnswer [3]) ∧
      ¬ SoundStep demoPlatform ((initial [] 0).after demoPlatform [.execute 0 demoHtml []])
        (.answered 0 demoOversized [3]) ∧
      ¬ SoundStep demoPlatform (initial [] 0) (.execute 0 demoLookalike []) := by
  have hlimited (acts : List SandboxAction) : ((initial [] 0).after demoPlatform acts).Limited :=
    limited_run (limited_initial [] 0) acts
  refine ⟨fun hsound => ?_, fun hsound => ?_, fun hsound => ?_⟩
  · have hstays := (soundStep_iff (hlimited _) _).mp hsound
    obtain ⟨output, houtput, -⟩ := hstays ⟨demoRequest, [2]⟩ rfl rfl rfl
    cases houtput
  · have hstays := (soundStep_iff (hlimited _) _).mp hsound
    obtain ⟨output, houtput, hbytes⟩ := hstays ⟨demoHtml, [2]⟩ rfl rfl rfl
    cases houtput
    have hsum : byteSum demoOutput.files = .finite (0 + 2) := rfl
    rw [hsum] at hbytes
    exact absurd (of_decide_eq_true (hbytes (by decide))) (by norm_num)
  · have hstays := (soundStep_iff (hlimited []) _).mp hsound
    refine hstays ⟨rfl, rfl, by decide⟩ (js "srcfoo") List.mem_cons_self ?_
    exact ⟨js "src", List.mem_cons_self, by decide, by decide, by decide⟩

end Sandbox

end SandboxProof

end Aico
