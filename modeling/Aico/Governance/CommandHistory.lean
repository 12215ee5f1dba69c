import Aico.Foundation.Transition
import Aico.Governance.CommandExecutor

/-!
# Histories of commands

A history is a list of calls, run one after the other (`after`); `outcome` is
what the next call returns. On a ledger whose records are all settled a call
takes one of four shapes (`CallStep`), and whichever it takes the ledger stays
settled, so that the record of a command is fixed once the command has run.

Two things can keep a command from being settled, or unsettle it: a callback
that answers with status `0`, and a callback that touches the idempotency
records. A third makes equal requests look different: keys that the platform's
collation ties. `Disciplined` excludes the three.
-/

namespace Aico

namespace CommandExecutor

/-- A call with JavaScript values: no object of the request or of the body has
two entries with the same key, and the body is an object. -/
structure Call where
  options : CommandOptions
  request_wellFormed : Json.WellFormed options.request
  body_wellFormed : ∀ w response w', options.execute w = (.ok response, w') →
    response.body.isObject = true ∧ Json.WellFormed response.body

/-- The callback answers with a nonzero status and leaves the idempotency
records alone, and no object of the request has keys that collate equal. -/
structure Disciplined (rt : Runtime) (call : Call) : Prop where
  request_tieFree : Json.TieFree rt.localeCompare call.options.request
  status_ne_zero : ∀ w response w',
    call.options.execute w = (.ok response, w') → response.status ≠ 0
  records_eq : ∀ w response w', call.options.execute w = (.ok response, w') →
    w'.db.idempotencyRecords = w.db.idempotencyRecords

/-- Two calls under one actor, operation and key. -/
def SameKey (call call' : Call) : Prop :=
  call.options.actorId = call'.options.actorId ∧
    call.options.operation = call'.options.operation ∧
    call.options.idempotencyKey = call'.options.idempotencyKey

def outcome (rt : Runtime) (w : World) (call : Call) : Except Failure CommandResult :=
  (run rt call.options w).1

def after (rt : Runtime) (w : World) (calls : List Call) : World :=
  Transition.run (fun w call => (run rt call.options w).2) w calls

/-- Every record answers a later call. -/
def Settled (db : Db) : Prop :=
  ∀ record ∈ db.idempotencyRecords, (replay record).isSome

variable {rt : Runtime} {call call' : Call} {w w' : World} {db : Db}

theorem SameKey.isRecordOf_eq (h : SameKey call call') :
    isRecordOf call.options = isRecordOf call'.options := by
  obtain ⟨hactor, hoperation, hkey⟩ := h
  funext r
  rw [isRecordOf, isRecordOf, hactor, hoperation, hkey]

theorem SameKey.recorded_eq (h : SameKey call call') :
    recorded call.options db = recorded call'.options db := by
  rw [recorded, recorded, h.isRecordOf_eq]

def fresh (response : CommandResponse) : CommandResult where
  status := response.status
  body := response.body
  replayed := false

/-- The result of a later call under the same key. -/
def replayOf (response : CommandResponse) : CommandResult where
  status := response.status
  body := Json.jsonb response.body
  replayed := true

theorem fresh_injective : Function.Injective fresh := by
  rintro ⟨status, body⟩ ⟨status', body'⟩ h
  simpa [fresh] using h

def answeredRow (rt : Runtime) (options : CommandOptions) (response : CommandResponse)
    (id : Uuid) : IdempotencyRecordRow :=
  completedRow response (processingRow options id (rt.canonicalDigest options.request))

theorem replay_answeredRow {options : CommandOptions} {response : CommandResponse}
    {id : Uuid} (hstatus : response.status ≠ 0)
    (hobject : response.body.isObject = true) :
    replay (answeredRow rt options response id) = some (replayOf response) := by
  have htruthy : (Json.jsonb response.body).truthy = true := by
    cases hbody : response.body with
    | obj entries =>
        rw [Json.jsonb, Json.reorder_obj]
        rfl
    | _ =>
        rw [hbody] at hobject
        cases hobject
  simp [replay, answeredRow, completedRow, hstatus, htruthy, replayOf]

/-- What one call does to a settled ledger. -/
inductive CallStep (rt : Runtime) (call : Call) (w : World) :
    Except Failure CommandResult → Db → Prop
  | replayed (record : IdempotencyRecordRow) (result : CommandResult)
      (hrecorded : recorded call.options w.db = some record)
      (hdigest : record.requestDigest = rt.canonicalDigest call.options.request)
      (hreplay : replay record = some result) :
      CallStep rt call w (.ok result) w.db
  | reused (record : IdempotencyRecordRow)
      (hrecorded : recorded call.options w.db = some record)
      (hdigest : record.requestDigest ≠ rt.canonicalDigest call.options.request) :
      CallStep rt call w (.error (.domain idempotencyKeyReused)) w.db
  | failed (e : Failure) (hrecorded : recorded call.options w.db = none) :
      CallStep rt call w (.error e) w.db
  | executed (response : CommandResponse) (w' : World)
      (hrecorded : recorded call.options w.db = none)
      (hexec : call.options.execute (reserved rt call.options w) = (.ok response, w')) :
      CallStep rt call w (.ok (fresh response))
        (committed call.options response w'.db)

theorem callStep (hsettled : Settled w.db) (call : Call) :
    CallStep rt call w (outcome rt w call) (after rt w [call]).db := by
  rw [outcome, after, Transition.run_cons, Transition.run_nil]
  cases hrecorded : recorded call.options w.db with
  | some record =>
      by_cases hdigest :
          record.requestDigest = rt.canonicalDigest call.options.request
      · obtain ⟨result, hreplay⟩ := Option.isSome_iff_exists.mp
          (hsettled record (List.mem_of_find?_eq_some hrecorded))
        rw [run_of_replay hrecorded hdigest hreplay]
        exact .replayed record result hrecorded hdigest hreplay
      · rw [run_of_reused hrecorded hdigest]
        exact .reused record hrecorded hdigest
  | none =>
      cases hactor : knownActor call.options w.db with
      | false =>
          obtain ⟨e, w', hrun⟩ :
              ∃ e w', run rt call.options w = (.error e, w') :=
            run_of_unknownActor hrecorded hactor
          rw [hrun, run_error_db hrun]
          exact .failed e hrecorded
      | true =>
          rcases hexec : call.options.execute (reserved rt call.options w) with ⟨r, w'⟩
          cases r with
          | error e =>
              rw [run_of_new_error hrecorded hactor hexec]
              exact .failed e hrecorded
          | ok response =>
              rw [run_of_new_ok hrecorded hactor hexec]
              exact .executed response w' hrecorded hexec

theorem records_committed (hdisc : Disciplined rt call)
    (hrecorded : recorded call.options w.db = none) {response : CommandResponse}
    (hexec : call.options.execute (reserved rt call.options w) = (.ok response, w')) :
    (committed call.options response w'.db).idempotencyRecords =
      w.db.idempotencyRecords ++ [answeredRow rt call.options response w.nextId] := by
  have hkeep : Table.updateWhere (isRecordOf call.options) (completedRow response)
      w.db.idempotencyRecords = w.db.idempotencyRecords := by
    apply Table.updateWhere_eq_self
    intro record hrecord
    simpa using List.find?_eq_none.mp hrecorded record hrecord
  have hrecords := hdisc.records_eq _ _ _ hexec
  rw [committed, hrecords, reserved]
  rw [Table.updateWhere_append, hkeep, Table.updateWhere_cons,
    isRecordOf_processingRow, if_pos rfl]
  rfl

theorem step_ledger (hsettled : Settled w.db) (hdisc : Disciplined rt call) :
    Settled (after rt w [call]).db ∧
      ∀ options record, recorded options w.db = some record →
        recorded options (after rt w [call]).db = some record := by
  have hstep : CallStep rt call w (outcome rt w call) (after rt w [call]).db :=
    callStep hsettled call
  generalize (after rt w [call]).db = db at hstep ⊢
  generalize outcome rt w call = r at hstep
  cases hstep with
  | replayed => exact ⟨hsettled, fun _ _ h => h⟩
  | reused => exact ⟨hsettled, fun _ _ h => h⟩
  | failed => exact ⟨hsettled, fun _ _ h => h⟩
  | executed response w' hrecorded hexec =>
      have hrecords := records_committed hdisc hrecorded hexec
      constructor
      · intro record hrecord
        rw [hrecords, List.mem_append, List.mem_singleton] at hrecord
        rcases hrecord with hrecord | rfl
        · exact hsettled record hrecord
        · rw [replay_answeredRow (hdisc.status_ne_zero _ _ _ hexec)
            (call.body_wellFormed _ _ _ hexec).1]
          rfl
      · intro options record hold
        rw [recorded] at hold ⊢
        rw [hrecords, List.find?_append, hold, Option.some_or]

theorem after_ledger (hsettled : Settled w.db) {calls : List Call}
    (hdisc : ∀ call ∈ calls, Disciplined rt call) :
    Settled (after rt w calls).db ∧
      ∀ options record, recorded options w.db = some record →
        recorded options (after rt w calls).db = some record := by
  induction calls generalizing w with
  | nil => exact ⟨hsettled, fun _ _ h => h⟩
  | cons call calls ih =>
      obtain ⟨hsettled', hkeep⟩ :=
        step_ledger hsettled (hdisc call List.mem_cons_self)
      obtain ⟨hsettled'', hkeep'⟩ :=
        ih hsettled' fun c hc => hdisc c (List.mem_cons_of_mem _ hc)
      exact ⟨hsettled'', fun options record h => hkeep' options record
        (hkeep options record h)⟩

theorem after_append (calls calls' : List Call) :
    after rt w (calls ++ calls') = after rt (after rt w calls) calls' :=
  Transition.run_append _ w calls calls'

theorem recorded_of_executed (hsettled : Settled w.db) (hdisc : Disciplined rt call)
    {response : CommandResponse} (hout : outcome rt w call = .ok (fresh response)) :
    (∃ w', call.options.execute (reserved rt call.options w) = (.ok response, w')) ∧
      recorded call.options (after rt w [call]).db =
        some (answeredRow rt call.options response w.nextId) := by
  have hstep : CallStep rt call w (outcome rt w call) (after rt w [call]).db :=
    callStep hsettled call
  rw [hout] at hstep
  generalize (after rt w [call]).db = db at hstep ⊢
  generalize hr : (.ok (fresh response) : Except Failure CommandResult) = r at hstep
  cases hstep with
  | replayed record result hrecorded hdigest hreplay =>
      injection hr with hr
      have := replayed_of_replay hreplay
      rw [← hr] at this
      cases this
  | reused => cases hr
  | failed => cases hr
  | executed response' w' hrecorded hexec =>
      obtain rfl : response = response' := by
        injection hr with hr
        exact fresh_injective hr
      refine ⟨⟨w', hexec⟩, ?_⟩
      rw [recorded] at hrecorded ⊢
      rw [records_committed hdisc hrecorded hexec, List.find?_append, hrecorded,
        Option.none_or]
      simp [answeredRow, completedRow, isRecordOf, processingRow]

/-- A call under the key of a command that has run returns its response when the
request is the same up to key order, and is refused otherwise; it changes
nothing. -/
theorem outcome_of_recorded (hsha : Function.Injective rt.sha256)
    {first later : Call} {response : CommandResponse} {id : Uuid}
    (hfirst : Disciplined rt first) (hlater : Disciplined rt later)
    (hkey : SameKey first later) (hstatus : response.status ≠ 0)
    (hobject : response.body.isObject = true)
    (hrecorded : recorded first.options w.db =
      some (answeredRow rt first.options response id)) :
    (Json.EqUpToKeyOrder later.options.request first.options.request →
      outcome rt w later = .ok (replayOf response)) ∧
    (¬ Json.EqUpToKeyOrder later.options.request first.options.request →
      outcome rt w later = .error (.domain idempotencyKeyReused)) ∧
    (after rt w [later]).db = w.db := by
  rw [hkey.recorded_eq] at hrecorded
  have hiff : (answeredRow rt first.options response id).requestDigest =
      rt.canonicalDigest later.options.request ↔
        Json.EqUpToKeyOrder later.options.request first.options.request := by
    constructor
    · intro h
      exact Runtime.eqUpToKeyOrder_of_canonicalDigest_eq hsha later.request_wellFormed
        first.request_wellFormed h.symm
    · intro h
      exact (Runtime.canonicalDigest_eq h hlater.request_tieFree
        hfirst.request_tieFree).symm
  rw [outcome, after, Transition.run_cons, Transition.run_nil]
  by_cases hdigest : (answeredRow rt first.options response id).requestDigest =
      rt.canonicalDigest later.options.request
  · rw [run_of_replay hrecorded hdigest (replay_answeredRow hstatus hobject)]
    exact ⟨fun _ => rfl, fun h => absurd (hiff.mp hdigest) h, rfl⟩
  · rw [run_of_reused hrecorded hdigest]
    exact ⟨fun h => absurd (hiff.mpr h) hdigest, fun _ => rfl, rfl⟩

/-- The call ran its callback and committed what the callback did. -/
def Commits (rt : Runtime) (w : World) (call : Call) (response : CommandResponse) :
    Prop :=
  outcome rt w call = .ok (fresh response)

/-- Histories of disciplined calls run each command at most once.

A call that does not commit its callback changes nothing. Once a call has
committed, every later call under its key changes nothing, and it returns the
committed response for an equal request and is refused for another. A call that
throws leaves the database as it was, so that the next call under the key, when
there was no record, runs its callback. -/
theorem commands_exactlyOnce (rt : Runtime) (hsha : Function.Injective rt.sha256)
    (w₀ : World) (hempty : w₀.db.idempotencyRecords = []) (calls : List Call)
    (hdisc : ∀ call ∈ calls, Disciplined rt call) :
    (∀ before call rest, calls = before ++ call :: rest →
      (∃ response, Commits rt (after rt w₀ before) call response) ∨
        (after rt w₀ (before ++ [call])).db = (after rt w₀ before).db) ∧
    (∀ before first between later rest response,
      calls = before ++ first :: (between ++ later :: rest) → SameKey first later →
      Commits rt (after rt w₀ before) first response →
      let w := after rt w₀ (before ++ first :: between)
      (Json.EqUpToKeyOrder later.options.request first.options.request →
        outcome rt w later = .ok (replayOf response)) ∧
      Json.EqUpToKeyOrder (replayOf response).body response.body ∧
      (¬ Json.EqUpToKeyOrder later.options.request first.options.request →
        outcome rt w later = .error (.domain idempotencyKeyReused)) ∧
      (after rt w [later]).db = w.db) ∧
    (∀ before failing rest e, calls = before ++ failing :: rest →
      outcome rt (after rt w₀ before) failing = .error e →
      let w := after rt w₀ (before ++ [failing])
      w.db = (after rt w₀ before).db ∧
      (recorded failing.options w.db = none →
        ∀ retry response w', SameKey failing retry →
        knownActor retry.options w.db = true →
        retry.options.execute (reserved rt retry.options w) = (.ok response, w') →
        Commits rt w retry response)) := by
  have hsettled : ∀ before rest, calls = before ++ rest →
      Settled (after rt w₀ before).db := by
    intro before rest hcalls
    refine (after_ledger ?_ fun c hc => hdisc c ?_).1
    · intro record hrecord
      rw [hempty] at hrecord
      cases hrecord
    · rw [hcalls]
      exact List.mem_append_left _ hc
  refine ⟨?_, ?_, ?_⟩
  · intro before call rest hcalls
    have hstep : CallStep rt call (after rt w₀ before) (outcome rt (after rt w₀ before) call)
        (after rt (after rt w₀ before) [call]).db :=
      callStep (hsettled before _ hcalls) call
    simp only [Commits, after_append]
    generalize (after rt (after rt w₀ before) [call]).db = db at hstep ⊢
    generalize outcome rt (after rt w₀ before) call = r at hstep ⊢
    cases hstep with
    | replayed => exact .inr rfl
    | reused => exact .inr rfl
    | failed => exact .inr rfl
    | executed response => exact .inl ⟨response, rfl⟩
  · intro before first between later rest response hcalls hkey hcommits
    have hmem : ∀ c, c = first ∨ c ∈ between ∨ c = later → c ∈ calls := by
      rintro c (rfl | hc | rfl)
      all_goals
        rw [hcalls]
        simp_all
    have hfirst := hdisc first (hmem _ (.inl rfl))
    obtain ⟨⟨w', hexec⟩, hrecorded⟩ :=
      recorded_of_executed (hsettled before _ hcalls) hfirst hcommits
    obtain ⟨hobject, hwellFormed⟩ := first.body_wellFormed _ _ _ hexec
    have hafter : after rt w₀ (before ++ first :: between) =
        after rt (after rt (after rt w₀ before) [first]) between := by
      rw [after_append, ← after_append [first]]
      rfl
    have hkept := (after_ledger (w := after rt (after rt w₀ before) [first])
      (step_ledger (hsettled before _ hcalls) hfirst).1
      fun c hc => hdisc c (hmem c (.inr (.inl hc)))).2 _ _ hrecorded
    rw [← hafter] at hkept
    obtain ⟨hsame, hother, hdb⟩ := outcome_of_recorded hsha hfirst
      (hdisc later (hmem _ (.inr (.inr rfl)))) hkey
      (hfirst.status_ne_zero _ _ _ hexec) hobject hkept
    exact ⟨hsame, Json.normalize_jsonb hwellFormed, hother, hdb⟩
  · intro before failing rest e hcalls hout
    have hdb : (after rt w₀ (before ++ [failing])).db = (after rt w₀ before).db := by
      rw [after_append]
      have hrun : run rt failing.options (after rt w₀ before) =
          (.error e, after rt (after rt w₀ before) [failing]) := Prod.ext hout rfl
      exact run_error_db hrun
    refine ⟨hdb, ?_⟩
    intro hnone retry response w' hkey hactor hexec
    rw [hkey.recorded_eq] at hnone
    rw [Commits, outcome, run_of_new_ok hnone hactor hexec]
    rfl

/-! ## Calls on fixed inputs -/

/-- A platform that collates canonically equivalent texts as equal and hashes
`\x7b"title":"Demo"\x7d` by SHA-256. -/
def demoRuntime : Runtime :=
  .sample (Runtime.sha256On (js "\x7b\"title\":\"Demo\"\x7d")
    (js "a075250de584dd77be1f52a4143e048fa99c475096c2d4a5935bbe8a68045198"))

theorem demoRuntime_injective : Function.Injective demoRuntime.sha256 :=
  Runtime.sha256On_injective (by decide)

def demoWorld : World where
  db := { Db.empty with founders := [{ id := 0 }] }
  objects := []
  nextId := 1
  now := 0

def demoCall (request : Json) (hrequest : Json.WellFormed request)
    (callback : Op PUnit) (status : ℕ) : Call where
  options :=
    { actorId := 0, operation := "initiatives.create", idempotencyKey := 0,
      request := request,
      execute := do
        callback
        pure { status := status, body := .obj [] } }
  request_wellFormed := hrequest
  body_wellFormed := by
    intro w response w' hexec
    obtain ⟨_, _, _, hpure⟩ := Prog.bind_eq_ok.mp hexec
    obtain ⟨rfl, rfl⟩ := Prog.pure_eq_ok.mp hpure
    exact ⟨rfl, .obj [] (by simp) (by simp)⟩

def demoRequest : Json := .object [("title", .text "Demo")]

theorem keysPairwise_demoRequest {r : JsString → JsString → Prop} :
    Json.KeysPairwise r demoRequest := by
  refine .obj _ (List.pairwise_singleton _ _) ?_
  intro e he
  obtain rfl := List.mem_singleton.mp he
  exact .str _

/-- The call with status `201` and no effect of its own. -/
def demoCreate : Call :=
  demoCall demoRequest keysPairwise_demoRequest (pure ⟨⟩) 201

theorem disciplined_demoCreate : Disciplined demoRuntime demoCreate where
  request_tieFree := keysPairwise_demoRequest
  status_ne_zero := by
    intro w response w' hexec
    cases hexec
    decide
  records_eq := by
    intro w response w' hexec
    cases hexec
    rfl

theorem commands_exactlyOnce_demo :
    outcome demoRuntime (after demoRuntime demoWorld [demoCreate]) demoCreate =
      .ok (replayOf { status := 201, body := .obj [] }) := by
  have hdisc : ∀ call ∈ [demoCreate, demoCreate], Disciplined demoRuntime call := by
    intro call hcall
    obtain rfl : call = demoCreate := by simpa using hcall
    exact disciplined_demoCreate
  have hhistory := commands_exactlyOnce demoRuntime demoRuntime_injective demoWorld rfl
    [demoCreate, demoCreate] hdisc
  exact (hhistory.2.1 [] demoCreate [] demoCreate [] { status := 201, body := .obj [] }
    rfl ⟨rfl, rfl, rfl⟩ rfl).1 rfl

/-- A request with two keys that are canonically equivalent texts, in either
order. -/
def tiedRequest (swapped : Bool) : Json :=
  if swapped then .obj [([0x61, 0x301], .nat 2), ([0xE1], .nat 1)]
  else .obj [([0xE1], .nat 1), ([0x61, 0x301], .nat 2)]

theorem wellFormed_tiedRequest (swapped : Bool) :
    Json.WellFormed (tiedRequest swapped) := by
  cases swapped
  all_goals
    refine .obj _ (by decide) ?_
    intro e he
    rcases List.mem_cons.mp he with rfl | he
    · exact .num _
    · obtain rfl := List.mem_singleton.mp he
      exact .num _

/-- Three histories in which a second call under one key, with an equal request,
is not answered with the first response: the callback answers with status `0`
and runs again; the callback deletes the idempotency records and runs again;
the keys of the request collate equal and the call is refused. -/
theorem commands_exactlyOnce_fails :
    Function.Injective demoRuntime.sha256 ∧
    (let zero := demoCall demoRequest keysPairwise_demoRequest (pure ⟨⟩) 0
     Commits demoRuntime demoWorld zero { status := 0, body := .obj [] } ∧
      Commits demoRuntime (after demoRuntime demoWorld [zero]) zero
        { status := 0, body := .obj [] }) ∧
    (let deleting := demoCall demoRequest keysPairwise_demoRequest
        (Op.exec fun db => { db with idempotencyRecords := [] }) 201
     Commits demoRuntime demoWorld deleting { status := 201, body := .obj [] } ∧
      Commits demoRuntime (after demoRuntime demoWorld [deleting]) deleting
        { status := 201, body := .obj [] }) ∧
    (let first := demoCall (tiedRequest false) (wellFormed_tiedRequest false) (pure ⟨⟩) 201
     let later := demoCall (tiedRequest true) (wellFormed_tiedRequest true) (pure ⟨⟩) 201
     Commits demoRuntime demoWorld first { status := 201, body := .obj [] } ∧
      Json.EqUpToKeyOrder later.options.request first.options.request ∧
      outcome demoRuntime (after demoRuntime demoWorld [first]) later =
        .error (.domain idempotencyKeyReused)) :=
  ⟨demoRuntime_injective, ⟨rfl, rfl⟩, ⟨rfl, rfl⟩, rfl, rfl, rfl⟩

end CommandExecutor

end Aico
