import Aico.Schema.Database

/-!
# Idempotent commands

`CommandExecutor.run` reserves the idempotency record of the command, compares
the digest of the request with the recorded one, returns the recorded response
when there is one, and otherwise runs the command and records its response, all
in one transaction.

A record is settled when a later call returns its response instead of running
the command again (`replay`). That is decided by the truthiness of the recorded
status and body, so a command that answers with status `0` is never settled.
-/

namespace Aico

/-- What the callback of a command returns. -/
structure CommandResponse where
  status : ℕ
  body : Json

structure CommandResult where
  status : ℕ
  body : Json
  replayed : Bool

structure CommandOptions where
  actorId : Uuid
  operation : String
  idempotencyKey : Uuid
  request : Json
  execute : Op CommandResponse

namespace CommandExecutor

def isRecordOf (options : CommandOptions) (r : IdempotencyRecordRow) : Bool :=
  r.actorId = options.actorId ∧ r.operation = options.operation ∧
    r.idempotencyKey = options.idempotencyKey

def processingRow (options : CommandOptions) (id : Uuid) (digest : Digest) :
    IdempotencyRecordRow where
  id := id
  actorId := options.actorId
  operation := options.operation
  idempotencyKey := options.idempotencyKey
  requestDigest := digest
  state := .processing
  responseStatus := none
  responseBody := none

/-- The record of a command that answered with the response. The driver hands
back the body as the `jsonb` column stores it. -/
def completedRow (response : CommandResponse) (r : IdempotencyRecordRow) :
    IdempotencyRecordRow :=
  { r with
    state := .completed
    responseStatus := some response.status
    responseBody := some (Json.jsonb response.body) }

def idempotencyKeyReused : DomainError where
  status := 409
  code := "idempotency_key_reused"
  title := "The idempotency key was already used"
  detail := "Use a new Idempotency-Key for a different command body."
  remediation := ["use_new_idempotency_key"]

/-- The recorded response, where the command is complete and both parts of the
response are truthy. -/
def replay (record : IdempotencyRecordRow) : Option CommandResult :=
  match record.state, record.responseStatus, record.responseBody with
  | .completed, some status, some body =>
      if status ≠ 0 ∧ body.truthy then
        some { status := status, body := body, replayed := true }
      else none
  | _, _, _ => none

/-- `INSERT … ON CONFLICT DO NOTHING`; the actor must be a founder. -/
def reserve (options : CommandOptions) (digest : Digest) : Op PUnit := do
  let id ← Op.newId
  let conflict ← Op.query fun db => db.idempotencyRecords.any (isRecordOf options)
  if conflict then pure ⟨⟩
  else do
    let known ← Op.query fun db => db.founders.any fun f => f.id = options.actorId
    Prog.ensure (known = true) (.constraint "idempotency_records_actor_id_fkey")
    Op.exec fun db =>
      { db with
        idempotencyRecords :=
          db.idempotencyRecords ++ [processingRow options id digest] }

def execute (options : CommandOptions) : Op CommandResult := do
  let result ← options.execute
  Op.exec fun db =>
    { db with
      idempotencyRecords := Table.updateWhere (isRecordOf options)
        (completedRow result) db.idempotencyRecords }
  pure { status := result.status, body := result.body, replayed := false }

def body (rt : Runtime) (options : CommandOptions) : Op CommandResult := do
  let requestDigest := rt.canonicalDigest options.request
  reserve options requestDigest
  let rows ← Op.query fun db => db.idempotencyRecords.filter (isRecordOf options)
  let record ← Prog.require rows.head? .typeError
  Prog.ensure (record.requestDigest = requestDigest) (.domain idempotencyKeyReused)
  match replay record with
  | some result => pure result
  | none => execute options

/-- Run a command, or return the response it was answered with. -/
def run (rt : Runtime) (options : CommandOptions) : Op CommandResult :=
  Op.transaction (body rt options)

/-! ## What one call does -/

variable {rt : Runtime} {options options' : CommandOptions} {w w' : World}

def recorded (options : CommandOptions) (db : Db) : Option IdempotencyRecordRow :=
  db.idempotencyRecords.find? (isRecordOf options)

def knownActor (options : CommandOptions) (db : Db) : Bool :=
  db.founders.any fun f => f.id = options.actorId

/-- The world in which the callback of a new command runs. -/
def reserved (rt : Runtime) (options : CommandOptions) (w : World) : World :=
  { w with
    nextId := w.nextId + 1
    db := { w.db with
      idempotencyRecords := w.db.idempotencyRecords ++
        [processingRow options w.nextId (rt.canonicalDigest options.request)] } }

/-- The database a successful command commits, from the one its callback
leaves. -/
def committed (options : CommandOptions) (response : CommandResponse) (db : Db) : Db :=
  { db with
    idempotencyRecords :=
      Table.updateWhere (isRecordOf options) (completedRow response)
        db.idempotencyRecords }

theorem any_isRecordOf : w.db.idempotencyRecords.any (isRecordOf options) =
    (recorded options w.db).isSome := by
  rw [recorded, ← List.isSome_find?]

theorem isRecordOf_processingRow (options : CommandOptions) (id : Uuid)
    (digest : Digest) : isRecordOf options (processingRow options id digest) = true := by
  simp [isRecordOf, processingRow]

theorem recorded_reserved (h : recorded options w.db = none) :
    recorded options (reserved rt options w).db =
      some (processingRow options w.nextId (rt.canonicalDigest options.request)) := by
  rw [recorded] at h
  simp [recorded, reserved, List.find?_append, h, isRecordOf_processingRow]

theorem reserve_of_recorded {record : IdempotencyRecordRow} {digest : Digest}
    (h : recorded options w.db = some record) :
    reserve options digest w = (.ok ⟨⟩, { w with nextId := w.nextId + 1 }) := by
  simp only [reserve, Op.newId_bind, Op.query_bind, any_isRecordOf, h]
  rfl

theorem reserve_of_new (h : recorded options w.db = none)
    (hactor : knownActor options w.db = true) :
    reserve options (rt.canonicalDigest options.request) w =
      (.ok ⟨⟩, reserved rt options w) := by
  rw [knownActor] at hactor
  simp only [reserve, Op.newId_bind, Op.query_bind, any_isRecordOf, h,
    Option.isSome_none, Bool.false_eq_true, if_false, hactor, Op.ensure_bind]
  rfl

theorem reserve_of_unknownActor {digest : Digest} (h : recorded options w.db = none)
    (hactor : knownActor options w.db = false) :
    ∃ w', reserve options digest w =
      (.error (.constraint "idempotency_records_actor_id_fkey"), w') := by
  rw [knownActor] at hactor
  simp only [reserve, Op.newId_bind, Op.query_bind, any_isRecordOf, h,
    Option.isSome_none, Bool.false_eq_true, if_false, hactor, Op.ensure_bind]
  exact ⟨_, rfl⟩

theorem run_error_db {e : Failure} (h : run rt options w = (.error e, w')) :
    w'.db = w.db :=
  Op.transaction_error h

theorem run_of_reused {record : IdempotencyRecordRow}
    (h : recorded options w.db = some record)
    (hdigest : record.requestDigest ≠ rt.canonicalDigest options.request) :
    run rt options w = (.error (.domain idempotencyKeyReused),
      { w with nextId := w.nextId + 1 }) := by
  have hbody : body rt options w = (.error (.domain idempotencyKeyReused),
      { w with nextId := w.nextId + 1 }) := by
    rw [body, Prog.bind_of_ok (reserve_of_recorded h), Op.query_bind,
      List.head?_filter]
    rw [recorded] at h
    rw [h, Op.require_some, Op.ensure_of_not _ hdigest]
  exact Op.transaction_of_error hbody

/-- A call under the key of a settled record returns the recorded response. -/
theorem run_of_replay {record : IdempotencyRecordRow} {result : CommandResult}
    (h : recorded options w.db = some record)
    (hdigest : record.requestDigest = rt.canonicalDigest options.request)
    (hreplay : replay record = some result) :
    run rt options w = (.ok result, { w with nextId := w.nextId + 1 }) := by
  have hbody : body rt options w = (.ok result, { w with nextId := w.nextId + 1 }) := by
    rw [body, Prog.bind_of_ok (reserve_of_recorded h), Op.query_bind,
      List.head?_filter]
    rw [recorded] at h
    rw [h, Op.require_some, Op.ensure_of _ hdigest, hreplay]
    rfl
  exact Op.transaction_of_ok hbody

/-- A call under a new key runs the callback. -/
theorem body_of_new (h : recorded options w.db = none)
    (hactor : knownActor options w.db = true) :
    body rt options w = execute options (reserved rt options w) := by
  have hrecorded : recorded options (reserved rt options w).db =
      some (processingRow options w.nextId (rt.canonicalDigest options.request)) :=
    recorded_reserved h
  rw [body, Prog.bind_of_ok (reserve_of_new h hactor), Op.query_bind,
    List.head?_filter]
  rw [recorded] at hrecorded
  have hdigest : (processingRow options w.nextId
      (rt.canonicalDigest options.request)).requestDigest =
        rt.canonicalDigest options.request := rfl
  rw [hrecorded, Op.require_some, Op.ensure_of _ hdigest]
  rfl

theorem run_of_new_ok {response : CommandResponse}
    (h : recorded options w.db = none) (hactor : knownActor options w.db = true)
    (hexec : options.execute (reserved rt options w) = (.ok response, w')) :
    run rt options w =
      (.ok { status := response.status, body := response.body, replayed := false },
        { w' with db := committed options response w'.db }) := by
  refine Op.transaction_of_ok ?_
  rw [body_of_new h hactor, execute, Prog.bind_of_ok hexec]
  rfl

theorem run_of_new_error {e : Failure}
    (h : recorded options w.db = none) (hactor : knownActor options w.db = true)
    (hexec : options.execute (reserved rt options w) = (.error e, w')) :
    run rt options w = (.error e, { w' with db := w.db }) := by
  refine Op.transaction_of_error ?_
  rw [body_of_new h hactor, execute, Prog.bind_of_error hexec]

theorem run_of_unknownActor (h : recorded options w.db = none)
    (hactor : knownActor options w.db = false) :
    ∃ e w', run rt options w = (.error e, w') := by
  obtain ⟨w', hreserve⟩ :
      ∃ w', reserve options (rt.canonicalDigest options.request) w =
        (.error (.constraint "idempotency_records_actor_id_fkey"), w') :=
    reserve_of_unknownActor h hactor
  have hbody : body rt options w =
      (.error (.constraint "idempotency_records_actor_id_fkey"), w') := by
    rw [body, Prog.bind_of_error hreserve]
  exact ⟨_, _, Op.transaction_of_error hbody⟩

theorem replayed_of_replay {record : IdempotencyRecordRow} {result : CommandResult}
    (h : replay record = some result) : result.replayed = true := by
  unfold replay at h
  split at h
  · split at h
    · obtain rfl := Option.some.inj h
      rfl
    · cases h
  · cases h

/-- A command that returns has replayed the answer recorded under its key, or has run
its callback over its reserved record. -/
theorem run_ok_cases {result : CommandResult} (hrun : run rt options w = (.ok result, w')) :
    (result.replayed = true ∧ (recorded options w.db).isSome ∧
      w' = { w with nextId := w.nextId + 1 }) ∨
    (result.replayed = false ∧ ∃ rows response w₁,
      options.execute
        { w with
          nextId := w.nextId + 1
          db := { w.db with idempotencyRecords := rows } } = (.ok response, w₁) ∧
      w' = { w₁ with db := committed options response w₁.db }) := by
  have hexecute : ∀ {w₀ : World}, execute options w₀ = (.ok result, w') →
      result.replayed = false ∧ ∃ response w₁, options.execute w₀ = (.ok response, w₁) ∧
        w' = { w₁ with db := committed options response w₁.db } := by
    intro w₀ h
    obtain ⟨response, w₁, hexec, hcommit⟩ := Prog.bind_eq_ok.mp h
    rw [Op.exec_bind] at hcommit
    obtain ⟨rfl, hw'⟩ := Prog.pure_eq_ok.mp hcommit
    exact ⟨rfl, response, w₁, hexec, hw'⟩
  rw [run, Op.transaction_eq_ok] at hrun
  cases hrecorded : recorded options w.db with
  | some record =>
      rw [body, Prog.bind_of_ok (reserve_of_recorded hrecorded), Op.query_bind,
        List.head?_filter] at hrun
      rw [recorded] at hrecorded
      rw [hrecorded, Op.require_some] at hrun
      obtain ⟨_, w₁, hdigest, hanswer⟩ := Prog.bind_eq_ok.mp hrun
      obtain ⟨-, rfl⟩ := Prog.ensure_eq_ok.mp hdigest
      cases hreplay : replay record with
      | some result' =>
          rw [hreplay] at hanswer
          obtain ⟨rfl, hw'⟩ := Prog.pure_eq_ok.mp hanswer
          exact .inl ⟨replayed_of_replay hreplay, rfl, hw'⟩
      | none =>
          rw [hreplay] at hanswer
          obtain ⟨hnew, hexec⟩ := hexecute hanswer
          exact .inr ⟨hnew, w.db.idempotencyRecords, hexec⟩
  | none =>
      cases hactor : knownActor options w.db with
      | true =>
          rw [body_of_new hrecorded hactor] at hrun
          obtain ⟨hnew, hexec⟩ := hexecute hrun
          exact .inr ⟨hnew, _, hexec⟩
      | false =>
          obtain ⟨w₁, hreserve⟩ :
              ∃ w₁, reserve options (rt.canonicalDigest options.request) w =
                (.error (.constraint "idempotency_records_actor_id_fkey"), w₁) :=
            reserve_of_unknownActor hrecorded hactor
          rw [body, Prog.bind_of_error hreserve] at hrun
          cases hrun

theorem run_eq_ok {result : CommandResult} (hrun : run rt options w = (.ok result, w')) :
    w' = { w with nextId := w.nextId + 1 } ∨ ∃ rows response w₁,
      options.execute
        { w with
          nextId := w.nextId + 1
          db := { w.db with idempotencyRecords := rows } } = (.ok response, w₁) ∧
      w' = { w₁ with db := committed options response w₁.db } := by
  rcases run_ok_cases hrun with ⟨-, -, hw'⟩ | ⟨-, hexec⟩
  · exact .inl hw'
  · exact .inr hexec

theorem run_respects {R : World → World → Prop} [WorldOrder R]
    (hreserve : ∀ w id digest, R w { w with db :=
      { w.db with
        idempotencyRecords :=
          w.db.idempotencyRecords ++ [processingRow options id digest] } })
    (hcommit : ∀ w response, R w { w with db := committed options response w.db })
    (hexecute : Prog.Respects R options.execute) :
    Prog.Respects R (run rt options) := by
  refine .transact (.bind ?_ fun _ => .bind (.query _) fun _ =>
    .bind (.require _ _) fun record => .bind (.ensure _ _) fun _ => ?_)
  · refine .bind .newId fun id => .bind (.query _) fun _ => .ite (.pure _) ?_
    exact .bind (.query _) fun _ => .bind (.ensure _ _) fun _ =>
      .exec fun w => hreserve w id _
  · cases replay record with
    | some result => exact .pure result
    | none =>
        exact .bind hexecute fun response =>
          .bind (.exec fun w => hcommit w response) fun _ => .pure _

/-- A command keeps a view without the records of commands where its callback
does. -/
theorem run_keeps {β : Type} {v : Db → β} {R : World → World → Prop} [ViewOrder v R]
    (hv : ∀ db rows, v { db with idempotencyRecords := rows } = v db)
    (hexecute : Prog.Respects R options.execute) : Prog.Respects R (run rt options) :=
  run_respects (fun w _ _ => ViewOrder.exec (v := v) w _ (hv w.db _))
    (fun w _ => ViewOrder.exec (v := v) w _ (hv w.db _)) hexecute

theorem run_dbFree {R : World → World → Prop} [DbFree R]
    (hexecute : Prog.Respects R options.execute) : Prog.Respects R (run rt options) :=
  run_respects (fun w _ _ => DbFree.exec w _) (fun w _ => DbFree.exec w _) hexecute

end CommandExecutor

end Aico
