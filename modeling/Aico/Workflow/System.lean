import Mathlib.Logic.Function.Basic
import Aico.DurabilitySpike.DurableWait
import Aico.Foundation.Transition
import Aico.Initiatives.Initiatives
import Aico.Orchestration.Worker

/-!
# The workflow system

The world, any number of workers, and the calls made to the model provider. A
worker runs `processOnce` one transaction at a time (`Pc` is the place it has
reached); between two of its steps anything else may happen: a founder starts a
run, a wait is opened or answered, a run is canceled, another worker moves, time
passes, the rest of the program runs.

A worker's step may throw where it stands (`throws`), also after its transaction
has committed, and a worker may crash anywhere (`crash`). An action that is not
enabled does nothing.
-/

namespace Aico

/-- Where a worker stands in `processOnce`. A worker that fails does not know
whether it had begun the invocation; `failing` records it for the reader. -/
inductive Pc where
  | idle
  | claimed (claim : ClaimedTask)
  | contextLoaded (claim : ClaimedTask) (context : ContextRow)
  | leaseLost (claim : ClaimedTask)
  | leaseChecked (claim : ClaimedTask) (context : ContextRow)
  | outcomeUnknown (claim : ClaimedTask)
  | begun (claim : ClaimedTask) (context : ContextRow)
  | invoking (claim : ClaimedTask)
  | answered (claim : ClaimedTask) (result : ModelResult)
  | failing (claim : ClaimedTask) (begun : Bool)
  | returning (claim : ClaimedTask)

namespace Pc

def claim : Pc → Option ClaimedTask
  | idle => none
  | claimed c | contextLoaded c _ | leaseLost c | leaseChecked c _ | outcomeUnknown c
  | begun c _ | invoking c | answered c _ | failing c _ | returning c => some c

def invoked : Pc → Bool
  | begun _ _ | invoking _ | answered _ _ => true
  | _ => false

def live : Pc → Bool
  | begun _ _ | invoking _ | answered _ _ => true
  | failing _ invoked => invoked
  | _ => false

/-- The worker has begun the invocation and has still to call the provider. -/
def pending : Pc → Bool
  | begun _ _ => true
  | _ => false

/-- The place an exception leads to. `failTask` itself is outside the `try`. -/
def thrown : Pc → Pc
  | idle | failing _ _ => idle
  | begun c _ | invoking c | answered c _ => failing c true
  | claimed c | contextLoaded c _ | leaseLost c | leaseChecked c _ | outcomeUnknown c
  | returning c => failing c false

end Pc

/-- What an operation outside the workflow leaves alone. -/
structure KeepsWorkflow (w w' : World) : Prop where
  runs : w'.db.runs = w.db.runs
  tasks : w'.db.tasks = w.db.tasks
  taskAttempts : w'.db.taskAttempts = w.db.taskAttempts
  modelInvocationEffects :
    w'.db.modelInvocationEffects = w.db.modelInvocationEffects
  artifacts : w'.db.artifacts = w.db.artifacts
  artifactVersions : w'.db.artifactVersions = w.db.artifactVersions
  humanWaits : w'.db.humanWaits = w.db.humanWaits
  clarificationAnswerVersions :
    w'.db.clarificationAnswerVersions = w.db.clarificationAnswerVersions
  runEvents : w'.db.events.filter (fun e => e.runId.isSome) =
    w.db.events.filter fun e => e.runId.isSome
  nextId : w.nextId ≤ w'.nextId

/-- An operation of the rest of the program: it may do anything but touch the
rows of runs. -/
structure TenantOp where
  run : World → World
  keeps : ∀ w, KeepsWorkflow w (run w)

/-- What can happen next. The workers are numbered. -/
inductive Action where
  | tick (elapsed : ℕ)
  | other (op : TenantOp)
  | createGoalAndRun (actor : RequestActor) (initiativeId : UuidText)
      (expectedVersion : ℕ) (idempotencyKey : Uuid) (correlationId : UuidText)
      (dto : CreateGoalDto)
  | openWait (input : OpenWaitInput)
  | answer (input : AnswerWaitInput)
  | cancelFixture (companyId runId : UuidText) (actorId : JsString)
      (correlationId : UuidText)
  | claimTask (w : ℕ) (config : WorkerConfig) (runId : Option Uuid) (locked : List Uuid)
  | loadContext (w : ℕ)
  | isLeaseCurrent (w : ℕ)
  | abandonAttempt (w : ℕ)
  | beginModelInvocation (w : ℕ)
  | blockUnknownModelOutcome (w : ℕ)
  | invoke (w : ℕ)
  | providerReturns (w : ℕ) (result : ModelResult)
  | completeTask (w : ℕ)
  | failTask (w : ℕ)
  | finish (w : ℕ)
  | throws (w : ℕ)
  | crash (w : ℕ)

/-- The state of the system. `calls` lists the claims the provider was called
for; the program does not keep that list. -/
structure Sys where
  world : World
  workers : ℕ → Pc
  calls : List ClaimedTask

namespace Sys

/-- A worker ends a step: it moves on when the step returned and to `failed`
when it threw. -/
def settle {α : Type} (s : Sys) (w : ℕ) (r : Except Failure α × World) (next : α → Pc)
    (failed : Pc) : Sys :=
  { s with
    world := r.2
    workers := Function.update s.workers w
      (match r.1 with
        | .ok a => next a
        | .error _ => failed) }

def step (services : Services) (s : Sys) : Action → Sys
  | .tick elapsed => { s with world := { s.world with now := s.world.now + elapsed } }
  | .other op => { s with world := op.run s.world }
  | .createGoalAndRun actor initiativeId expectedVersion idempotencyKey correlationId dto =>
      { s with
        world := (Initiatives.createGoalAndRun services actor initiativeId expectedVersion
          idempotencyKey correlationId dto s.world).2 }
  | .openWait input => { s with world := (DurableWait.openWait input s.world).2 }
  | .answer input =>
      { s with world := (DurableWait.answer services.runtime input s.world).2 }
  | .cancelFixture companyId runId actorId correlationId =>
      { s with
        world :=
          (DurableWait.cancelFixture companyId runId actorId correlationId s.world).2 }
  | .claimTask w config runId locked =>
      match s.workers w with
      | .idle =>
          s.settle w (Worker.claimTask services.runtime config runId locked s.world)
            (fun claim => claim.elim .idle .claimed) .idle
      | _ => s
  | .loadContext w =>
      match s.workers w with
      | .claimed claim =>
          s.settle w (Worker.loadContext claim.companyId claim.runId s.world)
            (.contextLoaded claim) (.failing claim false)
      | _ => s
  | .isLeaseCurrent w =>
      match s.workers w with
      | .contextLoaded claim context =>
          s.settle w (Worker.isLeaseCurrent claim s.world)
            (fun current => if current then .leaseChecked claim context else .leaseLost claim)
            (.failing claim false)
      | _ => s
  | .abandonAttempt w =>
      match s.workers w with
      | .leaseLost claim =>
          s.settle w (Worker.abandonAttempt claim "STALE_BEFORE_INVOCATION" s.world)
            (fun _ => .returning claim) (.failing claim false)
      | _ => s
  | .beginModelInvocation w =>
      match s.workers w with
      | .leaseChecked claim context =>
          s.settle w (Worker.beginModelInvocation claim s.world)
            (fun begun => if begun then .begun claim context else .outcomeUnknown claim)
            (.failing claim false)
      | _ => s
  | .blockUnknownModelOutcome w =>
      match s.workers w with
      | .outcomeUnknown claim =>
          s.settle w (Worker.blockUnknownModelOutcome claim s.world)
            (fun _ => .returning claim) (.failing claim false)
      | _ => s
  | .invoke w =>
      match s.workers w with
      | .begun claim _ =>
          { s with
            workers := Function.update s.workers w (.invoking claim)
            calls := claim :: s.calls }
      | _ => s
  | .providerReturns w result =>
      match s.workers w with
      | .invoking claim =>
          { s with workers := Function.update s.workers w (.answered claim result) }
      | _ => s
  | .completeTask w =>
      match s.workers w with
      | .answered claim result =>
          s.settle w (Worker.completeTask services.runtime claim result s.world)
            (fun _ => .returning claim) (.failing claim true)
      | _ => s
  | .failTask w =>
      match s.workers w with
      | .failing claim _ => s.settle w (Worker.failTask claim s.world) (fun _ => .idle) .idle
      | _ => s
  | .finish w =>
      match s.workers w with
      | .returning _ => { s with workers := Function.update s.workers w .idle }
      | _ => s
  | .throws w => { s with workers := Function.update s.workers w (s.workers w).thrown }
  | .crash w => { s with workers := Function.update s.workers w .idle }

def after (services : Services) (s : Sys) (acts : List Action) : Sys :=
  Transition.run (step services) s acts

end Sys

/-- A world in which no run has been created: every other table is arbitrary. -/
structure InitialWorld where
  world : World
  runs : world.db.runs = []
  tasks : world.db.tasks = []
  taskAttempts : world.db.taskAttempts = []
  modelInvocationEffects : world.db.modelInvocationEffects = []
  artifacts : world.db.artifacts = []
  artifactVersions : world.db.artifactVersions = []
  humanWaits : world.db.humanWaits = []
  clarificationAnswerVersions : world.db.clarificationAnswerVersions = []
  runEvents : ∀ e ∈ world.db.events, e.runId = none

def InitialWorld.sys (init : InitialWorld) : Sys where
  world := init.world
  workers := fun _ => .idle
  calls := []

end Aico
