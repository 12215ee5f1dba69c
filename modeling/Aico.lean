import Aico.Foundation.Transition
import Aico.Foundation.Locks
import Aico.Auth.InviteLifecycle
import Aico.Auth.SessionRevocation
import Aico.Objects.ObjectAgreement
import Aico.Tenancy.VersionChains
import Aico.Governance.CommandHistory
import Aico.Workflow.Owned
import Aico.Workflow.Waiting
import Aico.Workflow.Invocation
import Aico.Workflow.Outcome
import Aico.Workflow.Evidence
import Aico.Workflow.Slice
import Aico.Orchestration.WorkerSteps
import Aico.DurabilitySpike.DurableWaitSteps
import Aico.Workflow.Refinement
import Aico.Workflow.WorkerSlice
import Aico.Workflow.SystemInvariant
import Aico.Workflow.RunStates
import Aico.Workflow.RowVersions
import Aico.Orchestration.SingleInvocation
import Aico.Orchestration.LeaseFencing
import Aico.Orchestration.InvocationOutcome
import Aico.DurabilitySpike.WaitHistory
import Aico.Runs.SnapshotAnswers
import Aico.Runs.FrozenContext
import Aico.ProviderSpike.RuntimeStore
import Aico.ProviderSpike.RuntimeService
import Aico.ProviderSpike.RuntimeSteps
import Aico.ProviderSpike.DispatchOnce
import Aico.Foundation.Triple
import Aico.Initiatives.GoalQualification
import Aico.Validation.RequestBodies
import Aico.Validation.CheckConstraints
import Aico.Validation.Agreement
import Aico.GateSpike.ProofSchema
import Aico.GateSpike.ConsumerProbe
import Aico.GateSpike.ConsumerSteps
import Aico.GateSpike.PrefixOnce
import Aico.Attachments.Base64
import Aico.Attachments.AttachmentRetrieval
import Aico.Attachments.RetrievalSteps
import Aico.Attachments.AttachmentIntegrity
import Aico.Foundation.Coroutine
import Aico.Foundation.RelyGuarantee
import Aico.Foundation.JsMap
import Aico.PreviewSpike.PreviewContracts
import Aico.PreviewSpike.ProofRequests
import Aico.PreviewSpike.PreviewProofState
import Aico.PreviewSpike.PreviewProofService
import Aico.PreviewSpike.PreviewSessions
import Aico.PreviewSpike.PreviewLifecycle
import Aico.PreviewSpike.PreviewFixture
import Aico.PreviewSpike.PreviewSigning
import Aico.PreviewSpike.HookedCalls
import Aico.PreviewSpike.RevocationMonotone
import Aico.ProviderSpike.RuntimeOutcomes
import Aico.ProviderSpike.RuntimeChanges
import Aico.ProviderSpike.CommitBookkeeping
import Aico.ProviderSpike.CancellationSticks
import Aico.ProviderSpike.OpenOutcomes
import Aico.SandboxSpike.SandboxContracts
import Aico.SandboxSpike.SandboxProofService
import Aico.SandboxSpike.StartsOnce
import Aico.Foundation.Words
import Aico.Initiatives.QualificationCoherence
import Aico.Foundation.RegExp
import Aico.Foundation.RegExpSyntax
import Aico.Attachments.DeniedContent
import Aico.Initiatives.GoalEngine
import Aico.Initiatives.GoalLayout
import Aico.Initiatives.ScreenRefusals
import Aico.Attachments.Base64Bodies
import Aico.Attachments.ImagePixels
import Aico.Attachments.SafeFilename
import Aico.Common.ObjectKey
import Aico.Common.CanonicalDigest
import Aico.Initiatives.AttachmentBinding
import Aico.PreviewSpike.ReservedPaths
import Aico.Foundation.DateText
import Aico.GateSpike.DecisionCommand
import Aico.GateSpike.DecisionDigest
import Aico.GateSpike.ForeignResources
import Aico.DurabilitySpike.AnswerExact
import Aico.Attachments.JpegWalk
import Aico.Orchestration.AttemptNumbers
import Aico.ProviderSpike.HalfOpenProbe
import Aico.SandboxSpike.PromotionSound
import Aico.Foundation.ReadCommitted
import Aico.Governance.EventLog
import Aico.Governance.EventLogIntact
import Aico.Runs.EventPages
import Aico.Governance.EventLogLeases
import Aico.Orchestration.DeliveredOnce
import Aico.Foundation.LockOrder
import Aico.Orchestration.LockCrossings
import Aico.Foundation.Atomic
import Aico.Foundation.NonInterference
import Aico.PreviewSpike.AnsweredOnce
import Aico.PreviewSpike.DenialsUnnoticed
import Aico.PreviewSpike.PreviewSample
import Aico.PreviewSpike.IsolationFrame
import Aico.PreviewSpike.PreviewDigests
import Aico.PreviewSpike.ServingIntegrity
import Aico.PreviewSpike.Tombstones
import Aico.Tenancy.FounderSessions
import Aico.GateSpike.Gate01Safety
import Aico.PreviewSpike.BrowserEvidence
import Aico.PreviewSpike.BrowserNoninterference
import Aico.PreviewSpike.BrowserAsking
