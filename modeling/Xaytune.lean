import Xaytune.Core.Fingerprint
import Xaytune.Evaluation.Disclosure
import Xaytune.Storage.Leases
import Xaytune.Storage.Journal
import Xaytune.Storage.AfterCancellation
import Xaytune.Storage.Authorization
import Xaytune.Storage.Branching
import Xaytune.Storage.Balances
import Xaytune.Storage.Quota
import Xaytune.Storage.Invocations
import Xaytune.Storage.Mailbox
import Xaytune.Storage.Comparison
import Xaytune.Storage.MigrationRuns
import Xaytune.Storage.Outcomes
import Xaytune.Storage.Telemetry
import Xaytune.Search.History
import Xaytune.Trajectory.Crash
import Xaytune.Trajectory.Expiry
import Xaytune.Trajectory.Rolling
import Xaytune.Trajectory.Salvage
import Xaytune.Resilience.OOMPlanning
import Xaytune.Runtimes.Endings
import Xaytune.Runtimes.Logs
import Xaytune.Runtimes.OneWorker
import Xaytune.Ray.GroupEnding
import Xaytune.Ray.OneJob
import Xaytune.Runtimes.RelayedOnce
import Xaytune.Workers.ExactResume
import Xaytune.Checkpoints.OneBundle
import Xaytune.Harness.Spending
import Xaytune.Harness.Conversation
import Xaytune.Data.Packing
import Xaytune.Trainer.Horizon
import Xaytune.Search.Overlap
import Xaytune.Core.PatchFrame
import Xaytune.Decision.Identity
import Xaytune.Agent.Model
import Xaytune.Comparison.Antisymmetry
import Xaytune.Studio.Stops
import Xaytune.Metrics.Serving
import Xaytune.Data.Dedup
import Xaytune.Api.Redaction
import Xaytune.Api.Paging
