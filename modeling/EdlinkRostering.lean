import EdlinkRostering.Supersession
import EdlinkRostering.Isolation
import EdlinkRostering.ReleaseRefinement
import EdlinkRostering.Resolution
import EdlinkRostering.DoubleRevert
import EdlinkRostering.Inversion
import EdlinkRostering.Refusal
import EdlinkRostering.Severities
import EdlinkRostering.FailedJobs
import EdlinkRostering.Dispositions
import EdlinkRostering.Drift
import EdlinkRostering.Idempotency
import EdlinkRostering.Lifecycle
import EdlinkRostering.AuditPages
import EdlinkRostering.ReadIsolation
import EdlinkRostering.Convergence
import EdlinkRostering.Projection
import EdlinkRostering.TimelineFilters
import EdlinkRostering.IntegrationStatus
import EdlinkRostering.LeaTransitions
import EdlinkRostering.Rewinds
import EdlinkRostering.Wedges
import EdlinkRostering.Reloads
import EdlinkRostering.OnlyChanges
import EdlinkRostering.StaysReverted
import EdlinkRostering.PartnerState
import EdlinkRostering.PageBoundaries
import EdlinkRostering.ResourceWalk
import EdlinkRostering.SessionQueue
import EdlinkRostering.TransientRetry
import EdlinkRostering.PopulationShift
import EdlinkRostering.LastReports
import EdlinkRostering.Sweeps
import EdlinkRostering.DriftAlerts
import EdlinkRostering.SyncDetail
import EdlinkRostering.CursorAudit
import EdlinkRostering.DrainAlerts
import EdlinkRostering.Tenants
import EdlinkRostering.Authority
import EdlinkRostering.Answers
import EdlinkRostering.LiveTimeline
