import InspectionHub.Booking.Refund
import InspectionHub.Booking.AccessLinks
import InspectionHub.Booking.SlotHolds
import InspectionHub.TaskQueue.Dependencies
import InspectionHub.TaskQueue.Selection
import InspectionHub.Domain.EvidenceRisk
import InspectionHub.Domain.ReplayModules
import InspectionHub.Domain.CanonicalJson
import InspectionHub.Domain.Idempotency
import InspectionHub.Capture.QueueEvents
import InspectionHub.Capture.StandIn
import InspectionHub.Capture.StartupRecovery
import InspectionHub.RecipientAccess.SingleUse
import InspectionHub.Delivery.Replays
import InspectionHub.Approvals.Independence
import InspectionHub.Approvals.Withdrawal
import InspectionHub.Inspection.PacketSources
import InspectionHub.Database.FindingHistory
import InspectionHub.Database.DurabilityRecords
import InspectionHub.Database.InvestigationClosing
import InspectionHub.Database.RateLimits
import InspectionHub.Database.EventDigest
import InspectionHub.Inspection.EvidenceOrder
import InspectionHub.Storage.Acceptance
import InspectionHub.Storage.Durability
import InspectionHub.Storage.TenantReports
import InspectionHub.Inspection.SavedRevisions
import InspectionHub.Review.VerifierPasses
import InspectionHub.Agent.DraftIntegrity
import InspectionHub.Agent.SkillPins
import InspectionHub.TaskQueue.WorkerCycles
import InspectionHub.Reporting.PdfStructure
import InspectionHub.Reporting.JobPublications
import InspectionHub.Reporting.VersionNumbers
import InspectionHub.Agreements.Signing
import InspectionHub.Agent.ReadOnlyVerifier
import InspectionHub.Database.TaskGraph
import InspectionHub.Database.EgressFlips
import InspectionHub.Database.RuntimeGuard
import InspectionHub.Database.EventReplay
import InspectionHub.Database.ModulePointers
import InspectionHub.Database.EvidenceAssignments
import InspectionHub.Database.RecipientCapabilities
import InspectionHub.Database.RecipientFinality
import InspectionHub.Database.WithdrawalOrder
import InspectionHub.Database.LifecycleHolds
