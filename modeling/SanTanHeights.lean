import SanTanHeights.Snapshot.Diff
import SanTanHeights.Snapshot.Supersession
import SanTanHeights.Report.Exactness
import SanTanHeights.Report.Soundness
import SanTanHeights.Publication.Supersession
import SanTanHeights.Publication.Delivery
import SanTanHeights.Release.Chain
import SanTanHeights.Release.Rollout
import SanTanHeights.Release.Generation
import SanTanHeights.Release.Membership
import SanTanHeights.Kernel.Reports
import SanTanHeights.Kernel.AuditTrail
import SanTanHeights.Dependency.Batches
import SanTanHeights.Regeneration.Outcomes
import SanTanHeights.Operations.Replay
import SanTanHeights.Regeneration.Idempotence
import SanTanHeights.Operations.Repetition
import SanTanHeights.Security.Authentication
import SanTanHeights.Security.Responses
import SanTanHeights.Renderer.Injection
import SanTanHeights.Renderer.SlotBinders
import SanTanHeights.Community.Application
import SanTanHeights.Report.Fallbacks
import SanTanHeights.Report.Persistence
import SanTanHeights.Community.Bitemporal
import SanTanHeights.Community.Tampering
import SanTanHeights.Listing.Recovery
import SanTanHeights.Seller.Readiness
import SanTanHeights.Seller.Locality
import SanTanHeights.Seller.ReplayMetrics
import SanTanHeights.Seller.Classification
import SanTanHeights.Community.Frames
import SanTanHeights.Activation.Accounting
import SanTanHeights.Listing.PolicyPromotion
import SanTanHeights.Publication.AllOrNothing
import SanTanHeights.Scenario.Replay
import SanTanHeights.Activation.ControlledPublication
import SanTanHeights.Listing.OperationalLearning
import SanTanHeights.Certification.Rollback
import SanTanHeights.Certification.ShadowAcceptance
import SanTanHeights.Seller.Timeline
import SanTanHeights.Kernel.Contracts
import SanTanHeights.Presentation.Changes
import SanTanHeights.Scenario.Comparison
