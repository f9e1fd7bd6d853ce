import VsomeipDart.WorkerEvents
import VsomeipDart.ResponseAddress
import VsomeipDart.Offers
import VsomeipDart.Requests
import VsomeipDart.Subscriptions
import VsomeipDart.Patterns
import VsomeipDart.MessageFlow
import VsomeipDart.SignalIsolation
import VsomeipDart.ExactSample
import VsomeipDart.FilterRecovery
import VsomeipDart.SortCalls
import VsomeipDart.RingBufferRuns
import VsomeipDart.SharedFilters
import VsomeipDart.Texts
import VsomeipDart.Teardown
import VsomeipDart.HandleRefinement
import VsomeipDart.EventLoop
import VsomeipDart.EventFlow
import VsomeipDart.Configuration
import VsomeipDart.Capnp
import VsomeipDart.Throttling
import VsomeipDart.ThrottleSpacing
import VsomeipDart.ClientClose
import VsomeipDart.SchemaFiles
import VsomeipDart.CapnpRoundTrip
import VsomeipDart.CapnpService
import VsomeipDart.WallClock
import VsomeipDart.FilterAllocation
import VsomeipDart.ServiceCalls
import VsomeipDart.RingBufferWeakRuns
import VsomeipDart.SchemaEvolution
import VsomeipDart.FilterThreads
import VsomeipDart.FlightTelemetry
import VsomeipDart.PostOwnership
import VsomeipDart.SignalStreams
import VsomeipDart.CapnpMembers
import VsomeipDart.CockpitOwnershipRuns
import VsomeipDart.PublishedRecords
