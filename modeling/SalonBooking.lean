import SalonBooking.Calendar.Date
import SalonBooking.Calendar.Time
import SalonBooking.Calendar.DateTime
import SalonBooking.Calendar.Iso
import SalonBooking.Zone.Basic
import SalonBooking.Zone.Rule
import SalonBooking.Zone.Record
import SalonBooking.Zone.Catalog
import SalonBooking.Zone.Convert
import SalonBooking.Json
import SalonBooking.Uuid
import SalonBooking.Reservation.Status
import SalonBooking.Error
import SalonBooking.Policy
import SalonBooking.Pricing
import SalonBooking.Selection
import SalonBooking.Catalog
import SalonBooking.Line
import SalonBooking.Link.Token
import SalonBooking.Console.Read
import SalonBooking.Console.Handles
import SalonBooking.Console.Answer
import SalonBooking.Console.Ops
import SalonBooking.Console.Command
import SalonBooking.Reservation.Basic
import SalonBooking.Audit
import SalonBooking.Link.Basic
import SalonBooking.Database
import SalonBooking.Reservation.Write
import SalonBooking.Reservation.Query
import SalonBooking.Booking
import SalonBooking.Link.Service
import SalonBooking.Console.Views
import SalonBooking.Console.Labels
import SalonBooking.Console.Session
import SalonBooking.Console.Http
import SalonBooking.Console.Script
import SalonBooking.Console.Maintenance
import SalonBooking.Schema.Basic
import SalonBooking.Schema.Ddl
import SalonBooking.Schema.Initial
import SalonBooking.Demo
import SalonBooking.Api.Message
import SalonBooking.Api.Temporal
import SalonBooking.Api.Field
import SalonBooking.Api.Access
import SalonBooking.Api.Form
import SalonBooking.Api.Body
import SalonBooking.Api.Route
import SalonBooking.Api.Service
import SalonBooking.KeyedLock
import SalonBooking.Main
import SalonBooking.Proofs.Transactions
import SalonBooking.Proofs.StoreWrites
import SalonBooking.Proofs.Flows
import SalonBooking.Proofs.Calls
import SalonBooking.Proofs.Consistency
import SalonBooking.Proofs.Conflicts
import SalonBooking.Proofs.Lifecycle
import SalonBooking.Proofs.Invariants
import SalonBooking.Proofs.Idempotency
import SalonBooking.Proofs.Aggregates
import SalonBooking.Proofs.LinkScopes
import SalonBooking.Proofs.TenantRows
import SalonBooking.Proofs.Confinement
import SalonBooking.Proofs.Isolation
import SalonBooking.Proofs.Requests
import SalonBooking.Proofs.Ownership
import SalonBooking.Proofs.AuditTrail
import SalonBooking.Proofs.Unanswered
import SalonBooking.Proofs.SlotEnds
import SalonBooking.Proofs.Instants
import SalonBooking.Proofs.CancelDeadline
import SalonBooking.Proofs.Rescheduling
import SalonBooking.Proofs.OffsetChanges
import SalonBooking.Proofs.Years
import SalonBooking.Proofs.YearlyRules
import SalonBooking.Proofs.ZoneOrder
import SalonBooking.Proofs.ZoneReadings
import SalonBooking.Proofs.ZoneCatalog
import SalonBooking.Proofs.BookedSlots
import SalonBooking.Proofs.Pages
import SalonBooking.Proofs.Statistics
import SalonBooking.Proofs.Selections
import SalonBooking.Proofs.LinkResolution
import SalonBooking.Proofs.Tokens
import SalonBooking.Proofs.ChannelFallback
import SalonBooking.Proofs.KeyedLocks
import SalonBooking.Proofs.ZoneOffsets
import SalonBooking.Proofs.PolicyRange
import SalonBooking.Proofs.WallClock
