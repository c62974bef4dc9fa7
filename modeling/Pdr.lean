import Pdr.StoreProgram.Interleaving
import Pdr.StoreProgram.Table
import Pdr.Core.Types
import Pdr.Core.BitSet
import Pdr.Core.Money
import Pdr.Core.VerifySecrets
import Pdr.Core.TimeZoneName
import Pdr.Billing.Quote
import Pdr.Calendar.Civil
import Pdr.Identity.Core.Secrets
import Pdr.Identity.Core.PasswordCost
import Pdr.Identity.Core.Age
import Pdr.Identity.Core.Person
import Pdr.Identity.Core.OneTimeToken
import Pdr.Identity.Core.Session
import Pdr.Identity.Core.SessionText
import Pdr.Identity.Core.LoginThrottle
import Pdr.Identity.Core.GuardianConsent
import Pdr.Identity.Core.GuardianAccess
import Pdr.Identity.Store.Rows
import Pdr.Identity.Store.Database
import Pdr.Identity.Application.Ports
import Pdr.Identity.Application.OneTimeLinks
import Pdr.Identity.Store.Laws
import Pdr.Identity.Application.SingleUse
import Pdr.Identity.Policies.Policy
import Pdr.Identity.Policies.Combinators
import Pdr.Identity.Policies.PolicySet
import Pdr.Identity.Policies.ContractService
import Pdr.Identity.Application.GrowingUp
import Pdr.Identity.Policies.Watchers
import Pdr.Identity.Application.Attaching
import Pdr.Identity.Application.SigningIn
import Pdr.Identity.Application.Throttling
import Pdr.Identity.Application.OldPassword
import Pdr.Http.Core.Idempotency
import Pdr.Http.Problem
import Pdr.StoreProgram.Automaton
import Pdr.StoreProgram.Beside
import Pdr.StoreProgram.Grounds
import Pdr.StoreProgram.Versions
import Pdr.Http.Store.IdempotencyKeys
import Pdr.Http.AuthorizedHandler
import Pdr.Http.Errand
import Pdr.Http.KeyProtocol
import Pdr.Http.OneEffect
import Pdr.Http.SavedAnswers
import Pdr.Http.ConcurrentTake
import Pdr.Http.SweptKeys
import Pdr.StoreProgram.Sequence
import Pdr.Identity.Application.Onboarding
import Pdr.Identity.Application.Orders
import Pdr.Identity.Application.Outcomes
import Pdr.Identity.Application.ClockSteps
import Pdr.Identity.Application.ConfirmedMail
import Pdr.Identity.Application.WaysIn
import Pdr.Identity.Application.AccessJournal
import Pdr.Identity.Application.GivingConsent
import Pdr.Identity.Application.RightfulConsents
import Pdr.Db.AccountDelete
import Pdr.Db.Timestamps
import Pdr.Identity.Infrastructure.DynamicConfig
import Pdr.Identity.Policies.Payers
import Pdr.Identity.Policies.ComingOfAge
import Pdr.Identity.Policies.LiveScopes
import Pdr.Identity.Policies.RevokedGuardianship
import Pdr.Identity.Application.AttachedMail
import Pdr.StoreProgram.LostUpdate
import Pdr.Identity.Application.ConcurrentSignups
import Pdr.StoreProgram.Serial
import Pdr.StoreProgram.Unwinding
import Pdr.StoreProgram.Confined
import Pdr.Identity.Store.Views
import Pdr.Identity.Application.TenantIsolation
import Pdr.Identity.Application.Provenance
import Pdr.Identity.Application.Ancestry
import Pdr.Identity.Application.ManagePublication
import Pdr.Jobs.Core
import Pdr.Jobs.Store
import Pdr.Jobs.RunPeriodicJob
import Pdr.Jobs.Journal
import Pdr.Jobs.ClosedEntry
import Pdr.Scheduling.Core
import Pdr.Scheduling.BookLesson
import Pdr.Identity.Application.InviteMany
import Pdr.Identity.Store.LetterTable
import Pdr.Identity.Application.LetterSteps
import Pdr.Identity.Application.Letters
import Pdr.StoreProgram.CheckThenAct
import Pdr.Scheduling.OneSlot
import Pdr.Calendar.Order
import Pdr.Identity.Policies.Birthdays
import Pdr.Events.Bus
import Pdr.Events.Registry
import Pdr.Notifications.DeliverDomainEvents
import Pdr.Identity.Application.Announcements
import Pdr.Notifications.WrittenTo
import Pdr.StoreProgram.RowSecurity
import Pdr.Identity.Store.Scope
import Pdr.Identity.Application.DeclaredTenant
import Pdr.Patterns.Search
import Pdr.Observability.ProductEvent
import Pdr.Observability.EventTable
import Pdr.Python.Str
import Pdr.Python.Int
import Pdr.Python.Dict
import Pdr.Python.Files
import Pdr.StoreProgram.Upholds
import Pdr.Migrations.Directory
import Pdr.Migrations.Apply
import Pdr.Migrations.Masking
import Pdr.Migrations.Printed
import Pdr.Migrations.Recorded
import Pdr.Migrations.History
import Pdr.Python.Repr
import Pdr.ProductEvents.Block
import Pdr.ProductEvents.Snapshot
import Pdr.ProductEvents.Lines
import Pdr.ProductEvents.RoundTrip
import Pdr.ProductEvents.Clean
import Pdr.ProductEvents.Published
import Pdr.Identity.Policies.AlreadyGranted
import Pdr.Identity.Application.HandoverTerm
import Pdr.Identity.Application.Thresholds
import Pdr.Identity.Application.Refusals
import Pdr.Identity.Application.ListSending
import Pdr.Counting.LazyWindow
import Pdr.Identity.Application.AttemptWindows
import Pdr.StoreProgram.TwoRuns
import Pdr.Identity.Application.SilentRefusal
import Pdr.Identity.Application.Moderation
import Pdr.Identity.Application.Reacceptance
import Pdr.Patterns.StringView
import Pdr.Identity.Application.ContactList
import Pdr.Quality.Levenshtein
import Pdr.Core.Utf8
import Pdr.Patterns.Fence
import Pdr.Patterns.BarTable
import Pdr.Identity.Policies.Matrix
import Pdr.Identity.Policies.Grants
import Pdr.Identity.Policies.ReadMatrix
import Pdr.Identity.Policies.MatrixDocument
