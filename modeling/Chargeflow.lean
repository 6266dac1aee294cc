import Chargeflow.Foundation.Table
import Chargeflow.Foundation.Evolution
import Chargeflow.Foundation.Ownership
import Chargeflow.Foundation.Transitions
import Chargeflow.Foundation.Log
import Chargeflow.Foundation.CompareAndSet
import Chargeflow.Foundation.Calendar
import Chargeflow.Foundation.Values
import Chargeflow.Foundation.Encoding
import Chargeflow.Foundation.Casing
import Chargeflow.Foundation.Locks
import Chargeflow.Foundation.LockPrograms
import Chargeflow.Foundation.Deadlocks
import Chargeflow.Domain.Subscriptions
import Chargeflow.Domain.Invoices
import Chargeflow.Domain.Payments
import Chargeflow.Domain.Accounts
import Chargeflow.Database
import Chargeflow.Persistence
import Chargeflow.Instances
import Chargeflow.Application.InvoiceService
import Chargeflow.Application.SubscriptionService
import Chargeflow.Application.Gateway
import Chargeflow.Application.Signature
import Chargeflow.Application.PaymentService
import Chargeflow.Application.Dunning
import Chargeflow.Api.Requests
import Chargeflow.Api.Accounts
import Chargeflow.Effects.Saving
import Chargeflow.Effects.Billing
import Chargeflow.Effects.Lifecycle
import Chargeflow.Effects.Preparation
import Chargeflow.Effects.Settlement
import Chargeflow.Effects.Receipts
import Chargeflow.Effects.Fingerprints
import Chargeflow.Effects.Writes
import Chargeflow.Effects.Instances
import Chargeflow.Effects.Agreement
import Chargeflow.Books.History
import Chargeflow.Books.Links
import Chargeflow.Books.Standing
import Chargeflow.Books.Coupling
import Chargeflow.Books.Keys
import Chargeflow.Books.Periods
import Chargeflow.Books.Receipts
import Chargeflow.Books.Issues
import Chargeflow.Books.Closing
import Chargeflow.Books.Rounds
import Chargeflow.Books.ChargeState
import Chargeflow.System.Operations
import Chargeflow.System.Writes
import Chargeflow.System.Tenancy
import Chargeflow.System.Settling
import Chargeflow.System.Handoffs
import Chargeflow.System.Dunning
import Chargeflow.System.Arrears
import Chargeflow.System.Callers
import Chargeflow.System.ChargeState
import Chargeflow.System.Deliveries
import Chargeflow.System.Provider
import Chargeflow.System.Prices
import Chargeflow.System.Ledger
import Chargeflow.System.Charging
import Chargeflow.System.GatewayCalls
import Chargeflow.System.Memberships
import Chargeflow.Properties.Memberships
import Chargeflow.Foundation.Renaming
import Chargeflow.Foundation.Backfill
import Chargeflow.Domain.Legacy
import Chargeflow.Application.Migrations
import Chargeflow.Effects.Migrations
import Chargeflow.Properties.Migrations
import Chargeflow.Effects.Cycles
import Chargeflow.System.Clock
import Chargeflow.System.Cycles
import Chargeflow.Properties.Cycles
import Chargeflow.System.Retries
import Chargeflow.System.Saves
import Chargeflow.System.Interleaving
import Chargeflow.Properties.Coupling
import Chargeflow.Properties.Reconciliation
import Chargeflow.Properties.IdempotencyKeys
import Chargeflow.Properties.Periods
import Chargeflow.Properties.PeriodArithmetic
import Chargeflow.Properties.History
import Chargeflow.Properties.Issues
import Chargeflow.Properties.Charges
import Chargeflow.Properties.Commits
import Chargeflow.Properties.Settlements
import Chargeflow.Properties.Webhooks
import Chargeflow.Properties.Retries
import Chargeflow.Properties.Dunning
import Chargeflow.Properties.Arrears
import Chargeflow.Properties.Transitions
import Chargeflow.Properties.Tenancy
import Chargeflow.Properties.LateFailures
import Chargeflow.Properties.Prices
import Chargeflow.Properties.GatewayCalls
import Chargeflow.Properties.Signatures
import Chargeflow.Properties.Authorization
import Chargeflow.Application.RowLocks
import Chargeflow.Effects.RowLocks
import Chargeflow.System.LockOrder
import Chargeflow.Properties.Deadlocks
import Chargeflow.Foundation.TwoRuns
import Chargeflow.Api.ViewSets
import Chargeflow.Effects.Requests
import Chargeflow.Effects.Twins
import Chargeflow.Effects.TwinServices
import Chargeflow.Effects.TwinViewSets
import Chargeflow.Properties.NonInterference
import Chargeflow.Api.AccountViews
import Chargeflow.System.Server
import Chargeflow.Properties.Provenance
import Chargeflow.Properties.ApiKeys
import Chargeflow.Properties.Collection
import Chargeflow.Properties.Refusals
import Chargeflow.Properties.Takings
import Chargeflow.Properties.WebhookView
import Chargeflow.Properties.Renewals
