import Getupnet.Calendar.Date
import Getupnet.Calendar.Months
import Getupnet.Relational.Store
import Getupnet.Relational.KeyedTable
import Getupnet.Relational.LastWriter
import Getupnet.Relational.Listing
import Getupnet.Relational.Transaction
import Getupnet.Relational.Frame
import Getupnet.Relational.Devices
import Getupnet.Relational.Runs
import Getupnet.Relational.Draining
import Getupnet.Relational.Schedule
import Getupnet.Relational.Replay
import Getupnet.Relational.Totals
import Getupnet.Interaction.Resumption
import Getupnet.Interaction.Program
import Getupnet.IspCore.Fields
import Getupnet.IspCore.Subscription
import Getupnet.IspCore.PlanChangeRequest
import Getupnet.IspCore.ProvisioningJob
import Getupnet.IspCore.ProvisioningJob.Batch
import Getupnet.IspCore.ProvisioningJob.Attempts
import Getupnet.IspCore.Records
import Getupnet.IspCore.ProvisioningJob.Order
import Getupnet.IspCore.ProvisioningJob.Passes
import Getupnet.IspCore.PlanChangeRequest.CatchUp
import Getupnet.IspCore.PlanChangeRequest.Trail
import Getupnet.IspCore.PlanChangeRequest.Workflow
import Getupnet.IspCore.PlanChangeRequest.Orderly
import Getupnet.IspMikrotik.RouterOS
import Getupnet.IspMikrotik.ProvisioningJob
import Getupnet.IspMikrotik.Frame
import Getupnet.IspMikrotik.Access
import Getupnet.IspMikrotik.Credentials
import Getupnet.IspMikrotik.Dispatch
import Getupnet.IspMikrotik.DryRun
import Getupnet.IspCaptivePortal.RouterOS
import Getupnet.IspCaptivePortal.ProvisioningJob
import Getupnet.IspCaptivePortal.Outcome
import Getupnet.IspBilling.AccountMove
import Getupnet.IspBilling.Subscription
import Getupnet.IspBilling.Reconnection
import Getupnet.IspBilling.Dunning
import Getupnet.IspBilling.Suspension
import Getupnet.IspBilling.Anniversary
import Getupnet.IspBilling.Outage
import Getupnet.IspBilling.PlanChangeOrder
import Getupnet.IspBilling.BankTransferPayment
import Getupnet.IspBilling.Booking
import Getupnet.IspBilling.Review
import Getupnet.Server
import Getupnet.Server.Edits
import Getupnet.Server.Termination
import Getupnet.Server.NextInvoice
import Getupnet.Tools.RouterApi
import Getupnet.Tools.Preloader
import Getupnet.Tools.Preloader.Steps
import Getupnet.Tools.Preloader.Firewall
import Getupnet.Tools.Preloader.Configuration
import Getupnet.Tools.Preloader.Repetition
import Getupnet.Tools.Preloader.Discovery
import Getupnet.Tools.Preloader.Idempotence
import Getupnet.IspMikrotik.Isolation
import Getupnet.IspMikrotik.Router
import Getupnet.IspMikrotik.Routing
import Getupnet.Server.Provenance
import Getupnet.Server.Flapping
import Getupnet.Server.Dunning
import Getupnet.Server.Ledger
import Getupnet.Server.DryRun
import Getupnet.IspMikrotik.PlanUpdates
import Getupnet.Relational.Uniqueness
import Getupnet.Relational.Holding
import Getupnet.IspCore.RecordRules
import Getupnet.IspCore.StaticIp
import Getupnet.IspOnu.Assignment
import Getupnet.IspCore.DeviceSector
import Getupnet.IspCore.DeviceRegistration
import Getupnet.IspBilling.Dashboard
import Getupnet.IspBilling.Revenue
import Getupnet.IspBilling.PortalStatus
import Getupnet.IspBilling.OverdueSectors
import Getupnet.IspCore.Controllers.MacOnboarding
import Getupnet.Python.Value
import Getupnet.Python.Updates
import Getupnet.Tools.Preloader.Merge
import Getupnet.Tools.Preloader.Preconfig
import Getupnet.Tools.Preloader.Fallback
import Getupnet.Tools.Preloader.Scan
import Getupnet.Interaction.Issued
import Getupnet.Interaction.Ends
import Getupnet.Interaction.Trace
import Getupnet.Tools.Preloader.Sector
import Getupnet.Tools.Preloader.Validation
import Getupnet.Tools.Preloader.LeaseEvent
import Getupnet.Tools.Preloader.ManagementInterface
import Getupnet.Tools.Preloader.LastConfiguration
import Getupnet.IspMikrotik.Preconfig
import Getupnet.IspMikrotik.PreconfigChoice
import Getupnet.Tools.Preloader.Delivery
import Getupnet.Relational.Outcome
import Getupnet.Relational.Ranking
import Getupnet.IspPortal.PaymentTransfer
import Getupnet.IspPortal.Submission
import Getupnet.IspPortal.Invoices
import Getupnet.Relational.Pages
import Getupnet.IspPortal.Subscriptions
import Getupnet.IspMikrotik.Delivery
import Getupnet.IspMikrotik.PlanChange
import Getupnet.IspMikrotik.RoundTrip
import Getupnet.IspMikrotik.Atomicity
import Getupnet.IspCaptivePortal.Convergence
import Getupnet.IspCore.Controllers.SectorMemory
import Getupnet.IspMikrotik.Healthcheck
import Getupnet.IspCore.Subscription.Creation
import Getupnet.Python.Base64
import Getupnet.Python.Json
import Getupnet.IspCore.ProvisioningJob.Payload
import Getupnet.IspCaptivePortal.Queue
import Getupnet.Python.Paths
import Getupnet.Python.Text
import Getupnet.Relational.Selection
import Getupnet.Python.Urlencoded
import Getupnet.IspPortal.Attachments
import Getupnet.IspCore.FaultTicket
import Getupnet.IspOnu.Tenure
import Getupnet.Relational.Access
import Getupnet.IspCore.PlanChangeRequest.Due
import Getupnet.IspCore.AccessRights
import Getupnet.IspPortal.AccessErrors
import Getupnet.IspBilling.BillingCycle
import Getupnet.IspBilling.NextCycle
import Getupnet.Tools.Preloader.Leaves
import Getupnet.Tools.Preloader.Find
import Getupnet.Python.Format
import Getupnet.Python.Ipaddress
import Getupnet.Tools.Preloader.Identity
import Getupnet.Tools.Preloader.Sweep
