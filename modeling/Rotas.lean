import Rotas.Billing.NoDoubleBilling
import Rotas.Billing.Fiscal
import Rotas.Billing.PaymentSafety
import Rotas.Accounting.TrialBalance
import Rotas.Workshop.Reservations
import Rotas.Sync.Turns
import Rotas.Clients.OneBalance
import Rotas.Availability.Board
import Rotas.Trips.Papers
import Rotas.Drivers.DrivingTime
import Rotas.Trips.Monitoring
import Rotas.Billing.Listing
import Rotas.Outbox.Drainers
import Rotas.Payables.Paid
import Rotas.Hr.Payroll
import Rotas.Fuel.Counts
import Rotas.Drivers.Reconciliation
import Rotas.Workshop.OneDecision
import Rotas.Billing.Overdue
import Rotas.Workshop.MaintenanceCycle
import Rotas.Auth.SingleUse
import Rotas.DriverApp.Losses
import Rotas.DriverApp.Agreement
import Rotas.Checklists.Evidence
import Rotas.Notifications.Protocol
import Rotas.Billing.IssueContract
import Rotas.Billing.CreditNotes
import Rotas.Fuel.Odometer
import Rotas.TripOrders.InStep
import Rotas.Alerts.RenewedDocuments
import Rotas.Workshop.Deliveries
import Rotas.Workshop.Issues
import Rotas.Workshop.Returns
import Rotas.Workshop.ReceptionNumbers
import Rotas.Workshop.ReleasedOnce
import Rotas.Billing.VoidNeutral
import Rotas.Governance.Reversals
import Rotas.DriverApp.SentPhotos
import Rotas.Alerts.ExpiryWarnings
import Rotas.Fleet.HistoryPages
import Rotas.Contracts.Transitions
import Rotas.Trips.RouteChoice
import Rotas.Billing.CostsOnce
import Rotas.Workshop.RecordReplay
import Rotas.Trips.SlaEscalation
import Rotas.Trips.Overload
import Rotas.Workshop.ToolCustody
import Rotas.Fuel.LogChain
import Rotas.Inventory.Conservation
import Rotas.Tenants.PlanLimits
import Rotas.ControlTower.Despacho
import Rotas.ControlTower.Readiness
import Rotas.Gps.Tracking
import Rotas.Clients.Registered
import Rotas.Sync.Normalisation
import Rotas.Trips.Requirements
import Rotas.Governance.Bootstrap
