import PlanCourier.Main
import PlanCourier.Solve.Schedule
import PlanCourier.World
import PlanCourier.Proofs.Command.Documents
import PlanCourier.Proofs.Command.Requests
import PlanCourier.Proofs.Command.Roles
import PlanCourier.Proofs.Json.ReadBack
import PlanCourier.Proofs.Package.Cache
import PlanCourier.Proofs.Package.Names
import PlanCourier.Proofs.Solve.Cadence
import PlanCourier.Proofs.Solve.Interleaving
import PlanCourier.Proofs.Solve.Budget
import PlanCourier.Proofs.Solve.Independence
import PlanCourier.Proofs.Solve.Stopping
import PlanCourier.Proofs.Url.Scheme
import PlanCourier.Proofs.Json.Record
import PlanCourier.Proofs.Solve.Body
import PlanCourier.Proofs.Package.Record
import PlanCourier.Proofs.Solve.PlanRecord
import PlanCourier.Proofs.Files.Growth
import PlanCourier.Proofs.Settings.Kept
import PlanCourier.Proofs.Command.Parts
import PlanCourier.Proofs.Command.History
import PlanCourier.Proofs.Command.Presentation
import PlanCourier.Proofs.Config.Precedence
import PlanCourier.Proofs.Package.Resolution
import PlanCourier.Proofs.Session.Operations
import PlanCourier.Proofs.Package.Choices
import PlanCourier.Proofs.Document.Selection
import PlanCourier.Proofs.Solve.Pending
import PlanCourier.Proofs.Solve.PlanForms
import PlanCourier.Proofs.Order.Stable
import PlanCourier.Proofs.Collection.Browsing
import PlanCourier.Proofs.Document.Choices
import PlanCourier.Proofs.Solve.Diagnostic
import PlanCourier.Proofs.Url.Joining
import PlanCourier.Proofs.Solve.Addresses
import PlanCourier.Proofs.Command.Validation
import PlanCourier.Proofs.Solve.ViewText
import PlanCourier.Proofs.Solve.PlanText
import PlanCourier.Proofs.Collection.Members
import PlanCourier.Proofs.Command.References
import PlanCourier.Proofs.Json.Passing
import PlanCourier.Proofs.Json.Spelling
import PlanCourier.Proofs.Files.Above
import PlanCourier.Proofs.Settings.ReadBack
import PlanCourier.Proofs.Command.Opening
