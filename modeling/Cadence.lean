import Cadence.Api.Server
import Cadence.Delivery.Layer
import Cadence.Delivery.Scripted
import Cadence.Json.Parser
import Cadence.Json.Printer
import Cadence.Lock.Tasks
import Cadence.Proofs.Agent.Reached
import Cadence.Proofs.Api.Rejected
import Cadence.Proofs.Connector.Promised
import Cadence.Proofs.Enrollment.Registry
import Cadence.Proofs.Lock.Lined
import Cadence.Proofs.Run.Addressed
import Cadence.Proofs.Run.Contained
import Cadence.Proofs.Run.Tabular
import Cadence.Proofs.Service.Astray
import Cadence.Proofs.Service.Leads
import Cadence.Proofs.Service.Listed
import Cadence.Proofs.Service.OnRecord
import Cadence.Proofs.Service.Previewed
import Cadence.Proofs.Service.Retried
import Cadence.Proofs.Service.Unmoved
import Cadence.Proofs.Service.Windowed
import Cadence.Proofs.Workflow.Ledger
import Cadence.Proofs.Workflow.Nights
import Cadence.Proofs.Workflow.Rearranged
import Cadence.Proofs.Workflow.Trail
import Cadence.Run.Markdown
import Cadence.Run.Workflow
import Cadence.Service.Operations
import Cadence.Service.Together
import Cadence.Settings
import Cadence.Timer.Delay
import Cadence.Workflow.Record
