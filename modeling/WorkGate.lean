import WorkGate.CountedTask
import WorkGate.Deployment
import WorkGate.Main
import WorkGate.Proofs.Gatekeeper.Operations
import WorkGate.Proofs.Since
import WorkGate.Proofs.Gatekeeper.Session
import WorkGate.Proofs.Gatekeeper.Ledger
import WorkGate.Proofs.Difficulty.Law
import WorkGate.Proofs.Gatekeeper.Verdict
import WorkGate.Proofs.Gatekeeper.Replay
import WorkGate.Proofs.Difficulty.Machine
import WorkGate.Proofs.Difficulty.Recovery
import WorkGate.Proofs.Registrar.Session
import WorkGate.Proofs.Registrar.Rejection
import WorkGate.Proofs.Registrar.Tenants
import WorkGate.Proofs.Bytes
import WorkGate.Proofs.Json.Grammar
import WorkGate.Proofs.Registrar.Binding
import WorkGate.Proofs.Registrar.Solves
import WorkGate.Proofs.Json.Lexing
import WorkGate.Proofs.Json.Building
import WorkGate.Proofs.Json.Layout
import WorkGate.Proofs.Json.Reading
import WorkGate.Proofs.Json.Printing
import WorkGate.Proofs.Registration
import WorkGate.Proofs.Client
import WorkGate.Proofs.Registrar.Challenges
import WorkGate.Proofs.Registrar.Honest
import WorkGate.Proofs.Registrar.Refusal
import WorkGate.Proofs.Table.Alike
import WorkGate.Proofs.Registrar.Alike
import WorkGate.Proofs.Registrar.Commutation
import WorkGate.Proofs.Lifecycle.Challenges
import WorkGate.Proofs.Lifecycle.Conservation
import WorkGate.Proofs.Difficulty.Tightening
import WorkGate.Proofs.Difficulty.Accuracy
import WorkGate.Proofs.Difficulty.Load
import WorkGate.Proofs.Gatekeeper.Trail
import WorkGate.Proofs.Registrar.Precedence
import WorkGate.Proofs.Lifecycle.Sweeping
import WorkGate.Proofs.Gatekeeper.Retention
import WorkGate.Proofs.Policy
import WorkGate.Proofs.Gatekeeper.Creation
import WorkGate.Proofs.Schedule.PeriodicTask
import WorkGate.Proofs.Schedule.Agenda
import WorkGate.Proofs.Schedule.Phases
import WorkGate.Proofs.Schedule.Background
import WorkGate.Proofs.Hex
import WorkGate.Proofs.HexCodec
import WorkGate.Proofs.Text.Unsigned
import WorkGate.Proofs.Registrar.FirstTicket
import WorkGate.Proofs.Settings
import WorkGate.Proofs.Gatekeeper.Pace
import WorkGate.Proofs.Startup
import WorkGate.Proofs.Schedule.Counts
import WorkGate.Proofs.Schedule.CountedTask
import WorkGate.Proofs.TenantStore
import WorkGate.Proofs.Registration.RoundTrip
