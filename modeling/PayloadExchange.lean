import PayloadExchange.Registry.Operation
import PayloadExchange.Proofs.Registry.Issuing
import PayloadExchange.Proofs.Json.RoundTrip
import PayloadExchange.Proofs.Boundary.ErrorSlots
import PayloadExchange.Proofs.Registry.Course
import PayloadExchange.Proofs.Registry.Accounting
import PayloadExchange.Proofs.Registry.Capacity
import PayloadExchange.Proofs.Registry.Isolation
import PayloadExchange.Proofs.Boundary.Chronicle
import PayloadExchange.Proofs.Registry.DeadHandles
import PayloadExchange.Proofs.Boundary.Capacity
import PayloadExchange.Proofs.Boundary.DeadCalls
import PayloadExchange.Proofs.Registry.Identity
import PayloadExchange.Proofs.Boundary.StoredObjects
import PayloadExchange.Proofs.Json.Grammar
import PayloadExchange.Proofs.Json.Literals
import PayloadExchange.Proofs.Json.Members
import PayloadExchange.Proofs.Json.Completeness
import PayloadExchange.Proofs.Json.Soundness
import PayloadExchange.Proofs.Json.Language
import PayloadExchange.Proofs.Json.Rearrangement
import PayloadExchange.Proofs.Json.Canonical
import PayloadExchange.Proofs.Boundary.OwnedStrings
import PayloadExchange.Proofs.Boundary.Indifference
import PayloadExchange.Proofs.Registry.Carriers
import PayloadExchange.Proofs.Boundary.Complaints
import PayloadExchange.Proofs.Boundary.Precedence
import PayloadExchange.Proofs.Registry.Locking
import PayloadExchange.Proofs.Registry.Batches
import PayloadExchange.Proofs.Payload.Interleaving
import PayloadExchange.Proofs.Payload.Places
import PayloadExchange.Proofs.Boundary.PayloadRequests
import PayloadExchange.Proofs.Boundary.Independence
import PayloadExchange.Proofs.Payload.ListMachine
import PayloadExchange.Proofs.Boundary.Copying
import PayloadExchange.Proofs.Registry.Assignment
import PayloadExchange.Proofs.Registry.Moving
import PayloadExchange.Proofs.Boundary.OutBlocks
import PayloadExchange.Proofs.Boundary.Popping
import PayloadExchange.Proofs.Boundary.Writing
import PayloadExchange.Proofs.Boundary.Commands
import PayloadExchange.Proofs.Text.Telling
import PayloadExchange.Proofs.Dumps
import PayloadExchange.Proofs.Settings
