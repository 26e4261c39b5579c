import Switchboard.Broadcast
import Switchboard.Config.File
import Switchboard.Contract.Details
import Switchboard.Registry.Scope
import Switchboard.Proofs.Course
import Switchboard.Proofs.Registry.EventStream
import Switchboard.Proofs.Registry.Refusal
import Switchboard.Proofs.Registry.Admission
import Switchboard.Proofs.Registry.Naming
import Switchboard.Proofs.Host
import Switchboard.Proofs.Registry.Independence
import Switchboard.Proofs.Registry.Concealment
import Switchboard.Proofs.Contract.Identity
import Switchboard.Proofs.Connection
import Switchboard.Proofs.Registry.Isolation
import Switchboard.Proofs.Contract.Shape
import Switchboard.Proofs.Fingerprint
import Switchboard.Proofs.Round
import Switchboard.Proofs.Contract.Arrangement
import Switchboard.Proofs.Contract.Reordering
import Switchboard.Proofs.Registry.Inventory
import Switchboard.Proofs.Registry.Clearance
import Switchboard.Proofs.Json.Writing
import Switchboard.Proofs.RoundTrip
import Switchboard.Proofs.Enrolment
