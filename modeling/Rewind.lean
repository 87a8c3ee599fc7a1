import Rewind.Fingerprint
import Rewind.Listener.Script
import Rewind.Main
import Rewind.Proofs.Failure
import Rewind.Proofs.PathIndependence
import Rewind.Proofs.Reversibility
import Rewind.Proofs.Observation
import Rewind.Proofs.Stream
import Rewind.Proofs.Guard
import Rewind.Proofs.Excursion
import Rewind.Proofs.Playback
import Rewind.Proofs.History
import Rewind.Proofs.Refusal
import Rewind.Proofs.Replica
import Rewind.Proofs.Agreement
import Rewind.Proofs.Exit
import Rewind.Proofs.Violation
import Rewind.Proofs.Concatenation
import Rewind.Proofs.Defined
import Rewind.Proofs.Policy
import Rewind.Proofs.CurrentCommand
import Rewind.Proofs.Respelling
import Rewind.Proofs.Complaints
import Rewind.Proofs.Layers
import Rewind.Proofs.Labels
import Rewind.Proofs.Registrations
import Rewind.Proofs.Identity
import Rewind.Proofs.Canonical
import Rewind.Proofs.Survivor
