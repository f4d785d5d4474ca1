import Ocreg.Proofs.Representation
import Ocreg.Proofs.RetirementFence
import Ocreg.Proofs.Generations
import Ocreg.Proofs.CurrentEvidence
import Ocreg.Proofs.FailedAdmission
import Ocreg.Proofs.BootFence
import Ocreg.Proofs.Decisions
import Ocreg.Proofs.StateCodec
import Ocreg.Proofs.Snapshots
import Ocreg.Proofs.Conservation
import Ocreg.Proofs.Crashes
import Ocreg.Proofs.RefusedOpen
import Ocreg.Proofs.Restarts
import Ocreg.Proofs.DeliveryOrder
import Ocreg.Proofs.Interleaving
import Ocreg.Proofs.Connections
import Ocreg.Proofs.Resolutions
import Ocreg.Proofs.Redelivery
import Ocreg.Proofs.TornTails
import Ocreg.Proofs.EmptiedStreams
import Ocreg.Proofs.Demotions
import Ocreg.Proofs.DecisionIds
import Ocreg.Proofs.TableBounds
import Ocreg.Proofs.Conversions
import Ocreg.Proofs.Versions
import Ocreg.Proofs.Weakening
import Ocreg.Proofs.SnapshotDamage
import Ocreg.Proofs.Truncation
import Ocreg.Proofs.Allocation
import Ocreg.Wire.RoundTrips
import Ocreg.Wire.Threads
import Ocreg.Wire.Client
import Ocreg.Proofs.Unicode
import Ocreg.Core.Checked
import Ocreg.Core.UnitText
import Ocreg.Tools.Support
import Ocreg.Proofs.Remote
import Ocreg.Tools.Daemon
