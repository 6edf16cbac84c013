import Reclock.Bench.Calls
import Reclock.Bench.Logging
import Reclock.Bench.Masks
import Reclock.Mmio
import Reclock.Register.Flags
import Reclock.SetWay
import Reclock.Timing.Blob
import Reclock.Proofs.LogOrder
import Reclock.Proofs.Membership
import Reclock.Proofs.Monitor
import Reclock.Proofs.Protocol
import Reclock.Proofs.Conduct
import Reclock.Proofs.Cluster
import Reclock.Proofs.Custody
import Reclock.Proofs.View
import Reclock.Proofs.Quiescence
import Reclock.Proofs.Progress
import Reclock.Proofs.Wakeup
import Reclock.Proofs.Interference
import Reclock.Proofs.Aftermath
import Reclock.Proofs.Record
import Reclock.Proofs.SingleFlight
import Reclock.Proofs.Trace
import Reclock.Proofs.Reserved
import Reclock.Proofs.Footprint
import Reclock.Proofs.Words
import Reclock.Proofs.StepOrder
import Reclock.Proofs.Timeouts
import Reclock.Proofs.Runs
import Reclock.Proofs.Rest
import Reclock.Proofs.Outcome
import Reclock.Proofs.Containment
import Reclock.Proofs.Passage
import Reclock.Proofs.HardwareState
import Reclock.Proofs.Programming
import Reclock.Proofs.Service
import Reclock.Proofs.Installation
import Reclock.Proofs.PowerCycle
import Reclock.Proofs.Success
import Reclock.Proofs.History
import Reclock.Proofs.Switching
import Reclock.Proofs.RoundTrip
import Reclock.Proofs.Lifecycle
import Reclock.Proofs.Refusal
import Reclock.Proofs.Endurance
import Reclock.Proofs.Upkeep
import Reclock.Proofs.FaultFree
import Reclock.Proofs.Operational
import Reclock.Proofs.SpeedSelect
import Reclock.Proofs.TrainedOrigin
import Reclock.Proofs.Attainment
import Reclock.Proofs.Brackets
import Reclock.Proofs.DescentOrder
import Reclock.Proofs.Ascent
import Reclock.Proofs.AscentOrder
import Reclock.Proofs.TableFormat
import Reclock.Proofs.CallDispatch
import Reclock.Proofs.ModeSequence
import Reclock.Proofs.Story
import Reclock.Proofs.Gathering
import Reclock.Proofs.LogSilence
import Reclock.Proofs.PllOutput
import Reclock.Proofs.CacheWalk
import Reclock.Proofs.BypassRatio
import Reclock.Proofs.Handshake
import Reclock.Proofs.Polling
import Reclock.Proofs.StatusRegisters
import Reclock.Proofs.Reapplication
import Reclock.Proofs.MappedRegisters
import Reclock.Proofs.FiniteSet
