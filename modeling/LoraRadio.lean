import LoraRadio.Airtime
import LoraRadio.Bandwidth
import LoraRadio.Bench
import LoraRadio.Bus
import LoraRadio.Bus.Deferred
import LoraRadio.Carrier
import LoraRadio.Checked
import LoraRadio.Chip
import LoraRadio.Configuration
import LoraRadio.Coroutine
import LoraRadio.Failure
import LoraRadio.Operation
import LoraRadio.Radio.Deferred
import LoraRadio.Radio.Inspection
import LoraRadio.Radio.Receive
import LoraRadio.Radio.Settings
import LoraRadio.Radio.Startup
import LoraRadio.Radio.State
import LoraRadio.Radio.Transmit
import LoraRadio.Register.Basic
import LoraRadio.Register.FrontEnd
import LoraRadio.Register.Interrupt
import LoraRadio.Register.Modem
import LoraRadio.Register.Number
import LoraRadio.Register.OperatingMode
import LoraRadio.Register.Reception
import LoraRadio.RegisterName
import LoraRadio.Session
import LoraRadio.Span
import LoraRadio.Trace
import LoraRadio.Proofs.Invariant
import LoraRadio.Proofs.Quiet
import LoraRadio.Proofs.Record
import LoraRadio.Proofs.Completion
import LoraRadio.Proofs.Codec
import LoraRadio.Proofs.Settings
import LoraRadio.Proofs.Bystander
import LoraRadio.Proofs.Chip
import LoraRadio.Proofs.Coherence
import LoraRadio.Proofs.Startup
import LoraRadio.Proofs.Transmission
import LoraRadio.Proofs.Stops
import LoraRadio.Proofs.Startable
import LoraRadio.Proofs.Enduring
import LoraRadio.Proofs.Lasting
import LoraRadio.Proofs.CoherentSession
import LoraRadio.Proofs.Lifecycle
import LoraRadio.Proofs.Abandonment
import LoraRadio.Proofs.PersistentSession
import LoraRadio.Proofs.Airtime
import LoraRadio.Proofs.Staging
import LoraRadio.Proofs.TransmitWait
import LoraRadio.Proofs.SendAgreement
import LoraRadio.Proofs.Reception
import LoraRadio.Proofs.OutOfService
import LoraRadio.Proofs.Bits
import LoraRadio.Proofs.Footprint
import LoraRadio.Proofs.KnownBits
import LoraRadio.Proofs.LastSetting
import LoraRadio.Proofs.Retry
import LoraRadio.Proofs.LifecycleAgreement
import LoraRadio.Proofs.Safety
import LoraRadio.Proofs.SafeSession
import LoraRadio.Proofs.BusDiscipline
import LoraRadio.Proofs.DisciplinedSession
import LoraRadio.Proofs.Listening
import LoraRadio.Proofs.ListeningSession
import LoraRadio.Proofs.RegisterLayout
import LoraRadio.Proofs.ExactAirtime
import LoraRadio.Proofs.ReadHead
import LoraRadio.Proofs.BrokenAppend
import LoraRadio.Proofs.BrokenLook
import LoraRadio.Proofs.BrokenPeek
import LoraRadio.Proofs.CarrierRounding
import LoraRadio.Proofs.DerivedWait
import LoraRadio.Proofs.CarrierOffset
import LoraRadio.Proofs.SynthesizerWord
import LoraRadio.Proofs.BufferedReception
import LoraRadio.Proofs.RegisterAccess
import LoraRadio.Proofs.AirtimeLimits
import LoraRadio.Proofs.BandwidthChoice
import LoraRadio.Proofs.RegisterSnapshot
import LoraRadio.Proofs.TransmitTimeout
