import TagControl.Act
import TagControl.Advertising
import TagControl.Bench
import TagControl.Button
import TagControl.Config
import TagControl.Config.Codec
import TagControl.Config.Varint
import TagControl.Controller
import TagControl.Controller.Windows
import TagControl.Device
import TagControl.Engine
import TagControl.Event
import TagControl.Failure
import TagControl.Gate
import TagControl.Handler
import TagControl.KeyRing
import TagControl.Ledger
import TagControl.Light
import TagControl.Log
import TagControl.Mode
import TagControl.Payload
import TagControl.Peripherals
import TagControl.Provisioning
import TagControl.ReadWindows
import TagControl.Reset
import TagControl.Startup
import TagControl.Store
import TagControl.Store.Faulty
import TagControl.Store.Settings
import TagControl.Tag
import TagControl.Time
import TagControl.TimedMode
import TagControl.Timers
import TagControl.Traced
import TagControl.Uptime
import TagControl.Proofs.Abandonment
import TagControl.Proofs.AdvertisingPolicy
import TagControl.Proofs.Callbacks
import TagControl.Proofs.Codec
import TagControl.Proofs.Config
import TagControl.Proofs.Controller
import TagControl.Proofs.Deadlines
import TagControl.Proofs.Delivery
import TagControl.Proofs.Directed
import TagControl.Proofs.Directions
import TagControl.Proofs.Engine
import TagControl.Proofs.Erasure
import TagControl.Proofs.Exits
import TagControl.Proofs.FirstKey
import TagControl.Proofs.Frame
import TagControl.Proofs.GateSafety
import TagControl.Proofs.Gestures
import TagControl.Proofs.Granularity
import TagControl.Proofs.Handler
import TagControl.Proofs.Independence
import TagControl.Proofs.KeyConsistency
import TagControl.Proofs.KeyRing
import TagControl.Proofs.KeySlots
import TagControl.Proofs.LaterKeys
import TagControl.Proofs.Mirror
import TagControl.Proofs.Mismatch
import TagControl.Proofs.OpenWindows
import TagControl.Proofs.Passes
import TagControl.Proofs.PendingReset
import TagControl.Proofs.Places
import TagControl.Proofs.ProvisionedMark
import TagControl.Proofs.Provisioning
import TagControl.Proofs.ProvisioningTimeout
import TagControl.Proofs.ReadWindows
import TagControl.Proofs.Reset
import TagControl.Proofs.ResetLaw
import TagControl.Proofs.Run
import TagControl.Proofs.Settings
import TagControl.Proofs.Startup
import TagControl.Proofs.TimedMode
import TagControl.Proofs.Timers
import TagControl.Proofs.Trace
import TagControl.Proofs.Turns
import TagControl.Proofs.Varint
import TagControl.Proofs.WakeUp
import TagControl.Proofs.Waveform
import TagControl.Proofs.WindowLaw
import TagControl.Proofs.Windows
import TagControl.Proofs.WindowsInStep
