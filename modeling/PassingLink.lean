import PassingLink.Display.Calls
import PassingLink.Display.Draw
import PassingLink.Display.Font
import PassingLink.Display.Front
import PassingLink.Display.Location
import PassingLink.Display.Menu
import PassingLink.Display.Mirror
import PassingLink.Display.Paint
import PassingLink.Display.Screen
import PassingLink.Display.Text
import PassingLink.Display.Window
import PassingLink.Input.Building
import PassingLink.Input.ButtonGrammar
import PassingLink.Input.Debounce
import PassingLink.Input.Device
import PassingLink.Input.External
import PassingLink.Input.Gesture
import PassingLink.Input.LastInput
import PassingLink.Input.LockSwitch
import PassingLink.Input.LockTick
import PassingLink.Input.Machine
import PassingLink.Input.MacroDebounce
import PassingLink.Input.MenuIsolation
import PassingLink.Input.MenuProtocol
import PassingLink.Input.Ownership
import PassingLink.Input.Parse
import PassingLink.Input.Playback
import PassingLink.Input.Profile
import PassingLink.Input.Queue
import PassingLink.Input.QueueStorage
import PassingLink.Input.Readers
import PassingLink.Input.Shell
import PassingLink.Input.Socd
import PassingLink.Input.SocdReference
import PassingLink.Input.Touchpad
import PassingLink.Input.TouchpadTracking
import PassingLink.Input.Types
import PassingLink.Input.Uninitialised
import PassingLink.Lib.Atomic
import PassingLink.Lib.Attempts
import PassingLink.Lib.Average
import PassingLink.Lib.BitFields
import PassingLink.Lib.Bitmap
import PassingLink.Lib.Buffer
import PassingLink.Lib.Chain
import PassingLink.Lib.Greatest
import PassingLink.Lib.Pool
import PassingLink.Lib.Reassembly
import PassingLink.Lib.Refresh
import PassingLink.Lib.Runs
import PassingLink.Lib.Text
import PassingLink.Memory.Malloc
import PassingLink.Memory.Provisioning
import PassingLink.Metrics.MovingAverage
import PassingLink.Metrics.Profiler
import PassingLink.Opt.CameraTracking
import PassingLink.Opt.Gundam
import PassingLink.Output.Detection
import PassingLink.Output.GetReport
import PassingLink.Output.Led
import PassingLink.Output.LedTokens
import PassingLink.Output.Probe
import PassingLink.Output.Pump
import PassingLink.Output.Reports
import PassingLink.Output.SetReport
import PassingLink.Ps4.Atomicity
import PassingLink.Ps4.Auth
import PassingLink.Ps4.Hid
import PassingLink.Ps4.History
import PassingLink.Ps4.Interleaving
import PassingLink.Ps4.Machine
import PassingLink.Ps4.NonceIntegrity
import PassingLink.Ps4.NonceReport
import PassingLink.Ps4.Phase
import PassingLink.Ps4.Progress
import PassingLink.Ps4.Serial
import PassingLink.Ps4.Signature
import PassingLink.Ps4.SignatureCopy
import PassingLink.Ps4.Transport
import PassingLink.Display.Panel
import PassingLink.Display.Settings
import PassingLink.Lib.HidDescriptor
import PassingLink.Output.Descriptor
import PassingLink.Lib.Fairness
import PassingLink.Ps4.Authentication
import PassingLink.Lib.Slots
import PassingLink.Input.GpioPorts
import PassingLink.Lib.Refinement
import PassingLink.Output.Firmware
import PassingLink.Output.PlayerLeds
import PassingLink.Input.Held
import PassingLink.Output.HeldReport
import PassingLink.Output.Resume
import PassingLink.Memory.ProvisioningBoot
