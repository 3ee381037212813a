import Plank.Transition.System
import Plank.Lane.Gate
import Plank.Transport.Result
import Plank.Camera.Record
import Plank.Camera.Lane
import Plank.Camera.Effect
import Plank.Camera.Dependency
import Plank.Camera.Isolation
import Plank.Camera.Keys
import Plank.Camera.LinkLaw
import Plank.Microphone.Lane
import Plank.Microphone.Isolation
import Plank.Lane.Reverse
import Plank.Auth.Policy
import Plank.Auth.Session
import Plank.Auth.Effect
import Plank.Auth.History
import Plank.Auth.Authority
import Plank.Auth.Credential
import Plank.Auth.Freshness
import Plank.Native.Config
import Plank.Native.Lifecycle
import Plank.Native.Operation
import Plank.Native.Authorization
import Plank.Native.Fingerprint
import Plank.Queue.Reliable
import Plank.Native.Reliable
import Plank.Queue.Replaceable
import Plank.Native.Media
import Plank.Sync.Notify
import Plank.Sync.Outbox
import Plank.Sync.Inbox
import Plank.Native.Wakeup
import Plank.Native.Blocking
import Plank.Trace.Press
import Plank.Program.Triple
import Plank.Input.Mapper
import Plank.Input.Held
import Plank.Input.Release
import Plank.Input.Tablet
import Plank.Input.Pen
import Plank.Input.PenRelease
import Plank.Clipboard.Transfer
import Plank.Control.Hygiene
import Plank.Control.RequestLaw
import Plank.Capture.Gating
import Plank.Preview.Tuning
import Plank.Audio.TapOverrun
import Plank.Audio.PcmLaw
import Plank.Audio.SampleBufferWrap
import Plank.Audio.DriverLaw
import Plank.Agent.AdmissionLaw
import Plank.Agent.Machine
import Plank.Camera.Header
import Plank.Microphone.Codec
import Plank.Transport.EnvelopeLaw
import Plank.Lane.AllocationLaw
import Plank.Native.VideoStreamLaw
import Plank.Media.MicrophoneSession
import Plank.Control.MediaFeaturesLaw
import Plank.Device.BrokerRun
import Plank.Device.Served
import Plank.Clipboard.Delivery
import Plank.Clipboard.Scan
import Plank.Media.ReverseClock
import Plank.Transport.RateControlLaw
import Plank.Media.AnnexBLaw
import Plank.Media.AvcLaw
import Plank.Media.JpegLaw
import Plank.Media.CameraSampleLaw
import Plank.Media.CameraClock
import Plank.Audio.OpusTimelineLaw
import Plank.Control.DisplayLayoutLaw
import Plank.Output.RoutingLaw
import Plank.Session.DisplayLaw
import Plank.Audio.HalClientsLaw
import Plank.Input.Outcome
import Plank.Control.FixedCaptureLaw
import Plank.Session.DesktopStartLaw
import Plank.Preview.Lifecycle
import Plank.Preview.LifecycleLaw
import Plank.Camera.Extension
import Plank.Camera.ExtensionLaw
import Plank.Media.CameraOutput
import Plank.Control.MediaSelection
