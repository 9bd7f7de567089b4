import CfsTelemetry.Uplink.Gating
import CfsTelemetry.Feedback.Retransmission
import CfsTelemetry.Bridge.Abandon
import CfsTelemetry.Bridge.Liveness
import CfsTelemetry.Bridge.Readbacks
import CfsTelemetry.Bridge.Parser
import CfsTelemetry.Core.Restarts
import CfsTelemetry.Core.ClockBase
import CfsTelemetry.Core.BridgeRestart
import CfsTelemetry.Lora.Lossless
import CfsTelemetry.Ground.Delivery
import CfsTelemetry.Uplink.Replay
import CfsTelemetry.Feedback.Checksum
import CfsTelemetry.Ground.TextLine
import CfsTelemetry.Ground.Sessions
import CfsTelemetry.Mission.Snapshot
import CfsTelemetry.Uplink.BootLoop
import CfsTelemetry.Uplink.Phantom
import CfsTelemetry.Mission.ConfigRange
import CfsTelemetry.Mission.Scopes
import CfsTelemetry.Mission.CrashSafety
import CfsTelemetry.Lora.LinkLaw
import CfsTelemetry.Lora.Reopen
import CfsTelemetry.Mission.Streams
import CfsTelemetry.Mission.TimeBase
import CfsTelemetry.Uplink.Counters
import CfsTelemetry.Mission.RouteUpdates
import CfsTelemetry.Core.Rejection
import CfsTelemetry.Bridge.Corruption
import CfsTelemetry.Bridge.Truncation
import CfsTelemetry.Bridge.Edits
import CfsTelemetry.Bridge.Foreign
import CfsTelemetry.Ground.WrittenFields
import CfsTelemetry.Ground.Chunks
import CfsTelemetry.Ground.Resync
import CfsTelemetry.Ground.Bursts
import CfsTelemetry.Mission.ConfigAtomic
import CfsTelemetry.Bridge.ItemRequests
import CfsTelemetry.Bridge.UploadReadback
import CfsTelemetry.Flight.Results
import CfsTelemetry.Flight.Missions
import CfsTelemetry.Flight.Settings
import CfsTelemetry.Flight.Relays
import CfsTelemetry.Ground.ConfigSender
import CfsTelemetry.Ground.ModeSender
import CfsTelemetry.Mission.Telemetry
import CfsTelemetry.Mission.Acknowledgements
import CfsTelemetry.Flight.Contact
import CfsTelemetry.Mission.Cycles
