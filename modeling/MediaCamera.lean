import MediaCamera.Ros.Drops
import MediaCamera.Ros.Gaps
import MediaCamera.Ros.Described
import MediaCamera.Stream.Depacketize
import MediaCamera.Stream.AnnexB
import MediaCamera.Plugin.Neutral
import MediaCamera.Plugin.Sessions
import MediaCamera.Plugin.Requests
import MediaCamera.Plugin.BackPressure
import MediaCamera.Plugin.Budget
import MediaCamera.Plugin.Applied
import MediaCamera.Plugin.SameFrame
import MediaCamera.Plugin.Drain
import MediaCamera.Plugin.Lifecycle
import MediaCamera.Plugin.Reactivation
import MediaCamera.Plugin.Identities
import MediaCamera.Plugin.Receipts
import MediaCamera.Plugin.Observers
import MediaCamera.Plugin.CaptureResponse
import MediaCamera.Client.SourceIdentity
import MediaCamera.Client.Intrinsics
import MediaCamera.Client.Placement
import MediaCamera.Plugin.Pairing
import MediaCamera.Plugin.FreshRender
import MediaCamera.Plugin.RtpPacer
import MediaCamera.Plugin.PacingSchedule
import MediaCamera.Plugin.JpegPolicy
import MediaCamera.Client.CameraArguments
import MediaCamera.Control.Dispatch
import MediaCamera.Plugin.FailedLoad
import MediaCamera.Plugin.Teardown
import MediaCamera.Plugin.EndToEnd
import MediaCamera.Gpu.Refinement
import MediaCamera.Gpu.Capture
import MediaCamera.Machine.Beside
import MediaCamera.Client.Reconcile
import MediaCamera.Plugin.Acknowledgment
import MediaCamera.Plugin.Dialog
import MediaCamera.Plugin.Reconciliation
