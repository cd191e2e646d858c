import MediaCamera.Machine.Rely
import MediaCamera.Ros.System
import MediaCamera.Control.Request
import MediaCamera.Stream.Packets
import MediaCamera.Capture.Snapshot

/-!
# The state of the plugin

One record for each group of members of `XGCMediaCameraPlugin` that the same threads touch:

* `Executor`   the members of the executor thread (`Control.Request`);
* `Native`     the handoff of mutations between the executor and the render thread;
* `CaptureKeyframe`   the handoff of a capture's keyframe;
* `Flags`      the other atomic members;
* `Encoder`    the encoder session and its bookkeeping, of the render thread;
* `RenderView` the other members of the render thread;
* `Snapshot`, `RtpQueue`, `RosState`   the members behind the other mutexes.

`State.log` is not in the source: it lists, newest first, the events that statements about runs
are about.
-/

namespace MediaCamera

/-- the members that are constant after `Load` -/
structure PluginConfig where
  ros : RosConfig
  updateRate : ℚ
  pacingBitrate : Nat
  rtpSocketOpen : Bool
  /-- `snapshotJpegBackend_.useHardware` -/
  useHardware : Bool
  /-- `snapshotJpegBackend_.allowCPUFallback` -/
  allowCPUFallback : Bool
  /-- the `auto` policy without hardware: the preflight error -/
  preflightError : Option String

/-! ## the handoff -/

/-- `failing` and `faulting` are not in the source: `FailNativeEncoderTransition` stands between its
stores of `nativeFailedRevision_` and `desiredActive_`, or of `nativeLifecycleState_` -/
structure Native where
  desiredActive : Bool
  nativeAppliedActive : Bool
  nativeLifecycleState : LifecycleState
  jpegQuality : Int
  nativeCommand : Option NativeControlCommand
  awaitingNativeControl : Option NativeControlCommand
  nativeFailedRevision : Nat
  nativeAppliedRevision : Nat
  nativeAppliedTime : Int
  failing : Bool
  faulting : Bool
  deriving DecidableEq

/-- `nativeCaptureKeyframePending_`, `Applied_` and `Failed_` -/
structure CaptureKeyframe where
  pending : Nat
  applied : Nat
  failed : Nat
  deriving DecidableEq

structure Flags where
  forceKeyframe : Bool
  cleanupEncoderRequested : Bool
  encoderResourcesActive : Bool
  nativeSensorActive : Bool
  rosFreshRenderGeneration : Nat
  rtpInFlight : Bool
  /-- `CameraSourceControlHost::capture_reserved_` -/
  captureReserved : Bool
  /-- another source of the host holds the reservation -/
  reservedElsewhere : Bool
  deriving DecidableEq

/-! ## the render thread -/

inductive FreshRenderDecision where
  | accept
  | discardAndReset
  | waitForSourceTimeChange
  deriving DecidableEq, Repr

structure FreshRenderGate where
  observedGeneration : Nat
  sourceTimeFloorNanoseconds : Option Int
  deriving DecidableEq, Repr

def FreshRenderGate.observe (gate : FreshRenderGate) (requestedGeneration : Nat)
    (sourceTimeNanoseconds : Int) : FreshRenderGate × FreshRenderDecision :=
  if requestedGeneration ≠ gate.observedGeneration then
    (⟨requestedGeneration, some sourceTimeNanoseconds⟩, .discardAndReset)
  else
    match gate.sourceTimeFloorNanoseconds with
    | none => (gate, .accept)
    | some floor =>
      if sourceTimeNanoseconds = floor then (gate, .waitForSourceTimeChange)
      else ({ gate with sourceTimeFloorNanoseconds := none }, .accept)

/-- an NVENC session; `index` and `sourceTimeNanoseconds`, the number of the session and the source
time of the callback that created it, are not in the source -/
structure EncoderSession where
  width : Nat
  height : Nat
  index : Nat
  sourceTimeNanoseconds : Int
  deriving DecidableEq, Repr

/-- `sending`, the metadata argument of a running `SendH264AccessUnit`, is a local variable of the
source -/
structure Encoder where
  session : Option EncoderSession
  pendingEncodedFrames : List PendingEncodedFrame
  lastSourceTimeNanoseconds : Option Int
  encodedFrameIndex : Nat
  sourceFrameSequence : Nat
  encoderEverInitialized : Bool
  sessions : Nat
  sending : Option PendingEncodedFrame
  deriving DecidableEq

/-- `consumersAtCheck`, not in the source, is what the last `CompleteNativeStopIfDrained` read of
`rosConsumersActive_` -/
structure RenderView where
  rosFreshRenderGate : FreshRenderGate
  renderFrameSequence : Nat
  /-- `sensor_->IsActive()` -/
  sensorActive : Bool
  cameraFound : Bool
  listenerAttached : Bool
  consumersAtCheck : Bool
  deriving DecidableEq

/-- `DestroyEncoder`, less its store to `encoderResourcesActive_` -/
def Encoder.destroy (e : Encoder) : Encoder :=
  { e with session := none, pendingEncodedFrames := [], lastSourceTimeNanoseconds := none }

/-! ## the state -/

inductive ControlResponse where
  | error (error : ControlError)
  | descriptor (descriptor : CameraDescriptor)
  | status (status : CameraStatus)
  | configuration (status : CameraStatus)
  /-- a slot of the receipt ring; an empty one is a null document -/
  | receipt (slot : Option Receipt)
  /-- a completed mutation: configuration, receipt and, of a start or stop, `active` -/
  | applied (status : CameraStatus) (receipt : Receipt) (active : Option Bool)
  | capture (response : SnapshotResult) (receipt : Receipt)
  deriving DecidableEq

/-- `desiredActive_` before and after the step that consumed a command -/
structure DemandChange where
  before : Bool
  after : Bool
  deriving DecidableEq

inductive Event where
  | replied (reply : Nat) (response : ControlResponse)
  | admitted (reply : Nat) (kind : ControlKind) (revision : Nat)
  /-- a receipt, with the revision of its mutation -/
  | recorded (mutation : Option Nat) (receipt : Receipt)
  /-- `ApplyNativeControl` consumed a command -/
  | consumed (command : NativeControlCommand) (demand : DemandChange)
  /-- `CompleteNativeControl` stored the revision -/
  | acknowledged (revision : Nat)
  /-- `FailNativeEncoderTransition` stored the revision -/
  | nativeFailed (revision : Nat)
  | keyframeDemanded (generation : Nat)
  | keyframeFailed (generation : Nat)
  /-- the texture, GL or NVENC path of a render callback failed -/
  | encoderFailed
  /-- `EnqueueRTPAccessUnit` returned false -/
  | refused
  /-- `FailNativeEncoderTransition` took the capture generation -/
  | transitionFailed (generation : Nat)
  /-- `EnqueueROSAccessUnit` queued a frame that the session encoded -/
  | enqueued (frame : QueuedROSFrame) (session : Nat)
  /-- a render-target callback begins -/
  | rendering
  /-- `DestroyEncoder` destroyed the session with this number -/
  | destroyed (session : Nat)
  /-- `FailNativeEncoderTransition`, which stored the revision as failed, faults the lifecycle -/
  | faulted (revision : Nat)
  deriving DecidableEq

structure State where
  ctl : Executor
  nat : Native
  cap : CaptureKeyframe
  flags : Flags
  enc : Encoder
  view : RenderView
  snap : Snapshot
  rtp : RtpQueue
  /-- packets handed to the socket, newest first -/
  sent : List QueuedRTPPacket
  rtpSequence : Nat
  ros : RosState
  log : List Event

/-- the steps that conditions on runs name -/
inductive Label where
  | request (operation : String) (request : ControlRequest) (input : Json)
  /-- the section that hands a command over -/
  | admission (requestID : String) (kind : ControlKind) (desired : Configuration)
  /-- the stores that open a capture -/
  | openCapture (requestID : String)
  /-- the store of `nativeCaptureKeyframePending_` -/
  | demandKeyframe
  /-- the store of `appliedConfig_` -/
  | applyConfiguration (pending : PendingControl)
  /-- the section that gives a mutation up -/
  | expirePending (pending : PendingControl)
  /-- the section of `FlushCapture` -/
  | flushCapture (late : Bool)
  /-- the store of `nativeFailedRevision_` -/
  | failNative (command : NativeControlCommand)
  /-- the stores of `nativeAppliedActive_` and `nativeLifecycleState_` that follow a failure -/
  | fault
  /-- the comparison of `ObserveSourceTime` -/
  | observeSourceTime (sourceTimeNanoseconds : Int)
  /-- the pairing of an NVENC output with its metadata -/
  | takeOutput (encoderTimestamp : Nat)
  /-- a call of `SendH264AccessUnit`, with its arguments -/
  | sendUnit (timestamp : UInt32) (metadata : PendingEncodedFrame)
  /-- the section of `EnqueueRTPAccessUnit` -/
  | enqueueRTP (packets : List QueuedRTPPacket) (keyframe : Bool)
  /-- the section of `CompleteSnapshotFailure`, in the work for a capture -/
  | failSnapshot (generation : Nat)
  /-- a call of `PollSnapshotPBOReadback` -/
  | pollReadback
  /-- a call of `IssueSnapshotPBOReadback`, where it submits its frame or gives up -/
  | issueReadback (result : SnapshotResult)
  /-- the first section of the JPEG worker -/
  | takeEncode
  /-- the first section of the pacer -/
  | popRTP
  /-- a step of the ROS side -/
  | ros (action : RosAction)
  | step

abbrev Thread := Prog State Label

def access {α : Type} (f : State → State × α) : Thread α := .atomic .step f

def read {α : Type} (f : State → α) : Thread α := access (fun s => (s, f s))

def write (f : State → State) : Thread Unit := access (fun s => (f s, ()))

/-! ## accesses that several functions make -/

/-- `forceKeyframe_.store(true)` -/
def storeForceKeyframe : Thread Unit := write (fun s => { s with flags.forceKeyframe := true })

def clearRTPQueue : Thread Unit := write (fun s => { s with rtp := s.rtp.clear })

/-- `DestroyEncoder`, with the event of a session that was live -/
def State.destroyEncoder (s : State) : State :=
  { s with
    enc := s.enc.destroy
    flags.encoderResourcesActive := false
    log := (s.enc.session.map (.destroyed ·.index)).toList ++ s.log }

def destroyEncoder : Thread Unit := write (·.destroyEncoder)

def beginROSEpoch (cfg : PluginConfig) (cause : EpochCause) : Thread Unit := do
  let begins ← .atomic (.ros (.beginEpoch cause)) (fun s =>
    ({ s with ros := rosStep cfg.ros s.ros (.beginEpoch cause) },
      s.ros.branch.beginsROSEpoch cfg.ros))
  if begins then storeForceKeyframe

def snapshotNeedsRender : Thread Bool := do
  if ← read (·.snap.snapshotReadbackPending) then return true
  else read (·.snap.wantsFrame)

def reply (handle : Nat) (response : ControlResponse) : Thread Unit :=
  write (fun s => { s with log := .replied handle response :: s.log })

/-- `CameraStatus`, under the publisher lock -/
def State.cameraStatus (s : State) : CameraStatus where
  state := s.nat.nativeLifecycleState
  applied_active := s.nat.nativeAppliedActive
  desired_revision := s.ctl.desiredRevision
  applied_revision := s.ctl.appliedRevision
  encoder_ready := s.flags.encoderResourcesActive
  rtp_in_flight := s.flags.rtpInFlight
  width := s.ros.branch.streamWidth
  height := s.ros.branch.streamHeight
  fps := s.ros.branch.streamFrameRate
  published_calibration_revision := s.ros.publishedCalibrationRevision
  desired := s.ctl.desiredConfig
  applied := s.ctl.appliedConfig
  effective_time := s.ctl.appliedTimeNanoseconds
  event_revision := s.ctl.controlEventRevision
  pending := s.ctl.pendingControl.isSome
  last_receipt := s.ctl.lastReceipt
  ros_consumers_active := s.ros.branch.rosConsumersActive
  native_sensor_active := s.flags.nativeSensorActive
  rtp_requested_active := s.nat.desiredActive

def State.cameraDescriptor (s : State) : CameraDescriptor where
  width := s.ros.branch.streamWidth
  height := s.ros.branch.streamHeight
  fps := s.ros.branch.streamFrameRate

end MediaCamera
