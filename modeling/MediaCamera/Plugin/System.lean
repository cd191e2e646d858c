import MediaCamera.Plugin.Executor
import MediaCamera.Plugin.Encode

/-!
# The threads of the plugin

The remaining threads and the machine of all of them, from a successful `Load` until the sensor is
removed:

* `rtpPacerRound`        one round of `RTPPacerLoop`;
* `snapshotEncoderRound` one round of `SnapshotEncoderLoop`;
* `State.rosSide`        the steps of the ROS callback thread, the ROS worker and the registration;
* `hostSide`             the other sources of the control host reserve and release the capture;
* `plugin`, `pluginMachine`   the pool of threads and its machine.

A thread that waits on a condition variable runs a round that finds nothing to do.
-/

namespace MediaCamera

/-! ## the pacer -/

def kPacketBatchSize : Nat := 32

/-- the batches of an access unit, with fuel for one round for each packet -/
def packetBatches : Nat → List QueuedRTPPacket → List (List QueuedRTPPacket)
  | 0, _ => []
  | fuel + 1, packets =>
    if packets = [] then []
    else packets.take kPacketBatchSize :: packetBatches fuel (packets.drop kPacketBatchSize)

def QueuedRTPPacket.numbered (packet : QueuedRTPPacket) (sequence : Nat) : QueuedRTPPacket :=
  ⟨packet.bytes.take 2 ++ [(sequence / 256).toUInt8, sequence.toUInt8] ++ packet.bytes.drop 4⟩

/-- `SendPacedRTPPacket` for each packet of a batch -/
def sendBatch : List QueuedRTPPacket → Thread Unit
  | [] => pure ()
  | packet :: packets => do
    write (fun s => { s with
      sent := packet.numbered s.rtpSequence :: s.sent
      rtpSequence := (s.rtpSequence + 1) % 65536 })
    sendBatch packets

def RtpQueue.current (q : RtpQueue) (unit : QueuedRTPAccessUnit) : Bool :=
  !q.rtpPacerStopping && unit.generation == q.rtpQueueGeneration

def sendPacedRTPAccessUnit (unit : QueuedRTPAccessUnit) :
    List (List QueuedRTPPacket) → Thread Unit
  | [] => pure ()
  | batch :: batches => do
    if ← read (·.rtp.current unit) then
      sendBatch batch
      sendPacedRTPAccessUnit unit batches

/-- one round of `RTPPacerLoop` -/
def rtpPacerRound : Thread Unit := do
  let popped ← .atomic .popRTP (fun s =>
    match s.rtp.rtpPacerStopping, s.rtp.pop with
    | false, some (unit, queue) => ({ s with rtp := queue, flags.rtpInFlight := true }, some unit)
    | _, _ => (s, none))
  match popped with
  | none => pure ()
  | some unit =>
    if ← read (·.rtp.current unit) then
      sendPacedRTPAccessUnit unit (packetBatches unit.packets.length unit.packets)
    write (fun s => { s with flags.rtpInFlight := false })

/-! ## the JPEG worker -/

/-- `SnapshotJpegEncodeResult` -/
structure JpegResult where
  bytes : List UInt8
  backend : String
  error : String
  deriving DecidableEq, Repr

structure JpegInput where
  hardware : JpegResult
  cpu : JpegResult
  deriving DecidableEq, Repr

/-- the fallback reason that a failed hardware preflight adds -/
def preflightReason (reason : String) : Option String → String
  | none => reason
  | some error =>
    (if reason = "" then "" else reason ++ "; ") ++ "hardware backend unavailable at runtime preflight" ++
      (if error = "" then "" else ": " ++ error)

def SnapshotResult.encoded (cfg : PluginConfig) (result : SnapshotResult) (fallbackReason : String)
    (jpeg : JpegResult) : SnapshotResult :=
  let failed := jpeg.error != "" || jpeg.bytes.isEmpty
  { result with
    jpegBackend := jpeg.backend
    jpegFallbackReason := preflightReason fallbackReason cfg.preflightError
    jpeg := jpeg.bytes
    rgb := if result.includeRGB then result.rgb else []
    failed := failed || result.failed
    error := if !failed then result.error
      else if jpeg.error = "" then "camera snapshot JPEG encoding failed" else jpeg.error
    completed := true }

def deliverSnapshot (result : SnapshotResult) : Thread Unit :=
  write (fun s => { s with snap := s.snap.deliver result })

/-- one round of `SnapshotEncoderLoop` -/
def snapshotEncoderRound (cfg : PluginConfig) (input : JpegInput) : Thread Unit := do
  let job ← .atomic .takeEncode (fun s =>
    let r := s.snap.takeEncode
    ({ s with snap := r.1 }, r.2))
  match job with
  | none => pure ()
  | some result =>
    let tryHardware ← if cfg.useHardware then
        read (fun s => !s.snap.snapshotJpegHardwareFusedOff)
      else pure false
    if tryHardware && (input.hardware.error == "" || !cfg.allowCPUFallback) then
      deliverSnapshot (result.encoded cfg result.jpegFallbackReason input.hardware)
    else if tryHardware then
      write (fun s => { s with snap.snapshotJpegHardwareFusedOff := true })
      deliverSnapshot (result.encoded cfg
        ("hardware JPEG backend failed and was fused off: " ++ input.hardware.error) input.cpu)
    else deliverSnapshot (result.encoded cfg result.jpegFallbackReason input.cpu)

/-! ## the ROS side -/

/-- a step of the callback thread, of the worker or of the registration -/
inductive RosSide where
  | connect
  | disconnect
  | callback
  | worker
  | register (succeeds : Bool)
  deriving DecidableEq, Repr

/-- the step, with what it reads of `desiredActive_` -/
def RosSide.action (side : RosSide) (desiredActive : Bool) : RosAction :=
  match side with
  | connect => .connect
  | disconnect => .disconnect
  | callback => .callback desiredActive
  | worker => .worker
  | register succeeds => .register succeeds

/-- whether the step stores `forceKeyframe_`: an additional connection, or a started epoch -/
def RosSide.forcesKeyframe (side : RosSide) (ros : RosState) : Bool :=
  match side with
  | connect => decide (ros.callback = .idle ∧ ros.branch.rosSubscriberCallbacksEnabled = true ∧
      0 < ros.branch.rosSubscriberConnectionCount)
  | callback => decide (ros.callback = .forceKeyframe)
  | _ => false

/-- whether the step arms the freshness gate -/
def RosSide.armsFreshRender (side : RosSide) (ros : RosState) : Bool :=
  match side with
  | callback => decide (ros.callback = .armFreshRender)
  | _ => false

def State.rosSide (cfg : PluginConfig) (side : RosSide) (s : State) : State :=
  { s with
    ros := rosStep cfg.ros s.ros (side.action s.nat.desiredActive)
    flags.forceKeyframe := side.forcesKeyframe s.ros || s.flags.forceKeyframe
    flags.rosFreshRenderGeneration :=
      if side.armsFreshRender s.ros then s.flags.rosFreshRenderGeneration + 1
      else s.flags.rosFreshRenderGeneration }

/-! ## the host -/

inductive HostSide where
  | reserve
  | release
  deriving DecidableEq, Repr

/-- another source of the host reserves or releases the capture -/
def State.hostSide (side : HostSide) (s : State) : State :=
  match side with
  | .reserve =>
    if s.flags.captureReserved then s
    else { s with flags.captureReserved := true, flags.reservedElsewhere := true }
  | .release =>
    if s.flags.reservedElsewhere then
      { s with flags.captureReserved := false, flags.reservedElsewhere := false }
    else s

/-! ## the machine -/

inductive ThreadName where
  | executor
  | render
  | pacer
  | jpegWorker
  | rosSide
  | hostSide
  deriving DecidableEq, Repr

inductive ExecutorCall where
  | request (operation : String) (request : ControlRequest) (input : Json) (now : Int)
  | flush (input : FlushInput)

inductive RenderCall where
  | postRender (input : PostRenderInput)
  | renderTarget (input : RenderInput)

abbrev Call : ThreadName → Type
  | .executor => ExecutorCall
  | .render => RenderCall
  | .pacer => Unit
  | .jpegWorker => JpegInput
  | .rosSide => RosSide
  | .hostSide => HostSide

def threadBody (cfg : PluginConfig) : (t : ThreadName) → Call t → Thread Unit
  | .executor, .request operation request input now =>
    handleControlRequest cfg operation request input now
  | .executor, .flush input => flushControl input
  | .render, .postRender input => onPostRender cfg input
  | .render, .renderTarget input => postRenderTargetUpdate cfg input
  | .pacer, () => rtpPacerRound
  | .jpegWorker, input => snapshotEncoderRound cfg input
  | .rosSide, side => .atomic .step (fun s => (s.rosSide cfg side, ()))
  | .hostSide, side => .atomic .step (fun s => (s.hostSide side, ()))

structure LoadInput where
  now : UInt64
  pid : UInt64
  address : UInt64
  width : Nat
  height : Nat
  jpegQuality : Int
  /-- the intrinsics of the native projection and its distortion -/
  matrix : List Double
  distortion : List Double

/-- the calibration document of `StartControlServer` -/
def LoadInput.calibration (input : LoadInput) : CalibrationDocument where
  model := .plumbBob
  width := input.width
  height := input.height
  camera_matrix := input.matrix.map .real
  distortion := input.distortion.map .real

/-- `calibrationMetadata_` as `Load` leaves it -/
def LoadInput.calibrationMetadata (input : LoadInput) : NativeCalibrationMetadata where
  revision := 1
  width := input.width
  height := input.height
  model := .plumbBob
  matrix := input.matrix
  distortion := input.distortion

def Native.load (jpegQuality : Int) : Native where
  desiredActive := false
  nativeAppliedActive := false
  nativeLifecycleState := .idle
  jpegQuality := jpegQuality
  nativeCommand := none
  awaitingNativeControl := none
  nativeFailedRevision := 0
  nativeAppliedRevision := 1
  nativeAppliedTime := 0
  failing := false
  faulting := false

def Flags.load : Flags where
  forceKeyframe := true
  cleanupEncoderRequested := false
  encoderResourcesActive := false
  nativeSensorActive := false
  rosFreshRenderGeneration := 0
  rtpInFlight := false
  captureReserved := false
  reservedElsewhere := false

def Encoder.load : Encoder where
  session := none
  pendingEncodedFrames := []
  lastSourceTimeNanoseconds := none
  encodedFrameIndex := 0
  sourceFrameSequence := 0
  encoderEverInitialized := false
  sessions := 0
  sending := none

def RenderView.load : RenderView where
  rosFreshRenderGate := ⟨0, none⟩
  renderFrameSequence := 0
  sensorActive := false
  cameraFound := false
  listenerAttached := false
  consumersAtCheck := false

/-- the plugin after a successful `Load` -/
def State.load (cfg : PluginConfig) (input : LoadInput) : State where
  ctl := .load ⟨false, input.jpegQuality,
    if cfg.ros.rosPublishingEnabled then some input.calibration else none⟩
  nat := .load input.jpegQuality
  cap := ⟨0, 0, 0⟩
  flags := .load
  enc := .load
  view := .load
  snap := .load
  rtp := .load
  sent := []
  rtpSequence := 0
  ros := .load (.load (initialEpochToken input.now input.pid input.address)
    input.calibrationMetadata input.width input.height (updateRate cfg.updateRate)
    (gopLength cfg.updateRate))
  log := []

def plugin (cfg : PluginConfig) : Pool State Label ThreadName Call where
  init s := ∃ input, s = .load cfg input
  body := threadBody cfg

abbrev PluginState : Type := PoolState State Label ThreadName

abbrev PluginAction : Type := PoolAction ThreadName Call

/-- the plugin with all its threads -/
def pluginMachine (cfg : PluginConfig) : Machine PluginState PluginAction := (plugin cfg).machine

/-! ## a camera and its calls -/

def PluginConfig.sample : PluginConfig where
  ros := .load true 8
  updateRate := 30
  pacingBitrate := 8000000
  rtpSocketOpen := true
  useHardware := false
  allowCPUFallback := true
  preflightError := none

def LoadInput.sample : LoadInput where
  now := 1
  pid := 2
  address := 3
  width := 640
  height := 480
  jpegQuality := 90
  matrix := [1, 0, 1, 0, 1, 1, 0, 0, 1].map .finite
  distortion := [0, 0, 0, 0, 0].map .finite

def PluginState.sample : PluginState := ⟨.load .sample .sample, fun _ => .ret ()⟩

theorem PluginState.sample_reachable (C : PluginState → PluginAction → Prop) :
    (pluginMachine .sample).ReachableUnder C .sample :=
  .start ⟨⟨.sample, rfl⟩, rfl⟩

def runCall (t : ThreadName) (c : Call t) (n : Nat) : List PluginAction :=
  .start t c :: List.replicate n (.step t)

/-- a mutation that carries no document -/
def mutationCall (operation request_id : String) : Call .executor :=
  .request operation ⟨"POST", request_id, 10⟩ (.object []) 0

/-- a configuration against the revision that the client saw -/
def configCall (request_id : String) (expected : Nat) (fields : List (String × Json)) :
    Call .executor :=
  .request "config" ⟨"PATCH", request_id, 10⟩ (.object
    [("config", .object fields), ("expected_revision", .number (.uint expected))]) 0

def captureCall (request_id : String) : Call .executor :=
  .request "capture" ⟨"POST", request_id, 10⟩ (.object []) 0

/-- a `FlushControl` in which no reply is cancelled -/
def flushCall (now : Int) : Call .executor := .flush ⟨now, false, true, false, []⟩

def postRenderCall (sourceTimeNanoseconds : Int) : Call .render :=
  .postRender ⟨true, true, sourceTimeNanoseconds, true, true⟩

def idrUnit : List UInt8 := [0, 0, 0, 1, 0x65, 1]

def deltaUnit : List UInt8 := [0, 0, 0, 1, 0x41, 1]

/-- a view of the camera and a capture that cannot read it back -/
def idleCapture (sourceTimeNanoseconds : Int) : CaptureInput where
  texture := false
  view := ⟨640, 480, none, none, [], [], sourceTimeNanoseconds⟩
  issue := .issued
  poll := .timeout
  synchronous := .ok []

def frameCall (sourceTimeNanoseconds : Int) (outcome : EncodeOutcome) : Call .render :=
  .renderTarget ⟨sourceTimeNanoseconds, true, 640, 480, true, true, true, outcome,
    idleCapture sourceTimeNanoseconds⟩

/-- the stream is started: the first frame is not fresh, the second one is encoded as an IDR -/
def startRun : List PluginAction :=
  runCall .executor (mutationCall "start" "a") 8 ++ runCall .render (postRenderCall 1) 20 ++
    runCall .render (frameCall 1 .needMoreInput) 20 ++
    runCall .render (frameCall 2 (.output 0 idrUnit)) 60 ++ runCall .executor (flushCall 2) 24

/-- the publisher registers and a subscriber connects -/
def consumerRun : List PluginAction :=
  let sides : List RosSide :=
    List.replicate 4 (.register true) ++ .connect :: List.replicate 6 .callback
  sides.flatMap fun side => runCall .rosSide side 1

end MediaCamera
