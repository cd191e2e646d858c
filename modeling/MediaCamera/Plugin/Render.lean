import MediaCamera.Plugin.State

/-!
# The render thread: control and snapshots

The first half of the render thread's code, one line for each atomic access or critical section:

* `applyNativeControl`, `completeNativeControl`, `completeNativeStopIfDrained`,
  `failNativeEncoderTransition`   the render side of a mutation;
* `onPostRender`                  the post-render callback;
* `captureSnapshot`, `pollSnapshotPBOReadback`   the readback of a capture.

The members of `Encoder` and `awaitingNativeControl_` belong to this thread; their changes are
steps of their own or part of the access next to them.
-/

namespace MediaCamera

/-! ## mutations -/

/-- what a post-render callback reads from outside: the outcomes of the two try-locks, the
measurement time, and whether the sensor has its camera and render target yet -/
structure PostRenderInput where
  lockTaken : Bool
  publisherLockTaken : Bool
  sourceTimeNanoseconds : Int
  camera : Bool
  renderTarget : Bool
  deriving DecidableEq, Repr

/-- the native side of a consumed command: demand, quality, keyframe, freshness, queue -/
def State.consume (cfg : PluginConfig) (s : State) (command : NativeControlCommand) : State :=
  let starts := command.active && !s.nat.desiredActive
  let s' := { s with
    nat.nativeCommand := none
    nat.desiredActive := command.active
    nat.jpegQuality := command.jpegQuality
    flags.forceKeyframe := command.keyframe || starts || s.flags.forceKeyframe
    flags.rosFreshRenderGeneration :=
      if starts && !s.ros.branch.rosConsumersActive then s.flags.rosFreshRenderGeneration + 1
      else s.flags.rosFreshRenderGeneration
    rtp := if command.active then s.rtp else s.rtp.clear
    ros := match command.calibration with
      | some calibration => rosStep cfg.ros s.ros (.applyCalibration calibration)
      | none => s.ros }
  { s' with log := .consumed command ⟨s.nat.desiredActive, s'.nat.desiredActive⟩ :: s.log }

/-- `sensor_->SetActive` for the demand after a consumed command -/
def State.setDemandActive (s : State) : State :=
  let active := s.nat.desiredActive || s.ros.branch.rosConsumersActive || s.snap.needsRender
  { s with view.sensorActive := active, flags.nativeSensorActive := active }

/-- `CompleteNativeControl` of a configuration, inside the section that consumed it -/
def State.completeConfiguration (s : State) (command : NativeControlCommand) (time : Int) :
    State :=
  { s with
    nat.nativeAppliedTime := time
    nat.nativeAppliedRevision := command.revision
    log := .acknowledged command.revision :: s.log }

/-- the command waits for its outcome -/
def State.await (s : State) (command : NativeControlCommand) : State :=
  { s with nat.awaitingNativeControl := some command }

/-- `ApplyNativeControl`, one section under `nativeCommandMutex_` -/
def State.applyNativeControl (cfg : PluginConfig) (input : PostRenderInput) (s : State) : State :=
  if !input.lockTaken then s
  else
    match s.nat.nativeCommand with
    | none => s
    | some command =>
      if command.calibration.isSome && !input.publisherLockTaken then s
      else if command.kind = .config then
        (s.consume cfg command).setDemandActive.completeConfiguration command
          input.sourceTimeNanoseconds
      else (s.consume cfg command).setDemandActive.await command

def storeNativeAppliedActive (active : Bool) : Thread Unit :=
  write (fun s => { s with nat.nativeAppliedActive := active })

def storeNativeLifecycleState (state : LifecycleState) : Thread Unit :=
  write (fun s => { s with nat.nativeLifecycleState := state })

def storeNativeAppliedTime (time : Int) : Thread Unit :=
  write (fun s => { s with nat.nativeAppliedTime := time })

/-- the store of `nativeAppliedRevision_` and the reset of the command -/
def State.acknowledge (s : State) (revision : Nat) : State :=
  { s with
    nat.nativeAppliedRevision := revision
    nat.awaitingNativeControl := none
    log := .acknowledged revision :: s.log }

/-- `CompleteNativeControl` of the awaiting command, with the reset its callers make -/
def completeNativeControl (command : NativeControlCommand) (time : Int) : Thread Unit := do
  if command.kind = .start then
    storeNativeAppliedActive true
    storeNativeLifecycleState .active
  if command.kind = .stop then
    storeNativeAppliedActive false
    storeNativeLifecycleState .idle
  storeNativeAppliedTime time
  write (·.acknowledge command.revision)

/-- `sensor_->SetActive` -/
def setSensorActive (active : Bool) : Thread Unit :=
  write (fun s => { s with view.sensorActive := active })

/-- `nativeSensorActive_.store(sensor_->IsActive())` -/
def storeSensorActive : Thread Unit :=
  write (fun s => { s with flags.nativeSensorActive := s.view.sensorActive })

/-- no packets are in flight, and no encoder that only this stream needs is left -/
def drained : Thread Bool := do
  if ← read (·.flags.rtpInFlight) then return false
  else if ← access (fun s =>
      ({ s with view.consumersAtCheck := s.ros.branch.rosConsumersActive },
        s.ros.branch.rosConsumersActive)) then return true
  else read (fun s => !s.flags.encoderResourcesActive)

/-- without another demand, the sensor is disabled -/
def releaseSensor : Thread Unit := do
  if !(← read (·.ros.branch.rosConsumersActive)) then
    if !(← snapshotNeedsRender) then setSensorActive false

def completeNativeStopIfDrained (time : Int) : Thread Unit := do
  match ← read (·.nat.awaitingNativeControl) with
  | none => pure ()
  | some command =>
    if command.kind = .stop then
      if ← drained then
        releaseSensor
        storeSensorActive
        completeNativeControl command time

/-- the exchange of `nativeCaptureKeyframePending_` -/
def State.transitionFailed (s : State) : State :=
  { s with cap.pending := 0, log := .transitionFailed s.cap.pending :: s.log }

/-- the store of `nativeCaptureKeyframeFailed_` -/
def State.failKeyframe (s : State) (generation : Nat) : State :=
  { s with cap.failed := generation, log := .keyframeFailed generation :: s.log }

/-- the store of `nativeFailedRevision_` and the reset of the command -/
def State.failNative (s : State) (revision : Nat) : State :=
  { s with
    nat.nativeFailedRevision := revision
    nat.awaitingNativeControl := none
    nat.failing := true
    nat.faulting := true
    log := .nativeFailed revision :: s.log }

/-- the store of `desiredActive_` -/
def State.deactivate (s : State) : State :=
  { s with nat.desiredActive := false, nat.failing := false }

/-- its store of `nativeAppliedActive_` -/
def faultAppliedActive : Thread Unit :=
  .atomic .fault (fun s => ({ s with nat.nativeAppliedActive := false }, ()))

/-- its store of `nativeLifecycleState_`, for the revision that it stored as failed -/
def State.fault (s : State) (revision : Nat) : State :=
  { s with
    nat.nativeLifecycleState := .faulted
    nat.faulting := false
    log := .faulted revision :: s.log }

def faultLifecycleState (revision : Nat) : Thread Unit :=
  .atomic .fault (fun s => (s.fault revision, ()))

def failNativeEncoderTransition : Thread Unit := do
  let capture ← access (fun s => (s.transitionFailed, s.cap.pending))
  if capture ≠ 0 then write (·.failKeyframe capture)
  match ← read (·.nat.awaitingNativeControl) with
  | none => pure ()
  | some command =>
    if command.kind = .start ∨ command.kind = .requestKeyframe then
      .atomic (.failNative command) (fun s => (s.failNative command.revision, ()))
      write (·.deactivate)
      faultAppliedActive
      faultLifecycleState command.revision
      clearRTPQueue
      destroyEncoder

/-! ## OnPostRender -/

/-- `desiredActive_.load() || rosConsumersActive_.load()` -/
def wantsEncode : Thread Bool := do
  if ← read (·.nat.desiredActive) then return true
  else read (·.ros.branch.rosConsumersActive)

/-- `shouldEncode || SnapshotNeedsRender()` -/
def wantsRender (shouldEncode : Bool) : Thread Bool :=
  if shouldEncode then pure true else snapshotNeedsRender

/-- the end of `OnPostRender`: keep the sensor rendering, release the encoder, or disable it -/
def driveSensor (shouldEncode : Bool) : Thread Unit := do
  if ← wantsRender shouldEncode then setSensorActive true
  else if ← read (·.flags.encoderResourcesActive) then
    write (fun s => { s with flags.cleanupEncoderRequested := true })
    setSensorActive true
  else setSensorActive false

def onPostRender (cfg : PluginConfig) (input : PostRenderInput) : Thread Unit := do
  write (·.applyNativeControl cfg input)
  completeNativeStopIfDrained input.sourceTimeNanoseconds
  storeSensorActive
  let shouldEncode ← wantsEncode
  let camera ← access (fun s =>
    ({ s with view.cameraFound := s.view.cameraFound || input.camera },
      s.view.cameraFound || input.camera))
  if !camera then
    if ← wantsRender shouldEncode then setSensorActive true
  else
    let attached ← access (fun s =>
      ({ s with view.listenerAttached := s.view.listenerAttached || input.renderTarget },
        s.view.listenerAttached || input.renderTarget))
    if attached then driveSensor shouldEncode

/-! ## snapshots -/

/-- how the asynchronous readback of a frame starts -/
inductive PboIssue where
  /-- OpenGL refuses, for a reason -/
  | unavailable (reason : String)
  | issued
  deriving DecidableEq, Repr

/-- what the fence of a running readback says, and what the mapped buffer gives -/
inductive PboPoll where
  | timeout
  | failed (reason : String)
  | copied (rgb : List UInt8)
  deriving DecidableEq, Repr

structure CaptureInput where
  /-- the camera has its render texture -/
  texture : Bool
  view : RenderedView
  issue : PboIssue
  poll : PboPoll
  /-- the synchronous readback, or the message of its exception -/
  synchronous : Except String (List UInt8)

/-- `CompleteSnapshotFailure`; the source does not pass `work`, the capture that the caller works
for -/
def completeSnapshotFailure (work : Nat) (error : String) : Thread Unit :=
  .atomic (.failSnapshot work) (fun s => ({ s with snap := s.snap.fail work error }, ()))

/-- `QueueSnapshotEncode` and what its callers do where it refuses -/
def queueSnapshotEncode (result : SnapshotResult) : Thread Unit := do
  let queued ← access (fun s =>
    let r := s.snap.queueEncode result
    ({ s with snap := r.1 }, r.2))
  if !queued then
    completeSnapshotFailure result.generation "snapshot JPEG worker queue is unavailable"

def pollSnapshotPBOReadback (poll : PboPoll) : Thread Unit := do
  match ← .atomic .pollReadback (fun s => (s, s.snap.snapshotReadbackResult)) with
  | none => write (fun s => { s with snap.snapshotReadbackPending := false })
  | some result =>
    match poll with
    | .timeout => pure ()
    | .failed reason =>
      write (fun s => { s with
        snap.snapshotReadbackResult := none, snap.snapshotReadbackPending := false
        snap.carried := some result })
      write (fun s => { s with
        snap.snapshotPBOFailureReason := reason, snap.snapshotPBOAvailable := false })
      write (fun s => { s with snap := s.snap.rearm result })
    | .copied rgb =>
      write (fun s => { s with
        snap.snapshotReadbackResult := none, snap.snapshotReadbackPending := false
        snap.carried := some { result with rgb := rgb }
        snap.trail := .mapped rgb :: s.snap.trail })
      queueSnapshotEncode { result with rgb := rgb }

def captureSnapshotSynchronously (result : SnapshotResult)
    (readback : Except String (List UInt8)) : Thread Unit := do
  match readback with
  | .error message =>
    completeSnapshotFailure result.generation ("camera snapshot readback failed: " ++ message)
  | .ok rgb =>
    let result := { result with jpegReadback := "synchronous-cpu", rgb := rgb }
    let submitted ← access (fun s =>
      let r := (s.snap.record (.synchronous s.view.renderFrameSequence rgb)).submit result
      ({ s with snap := r.1 }, r.2))
    if submitted then queueSnapshotEncode result

/-- `IssueSnapshotPBOReadback`, where OpenGL issued the readback -/
def issueSnapshotPBOReadback (result : SnapshotResult) : Thread Unit := do
  let submitted ← .atomic (.issueReadback result) (fun s =>
    let r := (s.snap.record (.issued s.view.renderFrameSequence)).submit result
    ({ s with snap := r.1 }, r.2))
  if submitted then
    write (fun s => { s with
      snap.snapshotReadbackResult := some { result with jpegReadback := "opengl-pbo" }
      snap.snapshotReadbackPending := true
      snap.carried := none })

def readBackSnapshot (result : SnapshotResult) (input : CaptureInput) : Thread Unit := do
  let available ← read (·.snap.snapshotPBOAvailable)
  match available, input.issue with
  | true, .issued => issueSnapshotPBOReadback result
  | true, .unavailable reason =>
    .atomic (.issueReadback result) (fun s => ({ s with
      snap.snapshotPBOFailureReason := reason, snap.snapshotPBOAvailable := false }, ()))
    captureSnapshotSynchronously { result with jpegFallbackReason := reason } input.synchronous
  | false, _ =>
    let reason ← read (·.snap.snapshotPBOFailureReason)
    captureSnapshotSynchronously { result with jpegFallbackReason := reason } input.synchronous

def captureSnapshot (input : CaptureInput) : Thread Unit := do
  if ← read (·.snap.snapshotReadbackPending) then pollSnapshotPBOReadback input.poll
  else
    let frame ← access (fun s =>
      let r := s.snap.frameToCapture s.view.renderFrameSequence
      ({ s with snap := r.1 }, r.2))
    match frame with
    | none => pure ()
    | some result =>
      if !input.texture then
        completeSnapshotFailure result.generation "camera render texture is unavailable"
      else if input.view.width = 0 ∨ input.view.height = 0 ∨ 4096 < input.view.width ∨
          2160 < input.view.height then
        completeSnapshotFailure result.generation "camera dimensions are invalid"
      else
        let sequence ← read (·.view.renderFrameSequence)
        let quality ← read (·.nat.jpegQuality)
        readBackSnapshot (result.freeze input.view sequence quality) input

end MediaCamera
