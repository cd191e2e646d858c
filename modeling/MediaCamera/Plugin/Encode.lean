import MediaCamera.Plugin.Render

/-!
# The render thread: the encoder

The second half of the render thread's code, one line for each atomic access or critical section:

* `rosRenderIsFreshForCurrentActivation`, `observeSourceTime`, `ensureEncoder`   what comes before
                        a frame is submitted;
* `encodeRenderedFrame` submission, NVENC's answer, and the pairing of its output;
* `sendH264AccessUnit`  keyframe acknowledgments, the ROS branch, the RTP packets;
* `postRenderTargetUpdate`   the render-target callback.

The events `encoderFailed`, `enqueued` and `rendering` are recorded with the step that they describe.
-/

namespace MediaCamera

/-- NVENC's answer to a submitted frame, up to the lock of its output bitstream -/
inductive EncodeOutcome where
  | error
  | needMoreInput
  | lockFailed
  | output (outputTimeStamp : Nat) (bitstream : List UInt8)
  deriving DecidableEq, Repr

/-- what a render-target callback reads from outside -/
structure RenderInput where
  sourceTimeNanoseconds : Int
  /-- the render texture is there and a 2D OpenGL texture -/
  glTexture : Bool
  width : Nat
  height : Nat
  /-- `EnsureEncoder` can create what it needs -/
  encoderAvailable : Bool
  textureCopied : Bool
  inputMapped : Bool
  outcome : EncodeOutcome
  capture : CaptureInput

/-- record that the texture, GL or NVENC path failed -/
def State.encoderFailed (s : State) : State := { s with log := .encoderFailed :: s.log }

def encoderFailure : Thread Bool := do
  write (·.encoderFailed)
  return false

/-! ## before a frame -/

def rosRenderIsFreshForCurrentActivation (time : Int) : Thread Bool := do
  let generation ← read (·.flags.rosFreshRenderGeneration)
  let decision ← access (fun s =>
    let r := s.view.rosFreshRenderGate.observe generation time
    ({ s with view.rosFreshRenderGate := r.1 }, r.2))
  match decision with
  | .discardAndReset =>
    clearRTPQueue
    destroyEncoder
    storeForceKeyframe
    return false
  | .accept => return true
  | .waitForSourceTimeChange => return false

def Encoder.timeWentBack (e : Encoder) (time : Int) : Bool :=
  match e.lastSourceTimeNanoseconds with
  | some last => decide (time < last)
  | none => false

/-- the comparison of `ObserveSourceTime`; without a jump, the time is remembered -/
def Encoder.observe (e : Encoder) (time : Int) : Encoder :=
  if e.timeWentBack time then e else { e with lastSourceTimeNanoseconds := some time }

def observeSourceTime (cfg : PluginConfig) (time : Int) : Thread Unit := do
  if ← .atomic (.observeSourceTime time) (fun s =>
      ({ s with enc := s.enc.observe time }, s.enc.timeWentBack time)) then
    clearRTPQueue
    beginROSEpoch cfg .sourceTimeReset
    storeForceKeyframe
    destroyEncoder
    write (fun s => { s with enc.lastSourceTimeNanoseconds := some time })

def Encoder.ready (e : Encoder) (width height : Nat) : Bool :=
  match e.session with
  | some session => session.width == width && session.height == height
  | none => false

/-- the GOP length of a session: two seconds of frames -/
def gopLength (rate : ℚ) : Nat := (max 1 (llround (updateRate rate * 2))).toNat

/-- `EnsureEncoder`; `available` is whether every library, GL and NVENC call of a creation works -/
def ensureEncoder (cfg : PluginConfig) (width height : Nat) (time : Int) (available : Bool) :
    Thread Bool := do
  if ← read (·.enc.ready width height) then return true
  else
    destroyEncoder
    if width = 0 ∨ height = 0 ∨ available = false then encoderFailure
    else
      write (fun s => { s with
        enc.session := some ⟨width, height, s.enc.sessions + 1, time⟩
        enc.sessions := s.enc.sessions + 1
        enc.pendingEncodedFrames := [] })
      let epochAlreadyPending ← read (·.ros.branch.rosHasPendingEpoch)
      if (← read (·.enc.encoderEverInitialized)) && !epochAlreadyPending then
        clearRTPQueue
        beginROSEpoch cfg .encoderReset
      write (fun s => { s with enc.encoderEverInitialized := true })
      let describe := RosAction.describeStream width height (updateRate cfg.updateRate)
        (gopLength cfg.updateRate)
      .atomic (.ros describe) (fun s => ({ s with ros := rosStep cfg.ros s.ros describe }, ()))
      storeForceKeyframe
      write (fun s => { s with flags.encoderResourcesActive := true })
      return true

/-! ## an access unit -/

/-- the acknowledgment of a forced keyframe by the IDR that NVENC produced for it -/
def acknowledgeKeyframe (metadata : PendingEncodedFrame) (time : Int) : Thread Unit := do
  match ← read (·.nat.awaitingNativeControl) with
  | none => pure ()
  | some command =>
    if metadata.keyframeControlRevision ≠ 0 ∧ command.kind = .requestKeyframe ∧
        command.revision = metadata.keyframeControlRevision then
      completeNativeControl command time
  if metadata.captureKeyframeGeneration ≠ 0 then
    if (← read (·.cap.pending)) = metadata.captureKeyframeGeneration then
      write (fun s => { s with cap.pending := 0 })
      write (fun s => { s with cap.applied := metadata.captureKeyframeGeneration })

/-- the locked section of `EnqueueROSAccessUnit` -/
def State.enqueueROS (cfg : PluginConfig) (unit : AccessUnit) (s : State) : State :=
  let r := s.ros.branch.enqueueLocked cfg.ros unit
  { s with
    ros := rosStep cfg.ros s.ros .enqueue
    flags.forceKeyframe := r.2 || s.flags.forceKeyframe
    log := match s.ros.branch.enqueuedFrame cfg.ros unit with
      | some frame => .enqueued frame (s.enc.session.elim 0 (·.index)) :: s.log
      | none => s.log }

def enqueueROSAccessUnit (cfg : PluginConfig) (unit : AccessUnit) : Thread Unit := do
  let accepted ← .atomic (.ros (.check unit)) (fun s =>
    ({ s with ros := rosStep cfg.ros s.ros (.check unit) }, s.ros.branch.accepts cfg.ros unit))
  if accepted then .atomic (.ros .enqueue) (fun s => (s.enqueueROS cfg unit, ()))

/-- `SendH264AccessUnit`; its first line, not in the source, only shows the arguments of the call -/
def sendH264AccessUnit (cfg : PluginConfig) (data : List UInt8) (timestamp : UInt32)
    (metadata : PendingEncodedFrame) (time : Int) : Thread Bool := do
  .atomic (.sendUnit timestamp metadata) (fun s => (s, ()))
  let nalUnits := splitAnnexB data
  if nalUnits = [] then encoderFailure
  else
    let keyframe := nalUnits.any isIDR
    if keyframe then acknowledgeKeyframe metadata time
    enqueueROSAccessUnit cfg ⟨data, timestamp, keyframe, metadata⟩
    let active ← read (·.nat.desiredActive)
    if !active || !cfg.rtpSocketOpen then return true
    else
      match packetize timestamp nalUnits [] with
      | none => return false
      | some packets =>
        .atomic (.enqueueRTP packets keyframe) (fun s =>
          let r := s.rtp.enqueueRTPAccessUnit cfg.pacingBitrate cfg.updateRate packets keyframe
          ({ s with
            rtp := r.1
            flags.forceKeyframe := r.2.2 || s.flags.forceKeyframe
            log := if r.2.1 then s.log else .refused :: s.log }, r.2.1))

/-! ## a frame -/

def kMaximumPendingEncodedFrames : Nat := 4

def inputTimestamp (rate : ℚ) (encodedFrameIndex : Nat) : Nat :=
  (llround (encodedFrameIndex * kRtpClockRate / updateRate rate)).toNat

/-- the metadata of a submitted frame; a forced keyframe carries the demands it serves -/
def State.newPending (cfg : PluginConfig) (s : State) (time : Int) (forced : Bool)
    (captureGeneration : Nat) : PendingEncodedFrame where
  encoderTimestamp := inputTimestamp cfg.updateRate s.enc.encodedFrameIndex
  sourceTimeNanoseconds := time
  sourceSequence := s.enc.sourceFrameSequence
  keyframeControlRevision :=
    match s.nat.awaitingNativeControl with
    | some command => if forced && command.kind == .requestKeyframe then command.revision else 0
    | none => 0
  captureKeyframeGeneration := captureGeneration

/-- an encoder failure that starts a new epoch and destroys the encoder -/
def resetEncoder (cfg : PluginConfig) : Thread Bool := do
  write (·.encoderFailed)
  clearRTPQueue
  beginROSEpoch cfg .encoderReset
  storeForceKeyframe
  destroyEncoder
  return false

def takePendingEncodedFrame (timestamp : Nat) : Thread (Option PendingEncodedFrame) :=
  .atomic (.takeOutput timestamp) (fun s =>
    let found := s.enc.pendingEncodedFrames.find? (·.encoderTimestamp == timestamp)
    ({ s with
      enc.pendingEncodedFrames :=
        s.enc.pendingEncodedFrames.eraseP (·.encoderTimestamp == timestamp)
      enc.sending := found }, found))

/-- the frame is accounted for in the transport clock -/
def countFrame : Thread Unit :=
  write (fun s => { s with
    enc.encodedFrameIndex := s.enc.encodedFrameIndex + 1, enc.sending := none })

/-- NVENC's answer -/
def finishFrame (cfg : PluginConfig) (time : Int) (outcome : EncodeOutcome) : Thread Bool := do
  match outcome with
  | .error => resetEncoder cfg
  | .lockFailed => resetEncoder cfg
  | .output timestamp bitstream =>
    match ← takePendingEncodedFrame timestamp with
    | none => resetEncoder cfg
    | some metadata =>
      let sent ← sendH264AccessUnit cfg bitstream (UInt32.ofNat timestamp) metadata time
      countFrame
      return sent
  | .needMoreInput =>
    if kMaximumPendingEncodedFrames < (← read (·.enc.pendingEncodedFrames.length)) then
      resetEncoder cfg
    else
      countFrame
      return true

def encodeRenderedFrame (cfg : PluginConfig) (input : RenderInput) : Thread Bool := do
  if !input.glTexture then encoderFailure
  else
    observeSourceTime cfg input.sourceTimeNanoseconds
    if !(← ensureEncoder cfg input.width input.height input.sourceTimeNanoseconds
        input.encoderAvailable) then return false
    else if !(input.textureCopied && input.inputMapped) then encoderFailure
    else
      let forced ← access (fun s =>
        ({ s with flags.forceKeyframe := false }, s.flags.forceKeyframe))
      let captureGeneration ← if forced then read (·.cap.pending)
        else pure 0
      write (fun s => { s with
        enc.pendingEncodedFrames := s.enc.pendingEncodedFrames ++
          [s.newPending cfg input.sourceTimeNanoseconds forced captureGeneration]
        enc.sourceFrameSequence := s.enc.sourceFrameSequence + 1 })
      finishFrame cfg input.sourceTimeNanoseconds input.outcome

/-! ## postRenderTargetUpdate -/

/-- the frame with encode demand: freshness, encoding, and the outcome for the awaiting command -/
def encodeForDemand (cfg : PluginConfig) (input : RenderInput) : Thread Unit := do
  if ← rosRenderIsFreshForCurrentActivation input.sourceTimeNanoseconds then
    if !(← encodeRenderedFrame cfg input) then failNativeEncoderTransition
    else
      match ← read (·.nat.awaitingNativeControl) with
      | none => pure ()
      | some command =>
        if command.kind = .start then completeNativeControl command input.sourceTimeNanoseconds

/-- the callback begins with the increment of `renderFrameSequence_` -/
def State.beginRender (s : State) (view : RenderedView) : State :=
  { s with
    view.renderFrameSequence := s.view.renderFrameSequence + 1
    snap := s.snap.record (.callback (s.view.renderFrameSequence + 1) view s.nat.jpegQuality)
    log := .rendering :: s.log }

def postRenderTargetUpdate (cfg : PluginConfig) (input : RenderInput) : Thread Unit := do
  write (·.beginRender input.capture.view)
  let shouldEncode ← wantsEncode
  let cleanup ← access (fun s =>
    ({ s with flags.cleanupEncoderRequested := false }, s.flags.cleanupEncoderRequested))
  let idle ← if cleanup && !shouldEncode then not <$> snapshotNeedsRender else pure false
  if idle then destroyEncoder
  else if ← wantsRender shouldEncode then
    if ← snapshotNeedsRender then captureSnapshot input.capture
    if shouldEncode then encodeForDemand cfg input

end MediaCamera
