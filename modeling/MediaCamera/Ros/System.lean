import MediaCamera.Ros.Branch

/-!
# The threads of the ROS branch

`RosState` adds to the guarded data of `RosBranch` where each thread stands between two of its
locked sections, and everything handed to the ROS publishers so far (`out`, newest first):

* the render thread inside `EnqueueROSAccessUnit`, past the unlocked consumer check;
* the one thread that runs the subscriber callbacks (the queue has an `AsyncSpinner` of one);
* the publisher worker, with what it took from the queue;
* the registration callback of the ROS master watcher, and the destructor.

One action is one locked section or one atomic access.  `RosAction.beginEpoch`, `.applyCalibration`
and `.describeStream` are the sections that the render thread enters from elsewhere; here they may
come at any time.
-/

namespace MediaCamera

/-- the callback thread between two sections of `OnROSSubscriberConnected` or
`OnROSSubscriberDisconnected` -/
inductive CallbackPC where
  | idle
  /-- first connection: `BeginROSEpoch` is next -/
  | beginEpoch
  /-- `BeginROSEpoch` left its section and stores `forceKeyframe_` next -/
  | forceKeyframe
  /-- `desiredActive_.load()` is next -/
  | readDesired
  /-- `rosFreshRenderGeneration_.fetch_add(1)` is next -/
  | armFreshRender
  /-- the activating section is next -/
  | activate
  /-- last disconnection: the queue-clearing section is next -/
  | discard
  deriving DecidableEq, Repr

inductive WorkerPC where
  /-- `rosPublisherThread_` does not run -/
  | stopped
  | waiting
  | cameraInfo (calibration : NativeCalibrationMetadata)
  | streamInfo (snapshot : StreamInfoSnapshot)
  | frame (frame : QueuedROSFrame)

inductive RegistrationPC where
  | idle
  | opened
  | advertised
  | announced
  /-- the worker runs: no further attempt -/
  | registered
  /-- `rosRegistration_` is gone -/
  | closed
  deriving DecidableEq, Repr

/-- `xgc_camera_msgs/FrameTiming`, less the fields that are constant -/
structure FrameTiming where
  source_time : Nat
  frame_id : String
  stream_id : String
  epoch : UInt64
  frame_sequence : Nat
  source_sequence : Nat
  rtp_timestamp : UInt32
  keyframe : Bool
  discontinuity : Option EpochCause
  dropped_frames_before : Nat
  encoded_size_bytes : Nat
  native_source_time_ns : Int
  host_publish_realtime_ns : Int

def frameTiming (sourceID frameID : String) (hostPublishRealtimeNanoseconds : Int)
    (frame : QueuedROSFrame) : FrameTiming where
  source_time := frame.sourceTimeNanoseconds.toNat
  frame_id := frameID
  stream_id := sourceID
  epoch := frame.epoch
  frame_sequence := frame.frameSequence
  source_sequence := frame.sourceSequence
  rtp_timestamp := frame.rtpTimestamp
  keyframe := frame.keyframe
  discontinuity := frame.discontinuity
  dropped_frames_before := frame.droppedFramesBefore
  encoded_size_bytes := min frame.annexB.length RosBranch.maximumUInt32
  native_source_time_ns := frame.sourceTimeNanoseconds
  host_publish_realtime_ns := hostPublishRealtimeNanoseconds

/-- what is handed to a ROS publisher; a frame goes out as its `compressedVideo` and its
`frameTiming` -/
inductive RosMessage where
  | cameraInfo (calibration : NativeCalibrationMetadata)
  | streamInfo (snapshot : StreamInfoSnapshot)
  | frame (frame : QueuedROSFrame)

structure RosState where
  branch : RosBranch
  enqueuing : Option AccessUnit
  callback : CallbackPC
  worker : WorkerPC
  registration : RegistrationPC
  publishedCalibrationRevision : Nat
  out : List RosMessage

inductive RosAction where
  | beginEpoch (cause : EpochCause)
  | applyCalibration (calibration : NativeCalibrationMetadata)
  | describeStream (width height : Nat) (fps : ℚ) (gopLength : Nat)
  /-- the unlocked consumer check of `EnqueueROSAccessUnit` -/
  | check (unit : AccessUnit)
  /-- its locked section -/
  | enqueue
  /-- an idle callback thread starts the callback of a new connection -/
  | connect
  /-- an idle callback thread starts the callback of a lost connection -/
  | disconnect
  /-- the callback thread goes on; `desiredActive` is what it reads of `desiredActive_` -/
  | callback (desiredActive : Bool)
  | worker
  /-- the registration goes on, or fails with an exception -/
  | register (succeeds : Bool)
  /-- the publisher section of `StopROSPublisher` -/
  | stopPublisher
  /-- its consumer section -/
  | closeSubscribers

namespace RosState

def load (branch : RosBranch) : RosState where
  branch := branch
  enqueuing := none
  callback := .idle
  worker := .stopped
  registration := .idle
  publishedCalibrationRevision := 0
  out := []

/-! ## the steps of each thread -/

/-- the consumer check: a rejected access unit leaves nothing behind -/
def check (cfg : RosConfig) (s : RosState) (unit : AccessUnit) : RosState :=
  if s.enqueuing = none ∧ s.branch.accepts cfg unit = true then { s with enqueuing := some unit }
  else s

def enqueue (cfg : RosConfig) (s : RosState) : RosState :=
  match s.enqueuing with
  | none => s
  | some unit => { s with branch := (s.branch.enqueueLocked cfg unit).1, enqueuing := none }

/-- the first section of `OnROSSubscriberConnected` -/
def connect (s : RosState) : RosState :=
  if s.callback = .idle ∧ s.branch.rosSubscriberCallbacksEnabled = true then
    { s with
      branch := s.branch.connected
      callback := if s.branch.rosSubscriberConnectionCount = 0 then .beginEpoch else .idle }
  else s

/-- the first section of `OnROSSubscriberDisconnected` -/
def disconnect (s : RosState) : RosState :=
  if s.callback = .idle ∧ s.branch.rosSubscriberCallbacksEnabled = true ∧
      0 < s.branch.rosSubscriberConnectionCount then
    { s with
      branch := s.branch.disconnected
      callback := if s.branch.rosSubscriberConnectionCount - 1 = 0 then .discard else .idle }
  else s

def stepCallback (cfg : RosConfig) (s : RosState) (desiredActive : Bool) : RosState :=
  match s.callback with
  | .idle => s
  | .beginEpoch =>
    { s with
      branch := s.branch.beginROSEpoch cfg .streamStart
      callback := if s.branch.beginsROSEpoch cfg then .forceKeyframe else .readDesired }
  | .forceKeyframe => { s with callback := .readDesired }
  | .readDesired => { s with callback := if desiredActive then .activate else .armFreshRender }
  | .armFreshRender => { s with callback := .activate }
  | .activate => { s with branch := s.branch.activateConsumers, callback := .idle }
  | .discard => { s with branch := s.branch.discardQueue, callback := .idle }

/-- what `ROSPublisherLoop` takes under the lock -/
def popWork (s : RosState) : RosState :=
  if s.branch.rosPublisherStopping then { s with worker := .stopped }
  else if s.branch.rosCameraInfoPending then
    { s with
      branch := { s.branch with rosCameraInfoPending := false }
      worker := .cameraInfo s.branch.calibrationMetadata }
  else if s.branch.rosStreamInfoPending then
    { s with
      branch := { s.branch with rosStreamInfoPending := false }
      worker := .streamInfo s.branch.streamInfoLocked }
  else
    match s.branch.rosFrameQueue with
    | [] => s
    | frame :: rest =>
      { s with branch := { s.branch with rosFrameQueue := rest }, worker := .frame frame }

def publishCameraInfo (s : RosState) (calibration : NativeCalibrationMetadata) : RosState :=
  { s with
    worker := .waiting
    out := .cameraInfo calibration :: s.out
    publishedCalibrationRevision := calibration.revision }

/-- `PublishStreamInfo`, with its generation check -/
def publishStreamInfo (s : RosState) (snapshot : StreamInfoSnapshot) : RosState :=
  if snapshot.generation = s.branch.rosPublisherGeneration then
    { s with worker := .waiting, out := .streamInfo snapshot :: s.out }
  else { s with worker := .waiting }

/-- `PublishROSFrame`, with its generation check -/
def publishROSFrame (s : RosState) (frame : QueuedROSFrame) : RosState :=
  if frame.generation = s.branch.rosPublisherGeneration then
    { s with worker := .waiting, out := .frame frame :: s.out }
  else { s with worker := .waiting }

def stepWorker (s : RosState) : RosState :=
  match s.worker with
  | .stopped => s
  | .waiting => s.popWork
  | .cameraInfo calibration => s.publishCameraInfo calibration
  | .streamInfo snapshot => s.publishStreamInfo snapshot
  | .frame frame => s.publishROSFrame frame

/-- the exception handler of `RegisterROSPublisher` -/
def registrationFailed (s : RosState) : RosState :=
  { s with branch := s.branch.closeSubscribers, registration := .idle }

def stepRegistration (s : RosState) (succeeds : Bool) : RosState :=
  match s.registration with
  | .idle =>
    if succeeds then { s with branch := s.branch.openPublisher, registration := .opened }
    else s.registrationFailed
  | .opened =>
    if succeeds then { s with branch := s.branch.openSubscribers, registration := .advertised }
    else s.registrationFailed
  | .advertised =>
    if succeeds then { s with branch := s.branch.announce, registration := .announced }
    else s.registrationFailed
  | .announced =>
    if succeeds then { s with worker := .waiting, registration := .registered }
    else s.registrationFailed
  | .registered => s
  | .closed => s

end RosState

/-! ## the machine -/

open RosState in
def rosStep (cfg : RosConfig) (s : RosState) : RosAction → RosState
  | .beginEpoch cause => { s with branch := s.branch.beginROSEpoch cfg cause }
  | .applyCalibration calibration => { s with branch := s.branch.applyCalibration calibration }
  | .describeStream width height fps gopLength =>
    { s with branch := s.branch.describeStream cfg width height fps gopLength }
  | .check unit => s.check cfg unit
  | .enqueue => s.enqueue cfg
  | .connect => s.connect
  | .disconnect => s.disconnect
  | .callback desiredActive => s.stepCallback cfg desiredActive
  | .worker => s.stepWorker
  | .register succeeds => if cfg.rosPublishingEnabled then s.stepRegistration succeeds else s
  | .stopPublisher => { s with branch := s.branch.stopPublisher, registration := .closed }
  | .closeSubscribers => { s with branch := s.branch.closeSubscribers }

/-- the ROS branch with every thread that enters it, from `Load` on -/
def rosMachine (cfg : RosConfig) : Machine RosState RosAction where
  init s := ∃ now pid address calibration width height frameRate interval,
    s = .load (.load (initialEpochToken now pid address) calibration width height frameRate interval)
  step := rosStep cfg

/-- a registered branch with one active consumer, one callback step at a time -/
def RosAction.activation : List RosAction :=
  List.replicate 4 (.register true) ++ .connect :: List.replicate 4 (.callback true)

/-- the branch of a 640x480 camera at 20 Hz -/
def RosState.sample : RosState :=
  .load (.load (initialEpochToken 1 0 0) ⟨1, 640, 480, .plumbBob, [], []⟩ 640 480 20 20)

theorem RosState.sample_reachable (cfg : RosConfig) {C : RosState → RosAction → Prop} :
    (rosMachine cfg).ReachableUnder C .sample :=
  .start ⟨1, 0, 0, _, _, _, _, _, rfl⟩

/-- an access unit of one byte, stamped with a simulation time -/
def AccessUnit.sample (keyframe : Bool) (sourceTimeNanoseconds : Int) : AccessUnit where
  data := [0x65]
  rtpTimestamp := 0
  keyframe := keyframe
  metadata := ⟨0, sourceTimeNanoseconds, 1, 0, 0⟩

/-- both steps of `EnqueueROSAccessUnit` -/
def RosAction.offer (keyframe : Bool) (sourceTimeNanoseconds : Int) : List RosAction :=
  [.check (.sample keyframe sourceTimeNanoseconds), .enqueue]

/-- the frames handed to the video publisher, newest first -/
def RosState.published (s : RosState) : List QueuedROSFrame :=
  s.out.filterMap fun | .frame frame => some frame | _ => none

end MediaCamera
