import MediaCamera.Machine.Run

/-!
# The ROS branch of the encoder: data and locked sections

The fields of `XGCMediaCameraPlugin` that `rosPublisherMutex_` and `rosConsumerMutex_` guard, and
the critical sections that change them, one definition for each section:

* `advanceROSEpochLocked`, `beginROSEpoch`, `rosHasPendingEpoch`   epoch changes;
* `enqueueLocked`         the locked part of `EnqueueROSAccessUnit`;
* `connected`, `activateConsumers`, `disconnected`, `discardQueue`   the locked sections of the
                          two subscriber callbacks;
* `popWork`               what `ROSPublisherLoop` takes under the lock.

Sequence numbers, generations and drop counters are `Nat` (the source counts them in 64 bits);
an epoch token is a 64-bit word, because `NextEpochToken` is about its wrap.
-/

namespace MediaCamera

/-! ## frames -/

/-- why an epoch starts: `FrameTiming::DISCONTINUITY_*` without `DISCONTINUITY_NONE`, which is
`none : Option EpochCause` -/
inductive EpochCause where
  | streamStart
  | sourceTimeReset
  | encoderReset
  | queueOverflow
  deriving DecidableEq, Repr

/-- what `EncodeRenderedFrame` remembers of a frame submitted to NVENC -/
structure PendingEncodedFrame where
  encoderTimestamp : Nat
  sourceTimeNanoseconds : Int
  sourceSequence : Nat
  keyframeControlRevision : Nat
  captureKeyframeGeneration : Nat
  deriving DecidableEq, Repr

/-- the arguments of `EnqueueROSAccessUnit` -/
structure AccessUnit where
  data : List UInt8
  rtpTimestamp : UInt32
  keyframe : Bool
  metadata : PendingEncodedFrame
  deriving DecidableEq, Repr

/-- `epochIndex` and `offer` are not in the source: they number the epoch advances and the access
units examined under the lock, so that statements can name a frame's epoch and its place. -/
structure QueuedROSFrame where
  annexB : List UInt8
  sourceTimeNanoseconds : Int
  sourceSequence : Nat
  epoch : UInt64
  frameSequence : Nat
  generation : Nat
  rtpTimestamp : UInt32
  droppedFramesBefore : Nat
  discontinuity : Option EpochCause
  keyframe : Bool
  epochIndex : Nat
  offer : Nat
  deriving DecidableEq, Repr

inductive DistortionModel where
  | plumbBob
  | rationalPolynomial
  | equidistant
  deriving DecidableEq, Repr

/-- a C++ `double`: a finite value or one of the infinities and NaN -/
inductive Double where
  | finite (value : ℚ)
  | nonfinite
  deriving DecidableEq, Repr

structure NativeCalibrationMetadata where
  revision : Nat
  width : Nat
  height : Nat
  model : DistortionModel
  matrix : List Double
  distortion : List Double
  deriving DecidableEq, Repr

structure StreamInfoSnapshot where
  epoch : UInt64
  generation : Nat
  width : Nat
  height : Nat
  frameRate : ℚ
  keyframeIntervalFrames : Nat
  deriving DecidableEq, Repr

/-! ## the guarded state -/

/-- the part of the configuration that the ROS branch reads; `Load` clamps the capacity -/
structure RosConfig where
  rosPublishingEnabled : Bool
  rosPublisherQueueCapacity : Nat
  capacity_pos : 1 ≤ rosPublisherQueueCapacity
  capacity_le : rosPublisherQueueCapacity ≤ 128

/-- `std::clamp(value, 1, 128)` in `Load` -/
def RosConfig.load (rosPublishEnabled : Bool) (rosPublisherQueueCapacity : Int) : RosConfig where
  rosPublishingEnabled := rosPublishEnabled
  rosPublisherQueueCapacity := (max 1 (min 128 rosPublisherQueueCapacity)).toNat
  capacity_pos := by omega
  capacity_le := by omega

structure RosBranch where
  rosFrameQueue : List QueuedROSFrame
  rosPublisherStopping : Bool
  rosStreamInfoPending : Bool
  rosCameraInfoPending : Bool
  rosWaitingForIDR : Bool
  rosDroppedFramesBeforeIDR : Nat
  rosPublisherGeneration : Nat
  streamEpoch : UInt64
  nextPublishedFrameSequence : Nat
  pendingDiscontinuity : Option EpochCause
  calibrationMetadata : NativeCalibrationMetadata
  streamWidth : Nat
  streamHeight : Nat
  streamFrameRate : ℚ
  streamKeyframeIntervalFrames : Nat
  rosSubscriberCallbacksEnabled : Bool
  rosSubscriberConnectionCount : Nat
  rosConsumersActive : Bool
  epochIndex : Nat
  offered : Nat
  deriving DecidableEq

/-- `InitialEpochToken`, of the clock, the process and the object address -/
def initialEpochToken (now pid address : UInt64) : UInt64 :=
  let token := now ^^^ (pid <<< 32) ^^^ address
  if token = 0 then 1 else token

/-- `NextEpochToken`: 64-bit increment that skips zero -/
def nextEpochToken (current : UInt64) : UInt64 :=
  if current + 1 = 0 then 1 else current + 1

theorem initialEpochToken_ne_zero (now pid address : UInt64) :
    initialEpochToken now pid address ≠ 0 := by
  show (if _ = 0 then _ else _) ≠ _
  split
  · decide
  · assumption

theorem nextEpochToken_ne_zero (current : UInt64) : nextEpochToken current ≠ 0 := by
  unfold nextEpochToken
  split
  · decide
  · assumption

namespace RosBranch

/-- the branch as `Load` leaves it, before any registration with a ROS master -/
def load (token : UInt64) (calibration : NativeCalibrationMetadata) (width height : Nat)
    (frameRate : ℚ) (keyframeIntervalFrames : Nat) : RosBranch where
  rosFrameQueue := []
  rosPublisherStopping := false
  rosStreamInfoPending := false
  rosCameraInfoPending := false
  rosWaitingForIDR := true
  rosDroppedFramesBeforeIDR := 0
  rosPublisherGeneration := 0
  streamEpoch := token
  nextPublishedFrameSequence := 0
  pendingDiscontinuity := some .streamStart
  calibrationMetadata := calibration
  streamWidth := width
  streamHeight := height
  streamFrameRate := frameRate
  streamKeyframeIntervalFrames := keyframeIntervalFrames
  rosSubscriberCallbacksEnabled := false
  rosSubscriberConnectionCount := 0
  rosConsumersActive := false
  epochIndex := 0
  offered := 0

/-! ## epochs -/

def advanceROSEpochLocked (r : RosBranch) (discontinuity : EpochCause)
    (additionallyDroppedFrames : Nat) : RosBranch :=
  { r with
    rosDroppedFramesBeforeIDR :=
      r.rosDroppedFramesBeforeIDR + (r.rosFrameQueue.length + additionallyDroppedFrames)
    rosFrameQueue := []
    streamEpoch := nextEpochToken r.streamEpoch
    nextPublishedFrameSequence := 0
    pendingDiscontinuity := some discontinuity
    rosWaitingForIDR := true
    rosPublisherGeneration := r.rosPublisherGeneration + 1
    rosStreamInfoPending := true
    epochIndex := r.epochIndex + 1 }

/-- whether `BeginROSEpoch` reaches its `forceKeyframe_` store -/
def beginsROSEpoch (cfg : RosConfig) (r : RosBranch) : Bool :=
  cfg.rosPublishingEnabled && !r.rosPublisherStopping

/-- the locked section of `BeginROSEpoch` -/
def beginROSEpoch (cfg : RosConfig) (r : RosBranch) (discontinuity : EpochCause) : RosBranch :=
  if r.beginsROSEpoch cfg then r.advanceROSEpochLocked discontinuity 0 else r

def rosHasPendingEpoch (r : RosBranch) : Bool :=
  r.rosWaitingForIDR && r.nextPublishedFrameSequence == 0

/-! ## access units -/

/-- the unlocked guard of `EnqueueROSAccessUnit` -/
def accepts (cfg : RosConfig) (r : RosBranch) (unit : AccessUnit) : Bool :=
  cfg.rosPublishingEnabled && r.rosConsumersActive && !unit.data.isEmpty

def maximumUInt32 : Nat := 4294967295

/-- the frame that an accepted access unit becomes: sequence number, epoch and generation of the
branch, and on a waited-for IDR the pending discontinuity and drop count -/
def stampFrame (r : RosBranch) (offer : Nat) (unit : AccessUnit) : QueuedROSFrame where
  annexB := unit.data
  sourceTimeNanoseconds := unit.metadata.sourceTimeNanoseconds
  sourceSequence := unit.metadata.sourceSequence
  epoch := r.streamEpoch
  frameSequence := r.nextPublishedFrameSequence
  generation := r.rosPublisherGeneration
  rtpTimestamp := unit.rtpTimestamp
  droppedFramesBefore :=
    if r.rosWaitingForIDR then min r.rosDroppedFramesBeforeIDR maximumUInt32 else 0
  discontinuity := if r.rosWaitingForIDR then r.pendingDiscontinuity else none
  keyframe := unit.keyframe
  epochIndex := r.epochIndex
  offer := offer

/-- the end of the locked section: the frame is stamped and queued -/
def pushFrame (r : RosBranch) (offer : Nat) (unit : AccessUnit) : RosBranch :=
  { r with
    rosFrameQueue := r.rosFrameQueue ++ [r.stampFrame offer unit]
    nextPublishedFrameSequence := r.nextPublishedFrameSequence + 1
    rosDroppedFramesBeforeIDR := if r.rosWaitingForIDR then 0 else r.rosDroppedFramesBeforeIDR
    pendingDiscontinuity := if r.rosWaitingForIDR then none else r.pendingDiscontinuity
    rosWaitingForIDR := false }

/-- the access unit is examined under the lock: it gets the next offer number -/
def examined (r : RosBranch) : RosBranch := { r with offered := r.offered + 1 }

/-- an access unit that must wait for an IDR: counted, and an IDR is requested -/
def dropDelta (r : RosBranch) : RosBranch :=
  { r with rosDroppedFramesBeforeIDR := r.rosDroppedFramesBeforeIDR + 1 }

/-- the state in which the locked section decides about waiting: after an overflow, the next
epoch's -/
def overflowed (cfg : RosConfig) (r : RosBranch) (unit : AccessUnit) : RosBranch :=
  if cfg.rosPublisherQueueCapacity ≤ r.rosFrameQueue.length then
    r.advanceROSEpochLocked .queueOverflow (if unit.keyframe then 0 else 1)
  else r

/-- the locked section of `EnqueueROSAccessUnit` with whether it stores `forceKeyframe_` -/
def enqueueLocked (cfg : RosConfig) (r : RosBranch) (unit : AccessUnit) : RosBranch × Bool :=
  if r.rosPublisherStopping then (r, false)
  else
    let ready := r.examined.overflowed cfg unit
    if cfg.rosPublisherQueueCapacity ≤ r.rosFrameQueue.length ∧ unit.keyframe = false then
      (ready, true)
    else if ready.rosWaitingForIDR = true ∧ unit.keyframe = false then (ready.dropDelta, true)
    else (ready.pushFrame r.offered unit, false)

def enqueuedFrame (cfg : RosConfig) (r : RosBranch) (unit : AccessUnit) : Option QueuedROSFrame :=
  let ready := r.examined.overflowed cfg unit
  if r.rosPublisherStopping = true ∨ (ready.rosWaitingForIDR = true ∧ unit.keyframe = false) then none
  else some (ready.stampFrame r.offered unit)

/-! ## subscribers -/

/-- the first locked section of `OnROSSubscriberConnected` -/
def connected (r : RosBranch) : RosBranch :=
  { r with rosSubscriberConnectionCount := r.rosSubscriberConnectionCount + 1 }

/-- the last locked section of `OnROSSubscriberConnected` -/
def activateConsumers (r : RosBranch) : RosBranch :=
  if r.rosSubscriberCallbacksEnabled ∧ 0 < r.rosSubscriberConnectionCount then
    { r with rosConsumersActive := true }
  else r

/-- the first locked section of `OnROSSubscriberDisconnected`, past its guard -/
def disconnected (r : RosBranch) : RosBranch :=
  { r with
    rosSubscriberConnectionCount := r.rosSubscriberConnectionCount - 1
    rosConsumersActive :=
      if r.rosSubscriberConnectionCount - 1 = 0 then false else r.rosConsumersActive }

/-- the second locked section of `OnROSSubscriberDisconnected`, for the last connection -/
def discardQueue (r : RosBranch) : RosBranch :=
  if r.rosPublisherStopping then r
  else
    { r with
      rosDroppedFramesBeforeIDR := r.rosDroppedFramesBeforeIDR + r.rosFrameQueue.length
      rosFrameQueue := []
      rosPublisherGeneration := r.rosPublisherGeneration + 1 }

/-! ## native updates -/

/-- `ApplyNativeControl` with a calibration, under the publisher lock -/
def applyCalibration (r : RosBranch) (calibration : NativeCalibrationMetadata) : RosBranch :=
  { r with calibrationMetadata := calibration, rosCameraInfoPending := true }

/-- the locked section of `EnsureEncoder` -/
def describeStream (cfg : RosConfig) (r : RosBranch) (width height : Nat) (fps : ℚ)
    (gopLength : Nat) : RosBranch :=
  { r with
    streamWidth := width
    streamHeight := height
    streamFrameRate := fps
    streamKeyframeIntervalFrames := gopLength
    rosStreamInfoPending := cfg.rosPublishingEnabled }

/-! ## registration and stop -/

/-- `RegisterROSPublisher` re-opens the publisher side -/
def openPublisher (r : RosBranch) : RosBranch := { r with rosPublisherStopping := false }

/-- `RegisterROSPublisher` enables the subscriber callbacks -/
def openSubscribers (r : RosBranch) : RosBranch :=
  { r with rosSubscriberCallbacksEnabled := true, rosSubscriberConnectionCount := 0 }

/-- `RegisterROSPublisher` asks the worker for both latched messages -/
def announce (r : RosBranch) : RosBranch :=
  { r with rosStreamInfoPending := true, rosCameraInfoPending := true }

/-- the consumer section of a failed registration and of `StopROSPublisher` -/
def closeSubscribers (r : RosBranch) : RosBranch :=
  { r with
    rosSubscriberCallbacksEnabled := false
    rosSubscriberConnectionCount := 0
    rosConsumersActive := false }

/-- the publisher section of `StopROSPublisher` -/
def stopPublisher (r : RosBranch) : RosBranch :=
  { r with
    rosPublisherStopping := true
    rosFrameQueue := []
    rosStreamInfoPending := false
    rosPublisherGeneration := r.rosPublisherGeneration + 1 }

/-! ## the worker -/

def streamInfoLocked (r : RosBranch) : StreamInfoSnapshot where
  epoch := r.streamEpoch
  generation := r.rosPublisherGeneration
  width := r.streamWidth
  height := r.streamHeight
  frameRate := r.streamFrameRate
  keyframeIntervalFrames := r.streamKeyframeIntervalFrames

end RosBranch

end MediaCamera
