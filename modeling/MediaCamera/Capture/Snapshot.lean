import MediaCamera.Ros.Branch

/-!
# The snapshot of a capture

`SnapshotResult` travels from the executor (which opens it) over the render thread (which reads
the frame back) and the JPEG worker (which encodes it) back to the executor.  `Snapshot` holds the
members guarded by `snapshotMutex_` and `snapshotEncoderMutex_` and the members of the asynchronous
readback; one definition for each critical section:

* `admission`, `finish`        admission of a capture and the section of `FlushCapture`;
* `frameToCapture`, `submit`, `fail`, `rearm`   the sections of the render thread;
* `queueEncode`, `takeEncode`, `deliver`        the sections around the JPEG worker.

Three members are not in the source: `Snapshot.trail` lists, newest first, what happened to the
captures; `carried` and `encoding` are local variables of the render thread and of the JPEG worker,
the submitted result that each of them works on.
-/

namespace MediaCamera

structure SnapshotResult where
  completed : Bool
  failed : Bool
  captureSubmitted : Bool
  includeRGB : Bool
  jpegQuality : Int
  error : String
  id : String
  generation : Nat
  frameSequence : Nat
  calibrationValid : Bool
  timestampNanoseconds : Int
  width : Nat
  height : Nat
  cameraMatrix : List Double
  distortion : List Double
  renderPosition : List Double
  renderOrientation : List Double
  renderPoseValid : Bool
  jpegBackend : String
  jpegReadback : String
  jpegFallbackReason : String
  rgb : List UInt8
  jpeg : List UInt8
  deriving DecidableEq

def SnapshotResult.empty : SnapshotResult where
  completed := false
  failed := false
  captureSubmitted := false
  includeRGB := true
  jpegQuality := 90
  error := ""
  id := ""
  generation := 0
  frameSequence := 0
  calibrationValid := false
  timestampNanoseconds := 0
  width := 0
  height := 0
  cameraMatrix := List.replicate 9 (.finite 0)
  distortion := List.replicate 5 (.finite 0)
  renderPosition := List.replicate 3 (.finite 0)
  renderOrientation := List.replicate 4 (.finite 0)
  renderPoseValid := false
  jpegBackend := ""
  jpegReadback := ""
  jpegFallbackReason := ""
  rgb := []
  jpeg := []

/-- what a render callback exposes of its frame -/
structure RenderedView where
  width : Nat
  height : Nat
  /-- intrinsics of a perspective projection -/
  projection : Option (List Double)
  distortion : Option (List Double)
  position : List Double
  orientation : List Double
  simTimeNanoseconds : Int
  deriving DecidableEq

/-- a finite matrix with positive focal lengths -/
def projectionValid (matrix : List Double) : Bool :=
  matrix.all (· ≠ .nonfinite) &&
    match matrix with
    | .finite fx :: _ :: _ :: _ :: .finite fy :: _ => decide (0 < fx ∧ 0 < fy)
    | _ => false

/-- source time, pose and intrinsics of the frame that is read back -/
def SnapshotResult.freeze (result : SnapshotResult) (view : RenderedView) (frameSequence : Nat)
    (jpegQuality : Int) : SnapshotResult :=
  { result with
    width := view.width
    height := view.height
    frameSequence := frameSequence
    jpegQuality := jpegQuality
    cameraMatrix := view.projection.getD result.cameraMatrix
    calibrationValid := (view.projection.map projectionValid).getD result.calibrationValid
    distortion := if view.projection.isSome then view.distortion.getD result.distortion
      else result.distortion
    renderPosition := view.position
    renderOrientation := view.orientation
    renderPoseValid := true
    timestampNanoseconds := view.simTimeNanoseconds }

/-- what happens to captures; a render-target callback is named by its `renderFrameSequence_` -/
inductive CaptureEvent where
  /-- a callback begins, with its view and the JPEG quality -/
  | callback (index : Nat) (view : RenderedView) (jpegQuality : Int)
  /-- a capture is admitted for the reply `handle`, with the id of its request -/
  | opened (handle generation : Nat) (id : String)
  /-- a callback lets a capture wait for the next one -/
  | passed (generation index : Nat)
  /-- a callback reads its frame back -/
  | synchronous (index : Nat) (rgb : List UInt8)
  /-- a callback issues the readback of its frame into the buffer -/
  | issued (index : Nat)
  /-- the buffer is mapped -/
  | mapped (rgb : List UInt8)
  /-- work for the capture `work` completes the capture `generation` as failed -/
  | failed (work generation : Nat)
  /-- the encoded `job` completes its capture -/
  | encoded (job : SnapshotResult)
  deriving DecidableEq

structure Snapshot where
  snapshot : SnapshotResult
  snapshotGeneration : Nat
  snapshotRenderPassesToSkip : Nat
  snapshotReadbackPending : Bool
  snapshotReadbackResult : Option SnapshotResult
  snapshotPBOAvailable : Bool
  snapshotPBOFailureReason : String
  snapshotEncodeJob : Option SnapshotResult
  snapshotEncoderStopping : Bool
  snapshotJpegHardwareFusedOff : Bool
  carried : Option SnapshotResult
  encoding : Option SnapshotResult
  trail : List CaptureEvent
  deriving DecidableEq

namespace Snapshot

def load : Snapshot :=
  ⟨.empty, 0, 0, false, none, true, "", none, false, false, none, none, []⟩

def record (s : Snapshot) (e : CaptureEvent) : Snapshot := { s with trail := e :: s.trail }

/-- the section of a capture's admission; the reply `handle` is only recorded -/
def admission (s : Snapshot) (handle : Nat) (id : String) (includeRGB : Bool) : Snapshot :=
  { s with
    snapshotGeneration := s.snapshotGeneration + 1
    snapshotRenderPassesToSkip := 1
    snapshot := { SnapshotResult.empty with
      id := id, generation := s.snapshotGeneration + 1, includeRGB := includeRGB }
    trail := .opened handle (s.snapshotGeneration + 1) id :: s.trail }

/-- the section of `SnapshotNeedsRender`, past its load of `snapshotReadbackPending_` -/
def wantsFrame (s : Snapshot) : Bool :=
  s.snapshot.id != "" && !s.snapshot.completed && !s.snapshot.captureSubmitted

def needsRender (s : Snapshot) : Bool := s.snapshotReadbackPending || s.wantsFrame

/-- the first section of `CaptureSnapshot` in the callback `index`: skip a pass, or take the open
capture -/
def frameToCapture (s : Snapshot) (index : Nat) : Snapshot × Option SnapshotResult :=
  if !s.wantsFrame then (s, none)
  else if 0 < s.snapshotRenderPassesToSkip then
    ({ s with
      snapshotRenderPassesToSkip := s.snapshotRenderPassesToSkip - 1
      trail := .passed s.snapshot.generation index :: s.trail }, none)
  else
    (s, some { SnapshotResult.empty with
      id := s.snapshot.id, generation := s.snapshot.generation
      includeRGB := s.snapshot.includeRGB })

/-- the open capture is the one that `result` belongs to -/
def isFor (s : Snapshot) (result : SnapshotResult) : Bool :=
  s.snapshot.id == result.id && s.snapshot.generation == result.generation &&
    !s.snapshot.completed

/-- the section that marks the capture submitted; false where it is another capture -/
def submit (s : Snapshot) (result : SnapshotResult) : Snapshot × Bool :=
  if s.isFor result then
    ({ s with
      snapshot := { s.snapshot with captureSubmitted := true }
      carried := some result }, true)
  else (s, false)

def idle (s : Snapshot) : Bool := s.snapshot.id == "" || s.snapshot.completed

/-- the section of `CompleteSnapshotFailure`, called in the work for the capture `work` -/
def fail (s : Snapshot) (work : Nat) (error : String) : Snapshot :=
  if s.idle then { s with carried := none }
  else
    { s with
      snapshot := { s.snapshot with failed := true, completed := true, error := error }
      carried := none
      trail := .failed work s.snapshot.generation :: s.trail }

/-- `RearmSnapshotAfterPBOFailure` -/
def rearm (s : Snapshot) (result : SnapshotResult) : Snapshot :=
  if s.isFor result then
    { s with
      snapshot := { s.snapshot with captureSubmitted := false }
      snapshotRenderPassesToSkip := 0
      carried := none }
  else { s with carried := none }

/-- the section of `QueueSnapshotEncode` -/
def queueEncode (s : Snapshot) (result : SnapshotResult) : Snapshot × Bool :=
  if s.snapshotEncoderStopping = true ∨ s.snapshotEncodeJob.isSome = true then (s, false)
  else ({ s with snapshotEncodeJob := some result, carried := none }, true)

/-- the first section of the JPEG worker -/
def takeEncode (s : Snapshot) : Snapshot × Option SnapshotResult :=
  if s.snapshotEncoderStopping then (s, none)
  else ({ s with snapshotEncodeJob := none, encoding := s.snapshotEncodeJob }, s.snapshotEncodeJob)

/-- its last section -/
def deliver (s : Snapshot) (result : SnapshotResult) : Snapshot :=
  if s.isFor result then
    { s with
      snapshot := result
      encoding := none
      trail := (if result.failed then [.failed result.generation s.snapshot.generation]
        else s.encoding.toList.map .encoded) ++ s.trail }
  else { s with encoding := none }

/-- how a capture that `FlushCapture` looks at stands -/
inductive Verdict where
  /-- not finished -/
  | waiting
  | finished (response : SnapshotResult)
  deriving DecidableEq

def forceIDRError : String := "native force-IDR did not accept the capture request"
def deadlineError : String := "camera capture deadline exceeded"

/-- a completed snapshot waits for its keyframe, or fails with it -/
def judgeKeyframe (s : Snapshot) (keyframeGeneration applied failed : Nat) :
    Option SnapshotResult :=
  if keyframeGeneration ≠ 0 ∧ applied ≠ keyframeGeneration then
    if failed ≠ keyframeGeneration then none
    else some { s.snapshot with failed := true, error := forceIDRError }
  else some s.snapshot

/-- the section of `FlushCapture`; `late` is the deadline or the cancellation of the reply -/
def finish (s : Snapshot) (keyframeGeneration applied failed : Nat) (late : Bool) :
    Snapshot × Verdict :=
  let reset := { s with snapshot := .empty, snapshotRenderPassesToSkip := 0 }
  if s.snapshot.completed then
    match s.judgeKeyframe keyframeGeneration applied failed with
    | none => (s, .waiting)
    | some response => (reset, .finished response)
  else if late then
    if !s.snapshot.captureSubmitted && !s.snapshotReadbackPending then
      (reset, .finished { SnapshotResult.empty with failed := true, error := deadlineError })
    else (s, .waiting)
  else (s, .waiting)

end Snapshot

end MediaCamera
