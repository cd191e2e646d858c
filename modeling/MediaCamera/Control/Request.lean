import MediaCamera.Control.Json

/-!
# Requests, receipts and the executor's own state

`HandleControlRequest` and `FlushControl` run on one executor thread.  `Executor` holds the
members that only this thread touches, and the functions here are what the handler computes from
them without any shared access: the route of a request, the checks before admission, the desired
configuration of a mutation, the receipt ring.

A refusal is an `Except` error with the status, code and message of the reply; an exception
`std::invalid_argument` is the refusal `invalid` that `Dispatch` turns it into.  Revisions are
`Nat`; a reply handle is the number of the request it answers.
-/

namespace MediaCamera

/-! ## operations -/

/-- `NativeControlCommand::kind` and the operation names of the mutations -/
inductive ControlKind where
  | config
  | start
  | stop
  | requestKeyframe
  deriving DecidableEq, Repr

inductive Operation where
  | mutation (kind : ControlKind)
  | capture
  deriving DecidableEq, Repr

structure ControlRequest where
  method : String
  request_id : String
  deadline : Int
  deriving DecidableEq, Repr

/-- the branches of `HandleControlRequest` -/
inductive Route where
  | describe
  | status
  | configuration
  | receipts (id : String)
  | observe (sequence : List Char)
  | capture
  | mutation (kind : ControlKind)
  | unsupported
  deriving DecidableEq, Repr

/-- `operation.compare(0, n, key) == 0` and `operation.substr(n)` -/
def afterPrefix (key operation : String) : Option (List Char) :=
  if key.toList.isPrefixOf operation.toList then some (operation.toList.drop key.toList.length)
  else none

def Route.parse (method operation : String) : Route :=
  if method = "GET" ∧ operation = "describe" then .describe
  else if method = "GET" ∧ operation = "status" then .status
  else if method = "GET" ∧ operation = "config" then .configuration
  else
    match decide (method = "GET"), afterPrefix "receipts/" operation,
      afterPrefix "observe/" operation with
    | true, some id, _ => .receipts (String.ofList id)
    | true, none, some sequence => .observe sequence
    | _, _, _ =>
      if method = "POST" ∧ operation = "capture" then .capture
      else if method = "POST" ∧ operation = "start" then .mutation .start
      else if method = "POST" ∧ operation = "stop" then .mutation .stop
      else if method = "POST" ∧ operation = "request-keyframe" then .mutation .requestKeyframe
      else if method = "PATCH" ∧ operation = "config" then .mutation .config
      else .unsupported

/-! ## replies -/

structure ControlError where
  status : Nat
  code : String
  message : String
  deriving DecidableEq, Repr

def invalid (message : String) : ControlError := ⟨400, "invalid_argument", message⟩

/-- the members of `desiredConfig_` and `appliedConfig_` that a request can change -/
structure Configuration where
  active : Bool
  jpeg_quality : Int
  calibration : Option CalibrationDocument
  deriving DecidableEq, Repr

inductive ReceiptStage where
  | completed
  | failed
  deriving DecidableEq, Repr

/-- a receipt; `operation_id` is always its `request_id` -/
structure Receipt where
  request_id : String
  operation : Operation
  stage : ReceiptStage
  desired_revision : Nat
  applied_revision : Nat
  event_revision : Nat
  error : String
  deriving DecidableEq, Repr

inductive LifecycleState where
  | idle
  | starting
  | active
  | stopping
  | faulted
  deriving DecidableEq, Repr

/-- the members of `CameraStatus` that vary after `Load` -/
structure CameraStatus where
  state : LifecycleState
  applied_active : Bool
  desired_revision : Nat
  applied_revision : Nat
  encoder_ready : Bool
  rtp_in_flight : Bool
  width : Nat
  height : Nat
  fps : ℚ
  published_calibration_revision : Nat
  desired : Configuration
  applied : Configuration
  effective_time : Int
  event_revision : Nat
  pending : Bool
  last_receipt : Option Receipt
  ros_consumers_active : Bool
  native_sensor_active : Bool
  rtp_requested_active : Bool
  deriving DecidableEq

structure CameraDescriptor where
  width : Nat
  height : Nat
  fps : ℚ
  deriving DecidableEq

/-! ## commands and records -/

structure NativeControlCommand where
  revision : Nat
  active : Bool
  jpegQuality : Int
  keyframe : Bool
  calibration : Option NativeCalibrationMetadata
  kind : ControlKind
  deriving DecidableEq, Repr

structure PendingControl where
  reply : Nat
  requestID : String
  operation : ControlKind
  deadline : Int
  revision : Nat
  calibration : Bool
  deriving DecidableEq, Repr

structure ControlWatcher where
  reply : Nat
  deadline : Int
  after : Nat
  deriving DecidableEq, Repr

/-- the members that only the executor thread touches; `nextReply` numbers the requests, and
`captureRecording`, not in the source, tells that the capture is reserved or released while
`captureSlotHeld_` does not say so yet -/
structure Executor where
  pendingControl : Option PendingControl
  controlWatchers : List (Option ControlWatcher)
  controlReceipts : List (Option Receipt)
  nextControlReceipt : Nat
  desiredRevision : Nat
  appliedRevision : Nat
  controlEventRevision : Nat
  desiredConfig : Configuration
  appliedConfig : Configuration
  appliedTimeNanoseconds : Int
  captureSlotHeld : Bool
  captureReply : Option Nat
  captureRequestID : String
  captureDeadline : Int
  captureKeyframeGeneration : Nat
  captureRecording : Bool
  nextReply : Nat
  deriving DecidableEq

def kObservers : Nat := 4
def kReceipts : Nat := 32

namespace Executor

def load (configuration : Configuration) : Executor where
  pendingControl := none
  controlWatchers := List.replicate kObservers none
  controlReceipts := List.replicate kReceipts none
  nextControlReceipt := 0
  desiredRevision := 1
  appliedRevision := 1
  controlEventRevision := 0
  desiredConfig := configuration
  appliedConfig := configuration
  appliedTimeNanoseconds := 0
  captureSlotHeld := false
  captureReply := none
  captureRequestID := ""
  captureDeadline := 0
  captureKeyframeGeneration := 0
  captureRecording := false
  nextReply := 0

/-! ## receipts -/

def newReceipt (e : Executor) (requestID : String) (operation : Operation) (stage : ReceiptStage)
    (error : String) : Receipt where
  request_id := requestID
  operation := operation
  stage := stage
  desired_revision := e.desiredRevision
  applied_revision := e.appliedRevision
  event_revision := e.controlEventRevision + 1
  error := error

/-- `RememberReceipt`: the ring takes the receipt and the event revision moves -/
def remember (e : Executor) (receipt : Receipt) : Executor :=
  { e with
    controlEventRevision := e.controlEventRevision + 1
    controlReceipts := e.controlReceipts.set (e.nextControlReceipt % kReceipts) (some receipt)
    nextControlReceipt := e.nextControlReceipt + 1 }

/-- the identity in a slot of the ring: an empty slot's `asString()` is the empty string -/
def slotID (slot : Option Receipt) : String := (slot.map (·.request_id)).getD ""

def remembers (e : Executor) (id : String) : Bool := e.controlReceipts.any (slotID · == id)

def lastReceipt (e : Executor) : Option Receipt :=
  if 0 < e.nextControlReceipt then
    e.controlReceipts.getD ((e.nextControlReceipt - 1) % kReceipts) none
  else none

def alreadyUsed : ControlError :=
  ⟨409, "conflict", "request_id was already used; read its receipt"⟩

/-! ## observation -/

def observationDigit (after : Nat) (c : Char) : Option Nat :=
  if '0' ≤ c ∧ c ≤ '9' ∧ after ≤ (2 ^ 64 - 1 - (c.toNat - '0'.toNat)) / 10 then
    some (after * 10 + (c.toNat - '0'.toNat))
  else none

def observationRevision (sequence : List Char) : Except ControlError Nat :=
  if sequence = [] ∨ 20 < sequence.length ∨ (1 < sequence.length ∧ sequence.head? = some '0') then
    .error (invalid "invalid observation revision")
  else
    match sequence.foldlM observationDigit 0 with
    | some after => .ok after
    | none => .error (invalid "invalid observation revision")

def watch (watcher : ControlWatcher) :
    List (Option ControlWatcher) → Option (List (Option ControlWatcher))
  | [] => none
  | none :: rest => some (some watcher :: rest)
  | some w :: rest => (watch watcher rest).map (some w :: ·)

/-! ## capture -/

def safeSourceIdentifier (value : String) : Bool :=
  !value.toList.isEmpty && decide (value.toList.length ≤ 128) &&
    value.toList.all (fun c => ('a' ≤ c ∧ c ≤ 'z') ∨ ('A' ≤ c ∧ c ≤ 'Z') ∨ ('0' ≤ c ∧ c ≤ '9') ∨
      c = '-' ∨ c = '_' ∨ c = '.')

/-- the options of a capture that passed the checks -/
structure CaptureOptions where
  snapshotId : String
  includeRgb : Bool
  requestKeyframe : Bool
  deriving DecidableEq, Repr

def boolField (input : Json) (field : String) (fallback : Bool) : Except ControlError Bool :=
  match input.get? field with
  | none => .ok fallback
  | some value =>
    match value.bool? with
    | some b => .ok b
    | none => .error (invalid (field ++ " must be a boolean"))

/-- the checks of `POST capture` that come before `nativeAppliedActive_` is read -/
def captureOptions (e : Executor) (request : ControlRequest) (input : Json) :
    Except ControlError CaptureOptions := do
  if e.remembers request.request_id then throw alreadyUsed
  (requireFields input ["snapshotId", "includeRgb", "requireFresh", "requestKeyframe"]).mapError
    invalid
  let includeRgb ← boolField input "includeRgb" true
  let _ ← boolField input "requireFresh" false
  let requestKeyframe ← boolField input "requestKeyframe" false
  match input.get? "snapshotId" with
  | none => return ⟨request.request_id, includeRgb, requestKeyframe⟩
  | some value =>
    match value.string? with
    | some id =>
      if safeSourceIdentifier id then return ⟨id, includeRgb, requestKeyframe⟩
      else throw (invalid "snapshotId must be a stable source identifier")
    | none => throw (invalid "snapshotId must be a stable source identifier")

/-! ## mutations -/

def checkMutation (e : Executor) (kind : ControlKind) (input : Json) : Except ControlError Unit := do
  (requireFields input
    (if kind = .config then ["expected_revision", "persist", "config"] else [])).mapError invalid
  if ← boolField input "persist" false then
    throw ⟨400, "invalid_argument",
      "Gazebo camera configuration is ephemeral; persist is unsupported"⟩
  if kind = .config ∧ input.isMember "expected_revision" = false then
    throw (invalid "expected_revision is required for config")
  match input.get? "expected_revision" with
  | none => pure ()
  | some value =>
    match value.number?.bind (·.uint64?) with
    | none => throw (invalid "expected_revision must be an unsigned integer")
    | some expected =>
      if expected ≠ e.desiredRevision then
        throw ⟨409, "conflict", "camera configuration revision differs"⟩
  if e.pendingControl.isSome then
    throw ⟨429, "resource_exhausted", "camera native mutation slot is busy"⟩

theorem except_bind_ok {ε α β : Type} {x : Except ε α} {f : α → Except ε β} {b : β}
    (h : (x >>= f) = .ok b) : ∃ a, x = .ok a ∧ f a = .ok b := by
  cases x with
  | error e => cases h
  | ok a => exact ⟨a, rfl, h⟩

theorem captureOptions_ok {e : Executor} {request : ControlRequest} {input : Json}
    {options : CaptureOptions} (h : e.captureOptions request input = .ok options) :
    e.remembers request.request_id = false := by
  unfold captureOptions at h
  by_contra hused
  have hused : e.remembers request.request_id = true := by simpa using hused
  rw [if_pos hused] at h
  cases h

theorem checkMutation_ok {e : Executor} {kind : ControlKind} {input : Json}
    (h : e.checkMutation kind input = .ok ()) : e.pendingControl = none := by
  unfold checkMutation at h
  obtain ⟨_, _, h⟩ := except_bind_ok h
  obtain ⟨_, _, h⟩ := except_bind_ok h
  by_contra hsome
  have hbusy : e.pendingControl.isSome = true := Option.isSome_iff_ne_none.mpr hsome
  simp only [hbusy, if_true] at h
  repeat' split at h
  all_goals cases h

/-- what a mutation that passed all checks changes: the desired configuration, with the document
of the calibration it carries -/
structure Desired where
  configuration : Configuration
  calibration : Option CalibrationDocument
  deriving DecidableEq, Repr

def desiredQuality (current : Configuration) (config : Json) : Except ControlError Int :=
  match config.get? "jpeg_quality" with
  | none => .ok current.jpeg_quality
  | some value => (jpegQuality value).mapError invalid

def desiredCalibration (rosPublishingEnabled : Bool) (streamWidth streamHeight : Nat)
    (config : Json) : Except ControlError (Option CalibrationDocument) :=
  match config.get? "calibration" with
  | none => .ok none
  | some calibration =>
    if rosPublishingEnabled then
      some <$> (CalibrationDocument.parse streamWidth streamHeight calibration).mapError invalid
    else .error ⟨503, "unavailable", "CameraInfo data publication is disabled"⟩

def desiredConfiguration (rosPublishingEnabled : Bool) (streamWidth streamHeight : Nat)
    (current : Configuration) (config : Json) : Except ControlError Desired := do
  if !config.isObject || config.fields.isEmpty then
    throw (invalid "config must be a nonempty object")
  (requireFields config ["jpeg_quality", "calibration", "rtp_host", "rtp_port", "bitrate"]).mapError
    invalid
  if let some field := ["rtp_host", "rtp_port", "bitrate"].find? config.isMember then
    throw ⟨409, "restart_required", field ++ " is an authored startup binding"⟩
  let quality ← desiredQuality current config
  let calibration ← desiredCalibration rosPublishingEnabled streamWidth streamHeight config
  return ⟨{ current with
    jpeg_quality := quality, calibration := calibration.or current.calibration }, calibration⟩

/-- the checks of a mutation that come after `nativeAppliedActive_` is read, and its desired
configuration -/
def desiredMutation (e : Executor) (rosPublishingEnabled : Bool) (streamWidth streamHeight : Nat)
    (kind : ControlKind) (request : ControlRequest) (input : Json) :
    Except ControlError Desired := do
  if e.remembers request.request_id then throw alreadyUsed
  match kind with
  | .config =>
    desiredConfiguration rosPublishingEnabled streamWidth streamHeight e.desiredConfig
      ((input.get? "config").getD .null)
  | .requestKeyframe => return ⟨e.desiredConfig, none⟩
  | .start => return ⟨{ e.desiredConfig with active := true }, none⟩
  | .stop => return ⟨{ e.desiredConfig with active := false }, none⟩

theorem desiredMutation_ok {e : Executor} {rosPublishingEnabled : Bool}
    {streamWidth streamHeight : Nat} {kind : ControlKind} {request : ControlRequest} {input : Json}
    {desired : Desired}
    (h : e.desiredMutation rosPublishingEnabled streamWidth streamHeight kind request input =
      .ok desired) : e.remembers request.request_id = false := by
  unfold desiredMutation at h
  by_contra hused
  have hused : e.remembers request.request_id = true := by simpa using hused
  rw [if_pos hused] at h
  cases h

/-- what an admitted mutation makes of the desired configuration -/
structure Desired.Follows (rosPublishingEnabled : Bool) (current : Configuration)
    (kind : ControlKind) (desired : Desired) : Prop where
  active : desired.configuration.active =
    if kind = .start then true else if kind = .stop then false else current.active
  quality : kind ≠ .config → desired.configuration.jpeg_quality = current.jpeg_quality
  plain : kind ≠ .config → desired.calibration = none
  calibration : desired.configuration.calibration = desired.calibration.or current.calibration
  enabled : desired.calibration.isSome = true → rosPublishingEnabled = true

theorem desiredCalibration_enabled {rosPublishingEnabled : Bool} {streamWidth streamHeight : Nat}
    {config : Json} {calibration : Option CalibrationDocument}
    (h : desiredCalibration rosPublishingEnabled streamWidth streamHeight config = .ok calibration) :
    calibration.isSome = true → rosPublishingEnabled = true := by
  unfold desiredCalibration at h
  split at h
  · cases h; simp
  split at h
  · exact fun _ => ‹_›
  · cases h

theorem desiredConfiguration_follows {rosPublishingEnabled : Bool} {streamWidth streamHeight : Nat}
    {current : Configuration} {config : Json} {desired : Desired}
    (h : desiredConfiguration rosPublishingEnabled streamWidth streamHeight current config =
      .ok desired) : desired.Follows rosPublishingEnabled current .config := by
  unfold desiredConfiguration at h
  dsimp only at h
  split at h
  · cases h
  obtain ⟨_, _, h⟩ := except_bind_ok h
  split at h
  · cases h
  obtain ⟨quality, _, h⟩ := except_bind_ok h
  obtain ⟨calibration, hcalibration, h⟩ := except_bind_ok h
  cases h
  exact ⟨rfl, fun hne => absurd rfl hne, fun hne => absurd rfl hne, rfl,
    desiredCalibration_enabled hcalibration⟩

theorem desiredMutation_follows {e : Executor} {rosPublishingEnabled : Bool}
    {streamWidth streamHeight : Nat} {kind : ControlKind} {request : ControlRequest} {input : Json}
    {desired : Desired}
    (h : e.desiredMutation rosPublishingEnabled streamWidth streamHeight kind request input =
      .ok desired) : desired.Follows rosPublishingEnabled e.desiredConfig kind := by
  unfold desiredMutation at h
  dsimp only at h
  split at h
  · cases h
  cases kind with
  | config => exact desiredConfiguration_follows h
  | start | stop | requestKeyframe =>
    cases h
    exact ⟨rfl, fun _ => rfl, fun _ => rfl, rfl, fun h => by cases h⟩

end Executor

end MediaCamera
