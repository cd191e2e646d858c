import MediaCamera.Plugin.State

/-!
# The executor thread

`HandleControlRequest` and `FlushControl`, one line for each atomic access or critical section.
The members that only this thread touches are read and written in steps of their own, or together
with the access next to them.

* `handleControlRequest`   one definition for each route; `admitMutation` and `admitCapture` are
                           the admissions;
* `flushControl`           the completion, failure or deadline of the pending mutation, the capture
                           and the observers.
-/

namespace MediaCamera

/-! ## HandleControlRequest -/

/-- `GET receipts/{id}` -/
def handleReceipts (handle : Nat) (input : Json) (id : String) : Thread Unit := do
  match requireFields input [] with
  | .error message => reply handle (.error (invalid message))
  | .ok () =>
    match ← read (fun s => s.ctl.controlReceipts.find? (Executor.slotID · == id)) with
    | some slot => reply handle (.receipt slot)
    | none => reply handle (.error ⟨404, "not_found", "receipt has expired or was not accepted"⟩)

/-- `GET observe/{revision}` -/
def handleObserve (handle : Nat) (request : ControlRequest) (input : Json)
    (sequence : List Char) : Thread Unit := do
  match requireFields input [] with
  | .error message => reply handle (.error (invalid message))
  | .ok () =>
    match Executor.observationRevision sequence with
    | .error e => reply handle (.error e)
    | .ok after =>
      let event ← read (·.ctl.controlEventRevision)
      if event < after then
        reply handle (.error ⟨409, "conflict", "observation revision is ahead of provider"⟩)
      else if after < event then
        let status ← read (·.cameraStatus)
        reply handle (.status status)
      else
        let watching ← access (fun s =>
          match Executor.watch ⟨handle, request.deadline, after⟩ s.ctl.controlWatchers with
          | some watchers => ({ s with ctl.controlWatchers := watchers }, true)
          | none => (s, false))
        if !watching then
          reply handle (.error ⟨429, "resource_exhausted", "camera observers are full"⟩)

/-- `CameraSourceControlHost::ReserveCapture` -/
def reserveCapture : Thread Bool :=
  access (fun s =>
    if s.flags.captureReserved then (s, false)
    else ({ s with flags.captureReserved := true, ctl.captureRecording := true }, true))

/-- `CameraSourceControlHost::ReleaseCapture` -/
def releaseCapture : Thread Unit :=
  write (fun s => { s with flags.captureReserved := false, ctl.captureRecording := true })

def noActiveEncoder : ControlError :=
  ⟨409, "conflict", "native force-IDR requires an active encoder"⟩

/-- the budget of a capture in nanoseconds -/
def kCaptureBudget : Int := 4000000000

def admitCapture (handle : Nat) (request : ControlRequest) (options : Executor.CaptureOptions)
    (now : Int) : Thread Unit := do
  if !(← reserveCapture) then
    reply handle (.error ⟨429, "resource_exhausted", "camera capture slot is busy"⟩)
  else
    let keyframeGeneration ← access (fun s =>
      let snap := s.snap.admission handle options.snapshotId options.includeRgb
      let generation := if options.requestKeyframe then snap.snapshot.generation else 0
      ({ s with snap := snap, ctl.captureKeyframeGeneration := generation }, generation))
    if keyframeGeneration ≠ 0 then
      .atomic .demandKeyframe (fun s =>
        ({ s with
          cap.pending := keyframeGeneration
          log := .keyframeDemanded keyframeGeneration :: s.log }, ()))
      storeForceKeyframe
    .atomic (.openCapture request.request_id) (fun s => ({ s with
      ctl.captureSlotHeld := true
      ctl.captureRecording := false
      ctl.captureReply := some handle
      ctl.captureRequestID := request.request_id
      ctl.captureDeadline := min request.deadline (now + kCaptureBudget) }, ()))

/-- `POST capture` -/
def handleCapture (handle : Nat) (request : ControlRequest) (input : Json) (now : Int) :
    Thread Unit := do
  match ← read (·.ctl.captureOptions request input) with
  | .error e => reply handle (.error e)
  | .ok options =>
    let active ← if options.requestKeyframe then read (·.nat.nativeAppliedActive) else pure true
    if !active then reply handle (.error noActiveEncoder)
    else admitCapture handle request options now

/-- the command of an admitted mutation; a configuration copies the native demand -/
def nativeCommand (desiredActive : Bool) (kind : ControlKind) (revision : Nat)
    (desired : Executor.Desired) : NativeControlCommand where
  revision := revision
  active := if kind = .config then desiredActive else desired.configuration.active
  jpegQuality := desired.configuration.jpeg_quality
  keyframe := decide (kind = .requestKeyframe)
  calibration := desired.calibration.map (·.record revision)
  kind := kind

def admittedLifecycle (state : LifecycleState) : ControlKind → LifecycleState
  | .start => .starting
  | .stop => .stopping
  | _ => state

/-- the section under `nativeCommandMutex_`, with the members of the executor around it -/
def State.admitMutation (s : State) (handle : Nat) (kind : ControlKind) (request : ControlRequest)
    (desired : Executor.Desired) : State :=
  let revision := s.ctl.desiredRevision + 1
  { s with
    ctl.desiredRevision := revision
    ctl.desiredConfig := desired.configuration
    ctl.pendingControl := some
      ⟨handle, request.request_id, kind, request.deadline, revision, desired.calibration.isSome⟩
    nat.nativeCommand := some (nativeCommand s.nat.desiredActive kind revision desired)
    nat.nativeLifecycleState := admittedLifecycle s.nat.nativeLifecycleState kind
    log := .admitted handle kind revision :: s.log }

def admitMutation (handle : Nat) (kind : ControlKind) (request : ControlRequest)
    (desired : Executor.Desired) : Thread Unit :=
  .atomic (.admission request.request_id kind desired.configuration)
    (fun s => (s.admitMutation handle kind request desired, ()))

def handleMutation (cfg : PluginConfig) (handle : Nat) (kind : ControlKind)
    (request : ControlRequest) (input : Json) : Thread Unit := do
  match ← read (·.ctl.checkMutation kind input) with
  | .error e => reply handle (.error e)
  | .ok () =>
    let active ← if kind = .requestKeyframe then read (·.nat.nativeAppliedActive) else pure true
    if !active then reply handle (.error noActiveEncoder)
    else
      match ← read (fun s => s.ctl.desiredMutation cfg.ros.rosPublishingEnabled
          s.ros.branch.streamWidth s.ros.branch.streamHeight kind request input) with
      | .error e => reply handle (.error e)
      | .ok desired => admitMutation handle kind request desired

/-- a discovery route: no fields are allowed -/
def handleRead (handle : Nat) (input : Json) (response : State → ControlResponse) :
    Thread Unit := do
  match requireFields input [] with
  | .error message => reply handle (.error (invalid message))
  | .ok () =>
    let response ← read response
    reply handle response

/-- `HandleControlRequest`; `now` is the clock that a capture reads -/
def handleControlRequest (cfg : PluginConfig) (operation : String) (request : ControlRequest)
    (input : Json) (now : Int) : Thread Unit := do
  let handle ← .atomic (.request operation request input) (fun s =>
    ({ s with ctl.nextReply := s.ctl.nextReply + 1 }, s.ctl.nextReply))
  match Route.parse request.method operation with
  | .describe => handleRead handle input (fun s => .descriptor s.cameraDescriptor)
  | .status => handleRead handle input (fun s => .status s.cameraStatus)
  | .configuration => handleRead handle input (fun s => .configuration s.cameraStatus)
  | .receipts id => handleReceipts handle input id
  | .observe sequence => handleObserve handle request input sequence
  | .capture => handleCapture handle request input now
  | .mutation kind => handleMutation cfg handle kind request input
  | .unsupported =>
    reply handle (.error ⟨404, "not_found", "camera route or method not supported"⟩)

/-! ## FlushControl -/

/-- what one `FlushControl` reads from outside: the clock, the cancellation of the replies and the
outcome of the try-lock -/
structure FlushInput where
  now : Int
  pendingCancelled : Bool
  lockTaken : Bool
  captureCancelled : Bool
  watcherCancelled : List Bool
  deriving DecidableEq, Repr

def notAccepted : ControlError :=
  ⟨503, "unavailable", "native encoder did not accept a rendered frame"⟩

def deadlineExceeded : ControlError :=
  ⟨504, "deadline_exceeded", "native application deadline exceeded"⟩

/-- the pending mutation ends with an error: receipt, reply, and the slot is free -/
def State.failPending (s : State) (pending : PendingControl) (error : ControlError) : State :=
  let receipt := s.ctl.newReceipt pending.requestID (.mutation pending.operation) .failed
    error.message
  { s with
    ctl := { s.ctl.remember receipt with pendingControl := none }
    log := .replied pending.reply (.error error) ::
      .recorded (some pending.revision) receipt :: s.log }

def State.completedReceipt (s : State) (pending : PendingControl) : Receipt :=
  s.ctl.newReceipt pending.requestID (.mutation pending.operation) .completed ""

/-- the pending mutation completed: receipt, effective time, and the slot is free -/
def State.completePending (s : State) (pending : PendingControl) (appliedTime : Int) : State :=
  { s with
    ctl := { s.ctl.remember (s.completedReceipt pending) with
      appliedTimeNanoseconds := appliedTime
      pendingControl := none }
    log := .recorded (some pending.revision) (s.completedReceipt pending) :: s.log }

def completePending (pending : PendingControl) : Thread Unit := do
  let active ← read (·.nat.nativeAppliedActive)
  .atomic (.applyConfiguration pending) (fun s =>
    ({ s with
      ctl.appliedRevision := pending.revision
      ctl.appliedConfig := { s.ctl.desiredConfig with active := active } }, ()))
  let appliedTime ← read (·.nat.nativeAppliedTime)
  let receipt ← access (fun s =>
    (s.completePending pending appliedTime, s.completedReceipt pending))
  let status ← read (·.cameraStatus)
  let active ← if pending.operation = .start ∨ pending.operation = .stop then
      some <$> read (·.nat.nativeAppliedActive)
    else pure none
  reply pending.reply (.applied status receipt active)

/-- the section that gives a mutation up: only if its command is not consumed -/
def State.expirePending (s : State) (pending : PendingControl) (lockTaken : Bool) : State :=
  if lockTaken = true ∧ s.nat.nativeCommand.map (·.revision) = some pending.revision then
    { s.failPending pending deadlineExceeded with nat := { s.nat with nativeCommand := none } }
  else s

def expirePending (pending : PendingControl) (input : FlushInput) : Thread Unit := do
  if input.pendingCancelled ∨ pending.deadline ≤ input.now then
    .atomic (.expirePending pending) (fun s => (s.expirePending pending input.lockTaken, ()))

def flushPending (pending : PendingControl) (input : FlushInput) : Thread Unit := do
  if (← read (·.nat.nativeFailedRevision)) = pending.revision then
    write (·.failPending pending notAccepted)
  else if (← read (·.nat.nativeAppliedRevision)) = pending.revision then
    let published ← if pending.calibration then read (·.ros.publishedCalibrationRevision)
      else pure pending.revision
    if published = pending.revision then completePending pending
    else expirePending pending input
  else expirePending pending input

def oversizedCapture : String := "camera capture payload exceeds limits"

def oversized (response : SnapshotResult) : Bool :=
  decide (32 * 1024 * 1024 < response.jpeg.length ∨ 4096 * 2160 * 3 < response.rgb.length)

def State.answerCapture (s : State) (handle : Nat) (response : SnapshotResult) : State :=
  let error := if oversized response then oversizedCapture else response.error
  let stage := if response.failed || oversized response then ReceiptStage.failed else .completed
  let receipt := s.ctl.newReceipt s.ctl.captureRequestID .capture stage error
  let answer := if response.failed then .error ⟨503, "unavailable", error⟩
    else if oversized response then .error ⟨429, "resource_exhausted", oversizedCapture⟩
    else .capture response receipt
  { s with
    ctl := { s.ctl.remember receipt with captureReply := none }
    log := .replied handle answer :: .recorded none receipt :: s.log }

/-- `FlushCapture`; the capture fails, completes or waits in one section under `snapshotMutex_` -/
def flushCapture (handle : Nat) (late : Bool) : Thread Unit := do
  let verdict ← .atomic (.flushCapture late) (fun s =>
    let r := s.snap.finish s.ctl.captureKeyframeGeneration s.cap.applied s.cap.failed late
    ({ s with snap := r.1 }, r.2))
  match verdict with
  | .waiting => pure ()
  | .finished response =>
    write (·.answerCapture handle response)
    releaseCapture
    write (fun s => { s with ctl.captureSlotHeld := false, ctl.captureRecording := false })

/-- the observer in slot `i` is answered, or only given up, and the slot is free -/
def State.endWatcher (s : State) (i : Nat) (answer : List Event) : State :=
  { s with ctl.controlWatchers := s.ctl.controlWatchers.set i none, log := answer ++ s.log }

def flushWatcher (input : FlushInput) (i : Nat) : Thread Unit := do
  match ← read (fun s => s.ctl.controlWatchers.getD i none) with
  | none => pure ()
  | some watcher =>
    if input.watcherCancelled.getD i false then write (·.endWatcher i [])
    else if watcher.after < (← read (·.ctl.controlEventRevision)) then
      let status ← read (·.cameraStatus)
      write (·.endWatcher i [.replied watcher.reply (.status status)])
    else if watcher.deadline ≤ input.now then
      write (·.endWatcher i [.replied watcher.reply
        (.error ⟨504, "deadline_exceeded", "no camera event before observation deadline"⟩)])

def flushWatchers (input : FlushInput) : Thread Unit := do
  flushWatcher input 0
  flushWatcher input 1
  flushWatcher input 2
  flushWatcher input 3

def flushControl (input : FlushInput) : Thread Unit := do
  match ← read (·.ctl.pendingControl) with
  | none => pure ()
  | some pending => flushPending pending input
  match ← read (fun s => (s.ctl.captureReply, s.ctl.captureDeadline)) with
  | (none, _) => pure ()
  | (some handle, deadline) =>
    flushCapture handle (input.captureCancelled || decide (deadline ≤ input.now))
  flushWatchers input

end MediaCamera
