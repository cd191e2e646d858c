import MediaCamera.Plugin.Captures
import MediaCamera.Ros.Changes

/-!
# What one step of a thread can do

Every atomic step of the programs is an EFFECT: a step of `ExecutorStep`, `RenderStep`, `PacerStep`,
`WorkerStep` or `OtherStep`, according to its thread.  An effect says what the step changes, and its
hypotheses say what the thread knows when it takes it (a pending record, an awaiting command, a
failure of the frame).  `Plugin.Verified` proves that the programs take no other steps; all that is
said about runs of the plugin is then proved from the effects alone.

* `Event.byExecutor`, `Event.marks`   who records an event; the events that tell how the render
                          callback stands;
* `presentEvents`         what was recorded since the latest render-target callback began;
* `Fresh`                 a reply handle that is open nowhere and not answered;
* `EncoderReady`          a session that has its epoch for itself;
* `Halted`                the latest start or stop that was consumed is a stop;
* `owned`                 this source holds the reservation of the host's capture.
-/

namespace MediaCamera

/-! ## events -/

/-- the events that the executor records; the render thread records the others -/
def Event.byExecutor : Event → Bool
  | .replied _ _ | .admitted _ _ _ | .recorded _ _ | .keyframeDemanded _ => true
  | _ => false

/-- the events that tell how the render callback stands -/
def Event.marks : Event → Bool
  | .consumed _ _ | .rendering | .encoderFailed | .refused | .transitionFailed _ | .faulted _ => true
  | _ => false

/-- a mark of a failed frame that `FailNativeEncoderTransition` has not seen -/
def markFails : Option Event → Bool
  | some .encoderFailed => true
  | some .refused => true
  | _ => false

/-- a render-target callback begins -/
def Event.begins : Event → Bool
  | .rendering => true
  | _ => false

/-- the events since the latest render-target callback began, newest first -/
def presentEvents (log : List Event) : List Event := log.takeWhile (!·.begins)

def ControlResponse.isCapture : ControlResponse → Bool
  | .capture _ _ => true
  | _ => false

def Event.reply? : Event → Option Nat
  | .replied handle _ => some handle
  | _ => none

/-- a consumed start or stop -/
def Event.drive? : Event → Option ControlKind
  | .consumed command _ =>
    if command.kind = .start ∨ command.kind = .stop then some command.kind else none
  | _ => none

/-- an enqueued frame, with the number of its session -/
def Event.enqueued? : Event → Option (QueuedROSFrame × Nat)
  | .enqueued frame session => some (frame, session)
  | _ => none

namespace State

def renderLog (s : State) : List Event := s.log.filter (!·.byExecutor)

def replied (s : State) : List Nat := s.log.filterMap (·.reply?)

def enqueued (s : State) : List (QueuedROSFrame × Nat) := s.log.filterMap (·.enqueued?)

/-- the latest event that tells how the render callback stands -/
def mark (s : State) : Option Event := s.renderLog.find? (·.marks)

/-- the frame of the callback failed and `FailNativeEncoderTransition` has not seen it yet -/
def failureOpen (s : State) : Bool := markFails s.mark

/-- the callback destroys the encoder before its frame, or because of the encoder's own failure -/
def Destroys (s : State) : Prop :=
  s.mark = some .rendering ∨ s.mark = some .encoderFailed ∨
    ∃ revision, s.mark = some (.faulted revision)

/-- the latest start or stop that was consumed -/
def lastDrive (s : State) : Option ControlKind := s.log.findSome? (·.drive?)

/-- the stream is stopped, or stops -/
def Halted (s : State) : Prop := s.lastDrive = some .stop

/-- nothing is queued or in flight, and no encoder that only the stream needs is left -/
structure Drained (s : State) : Prop where
  queue : s.rtp.rtpQueue = []
  flight : s.flags.rtpInFlight = false
  encoder : s.view.consumersAtCheck = true ∨ s.enc.session = none

/-! ## handles -/

/-- the handles of replies that are kept for later -/
def openReplies (s : State) : List Nat :=
  (s.ctl.pendingControl.map (·.reply)).toList ++ s.ctl.captureReply.toList ++
    s.ctl.controlWatchers.filterMap (·.map (·.reply))

def uses (s : State) (handle : Nat) : Nat :=
  s.openReplies.count handle + s.replied.count handle

/-- a handle that only the running request knows -/
def Fresh (s : State) (handle : Nat) : Prop := handle < s.ctl.nextReply ∧ s.uses handle = 0

/-! ## sessions -/

/-- all frames of the present epoch are of session `index` -/
def SessionEpoch (s : State) (index : Nat) : Prop :=
  ∀ p ∈ s.enqueued, p.1.epochIndex < s.ros.branch.epochIndex ∨ p.2 = index

/-- the session has its epoch for itself -/
structure EncoderReady (s : State) (session : EncoderSession) : Prop where
  live : s.enc.session = some session
  initialized : s.enc.encoderEverInitialized = true
  epoch : s.SessionEpoch session.index

/-- the source time of the callback is known: remembered, or that of the session's creation -/
def Timed (s : State) (session : EncoderSession) (time : Int) : Prop :=
  s.enc.lastSourceTimeNanoseconds = some time ∨
    (s.enc.lastSourceTimeNanoseconds = none ∧ session.sourceTimeNanoseconds = time)

end State

/-! ## the reservation -/

/-- this source holds the reservation of the host's capture -/
def Flags.owned (flags : Flags) : Bool := flags.captureReserved && !flags.reservedElsewhere

/-- the executor between two calls: what it reserved is recorded -/
structure Executor.Settled (e : Executor) : Prop where
  recorded : e.captureRecording = false
  held : e.captureSlotHeld = e.captureReply.isSome

/-! ## the executor -/

/-- a mutation is acknowledged, and published where it carries a calibration -/
structure State.Acknowledged (s : State) (pending : PendingControl) : Prop where
  acknowledged : .acknowledged pending.revision ∈ s.log
  published : pending.calibration = true →
    ∃ calibration ∈ s.ros.cameraInfos, calibration.revision = pending.revision

inductive ExecutorStep (cfg : PluginConfig) : Label → State → State → Prop
  | look {s : State} : ExecutorStep cfg .step s s
  | spare {s : State} (pending : PendingControl) : ExecutorStep cfg (.expirePending pending) s s
  | request {s : State} (operation : String) (request : ControlRequest) (input : Json) :
    ExecutorStep cfg (.request operation request input) s
      { s with ctl.nextReply := s.ctl.nextReply + 1 }
  | reply {s : State} {handle : Nat} (response : ControlResponse) (h : s.Fresh handle)
      (hplain : response.isCapture = false) :
    ExecutorStep cfg .step s { s with log := .replied handle response :: s.log }
  | watch {s : State} {watcher : ControlWatcher} {watchers : List (Option ControlWatcher)}
      (hw : Executor.watch watcher s.ctl.controlWatchers = some watchers)
      (h : s.Fresh watcher.reply) (hafter : watcher.after = s.ctl.controlEventRevision) :
    ExecutorStep cfg .step s { s with ctl.controlWatchers := watchers }
  | reserve {s : State} (h : s.flags.captureReserved = false) (hsettled : s.ctl.Settled) :
    ExecutorStep cfg .step s
      { s with flags.captureReserved := true, ctl.captureRecording := true }
  | openSnapshot {s : State} (handle : Nat) (id : String) (includeRGB requestKeyframe : Bool)
      (hrecording : s.ctl.captureRecording = true) (hheld : s.ctl.captureSlotHeld = false)
      (hnone : s.ctl.captureReply = none) (h : s.snap.Free) :
    ExecutorStep cfg .step s { s with
      snap := s.snap.admission handle id includeRGB
      ctl.captureKeyframeGeneration := if requestKeyframe
        then (s.snap.admission handle id includeRGB).snapshot.generation else 0 }
  | demandKeyframe {s : State} {generation : Nat} (h : generation ≠ 0) :
    ExecutorStep cfg .demandKeyframe s { s with
      cap.pending := generation, log := .keyframeDemanded generation :: s.log }
  | forceKeyframe {s : State} : ExecutorStep cfg .step s { s with flags.forceKeyframe := true }
  | openCapture {s : State} {handle : Nat} (requestID : String) (deadline : Int)
      (h : s.Fresh handle) (hrecording : s.ctl.captureRecording = true)
      (hheld : s.ctl.captureSlotHeld = false) (hnone : s.ctl.captureReply = none)
      (hnew : s.ctl.remembers requestID = false)
      (hopened : ∃ capture, lastOpened s.snap.trail = some (handle, capture)) :
    ExecutorStep cfg (.openCapture requestID) s { s with
      ctl.captureSlotHeld := true
      ctl.captureRecording := false
      ctl.captureReply := some handle
      ctl.captureRequestID := requestID
      ctl.captureDeadline := deadline }
  | admission {s : State} {handle : Nat} {kind : ControlKind} {request : ControlRequest}
      {desired : Executor.Desired} (h : s.Fresh handle) (hnone : s.ctl.pendingControl = none)
      (hawaiting : s.nat.awaitingNativeControl = none)
      (hhalted : kind = .requestKeyframe → ¬ s.Halted)
      (hdesired : ∃ width height input, s.ctl.desiredMutation cfg.ros.rosPublishingEnabled
        width height kind request input = .ok desired) :
    ExecutorStep cfg (.admission request.request_id kind desired.configuration) s
      (s.admitMutation handle kind request desired)
  | failPending {s : State} {pending : PendingControl}
      (hpending : s.ctl.pendingControl = some pending)
      (h : .nativeFailed pending.revision ∈ s.log) :
    ExecutorStep cfg .step s (s.failPending pending notAccepted)
  | applyConfiguration {s : State} {pending : PendingControl} (active : Bool)
      (hpending : s.ctl.pendingControl = some pending) (h : s.Acknowledged pending) :
    ExecutorStep cfg (.applyConfiguration pending) s { s with
      ctl.appliedRevision := pending.revision
      ctl.appliedConfig := { s.ctl.desiredConfig with active := active } }
  | completePending {s : State} {pending : PendingControl} (appliedTime : Int)
      (hpending : s.ctl.pendingControl = some pending) (h : s.Acknowledged pending)
      (happlied : s.ctl.appliedRevision = pending.revision) :
    ExecutorStep cfg .step s (s.completePending pending appliedTime)
  | expirePending {s : State} {pending : PendingControl}
      (hpending : s.ctl.pendingControl = some pending)
      (h : s.nat.nativeCommand.map (·.revision) = some pending.revision) :
    ExecutorStep cfg (.expirePending pending) s
      { s.failPending pending deadlineExceeded with nat := { s.nat with nativeCommand := none } }
  | flushCapture {s : State} {handle : Nat} (late : Bool)
      (h : s.ctl.captureReply = some handle) :
    ExecutorStep cfg (.flushCapture late) s { s with
      snap := (s.snap.finish s.ctl.captureKeyframeGeneration s.cap.applied s.cap.failed late).1 }
  | answerCapture {s : State} {handle : Nat} (response : SnapshotResult)
      (h : s.ctl.captureReply = some handle) (hfree : s.snap.Free)
      (hdelivered : response.failed = false → response.DeliveredIn s.snap.trail ∧
        lastOpened s.snap.trail = some (handle, response.generation, response.id)) :
    ExecutorStep cfg .step s (s.answerCapture handle response)
  | release {s : State} (hrecording : s.ctl.captureRecording = false)
      (hheld : s.ctl.captureSlotHeld = true) (hnone : s.ctl.captureReply = none)
      (hfree : s.snap.Free) :
    ExecutorStep cfg .step s
      { s with flags.captureReserved := false, ctl.captureRecording := true }
  | freeSlot {s : State} (hrecording : s.ctl.captureRecording = true)
      (hheld : s.ctl.captureSlotHeld = true) (hnone : s.ctl.captureReply = none) :
    ExecutorStep cfg .step s
      { s with ctl.captureSlotHeld := false, ctl.captureRecording := false }
  | endWatcher {s : State} {i : Nat} {watcher : ControlWatcher} {answer : List Event}
      (h : s.ctl.controlWatchers.getD i none = some watcher)
      (hanswer : answer = [] ∨ ∃ response, answer = [.replied watcher.reply response] ∧
        response.isCapture = false) :
    ExecutorStep cfg .step s (s.endWatcher i answer)

/-! ## the render thread -/

/-- a step of the render thread that matters to no other thread's protocol: the demand's echoes,
flags, view, captures, RTP queue, and the end of a capture's keyframe demand -/
inductive RenderRest : Label → State → State → Prop
  | look {s : State} : RenderRest .step s s
  | poll {s : State} : RenderRest .pollReadback s s
  | storeApplied {s : State} {command : NativeControlCommand} (active : Bool)
      (h : s.nat.awaitingNativeControl = some command)
      (hkind : command.kind = .start ∧ active = true ∨ command.kind = .stop ∧ active = false) :
    RenderRest .step s { s with nat.nativeAppliedActive := active }
  | storeState {s : State} {command : NativeControlCommand} (state : LifecycleState)
      (h : s.nat.awaitingNativeControl = some command)
      (hkind : command.kind = .start ∧ state = .active ∧ s.nat.nativeAppliedActive = true ∨
        command.kind = .stop ∧ state = .idle ∧ s.nat.nativeAppliedActive = false) :
    RenderRest .step s { s with nat.nativeLifecycleState := state }
  | storeTime {s : State} (time : Int) : RenderRest .step s { s with nat.nativeAppliedTime := time }
  | faultActive {s : State} (h : s.nat.faulting = true) :
    RenderRest .fault s { s with nat.nativeAppliedActive := false }
  | keyframeServed {s : State} : RenderRest .step s { s with cap.pending := 0 }
  | keyframeApplied {s : State} (generation : Nat) :
    RenderRest .step s { s with cap.applied := generation }
  | forceKeyframe {s : State} : RenderRest .step s { s with flags.forceKeyframe := true }
  | takeForced {s : State} : RenderRest .step s { s with flags.forceKeyframe := false }
  | sensorActive {s : State} (active : Bool) :
    RenderRest .step s { s with flags.nativeSensorActive := active }
  | cleanup {s : State} (requested : Bool) :
    RenderRest .step s { s with flags.cleanupEncoderRequested := requested }
  | resources {s : State} (h : s.enc.session ≠ none) :
    RenderRest .step s { s with flags.encoderResourcesActive := true }
  | clearRTP {s : State} : RenderRest .step s { s with rtp := s.rtp.clear }
  | view {s : State} (view : RenderView)
      (hsequence : view.renderFrameSequence = s.view.renderFrameSequence)
      (hcheck : view.consumersAtCheck = s.view.consumersAtCheck) :
    RenderRest .step s { s with view := view }
  | capture {l : Label} {s : State} {snap : Snapshot}
      (h : RenderCapture s.view.renderFrameSequence l s.snap snap) :
    RenderRest l s { s with snap := snap }

/-- the stores of `CompleteNativeControl` before its acknowledgment -/
structure State.Stored (s : State) (command : NativeControlCommand) : Prop where
  start : command.kind = .start → s.nat.nativeAppliedActive = true ∧
    s.nat.nativeLifecycleState = .active
  stop : command.kind = .stop → s.nat.nativeAppliedActive = false ∧
    s.nat.nativeLifecycleState = .idle

/-- `EnqueueRTPAccessUnit`, with its event -/
def State.enqueueRTP (cfg : PluginConfig) (packets : List QueuedRTPPacket) (keyframe : Bool)
    (s : State) : State :=
  let r := s.rtp.enqueueRTPAccessUnit cfg.pacingBitrate cfg.updateRate packets keyframe
  { s with
    rtp := r.1
    flags.forceKeyframe := r.2.2 || s.flags.forceKeyframe
    log := if (RtpQueue.refusal cfg.pacingBitrate s.rtp packets keyframe).isSome
      then .refused :: s.log else s.log }

inductive RenderStep (cfg : PluginConfig) : Label → State → State → Prop
  | rest {l : Label} {s s' : State} (h : RenderRest l s s') : RenderStep cfg l s s'
  | check {s : State} :
    RenderStep cfg .step s { s with view.consumersAtCheck := s.ros.branch.rosConsumersActive }
  | applyConfiguration {s : State} {command : NativeControlCommand} (time : Int)
      (hcommand : s.nat.nativeCommand = some command) (hkind : command.kind = .config)
      (hpending : s.ctl.pendingControl ≠ none)
      (h : s.failureOpen = false) (hfailing : s.nat.failing = false) :
    RenderStep cfg .step s
      ((s.consume cfg command).setDemandActive.completeConfiguration command time)
  | applyCommand {s : State} {command : NativeControlCommand}
      (hcommand : s.nat.nativeCommand = some command) (hkind : command.kind ≠ .config)
      (hpending : s.ctl.pendingControl ≠ none)
      (h : s.failureOpen = false) (hfailing : s.nat.failing = false) :
    RenderStep cfg .step s ((s.consume cfg command).setDemandActive.await command)
  | acknowledge {s : State} {command : NativeControlCommand}
      (h : s.nat.awaitingNativeControl = some command) (hstored : s.Stored command)
      (hdrained : command.kind = .stop → s.Drained) :
    RenderStep cfg .step s (s.acknowledge command.revision)
  | transitionFailed {s : State} (h : s.failureOpen = true) :
    RenderStep cfg .step s s.transitionFailed
  | failKeyframe {s : State} {generation : Nat} (h : generation ≠ 0)
      (hmark : s.mark = some (.transitionFailed generation)) :
    RenderStep cfg .step s (s.failKeyframe generation)
  | failNative {s : State} {command : NativeControlCommand} {generation : Nat}
      (h : s.nat.awaitingNativeControl = some command)
      (hkind : command.kind = .start ∨ command.kind = .requestKeyframe)
      (hmark : s.mark = some (.transitionFailed generation)) :
    RenderStep cfg (.failNative command) s (s.failNative command.revision)
  | deactivate {s : State} (h : s.nat.failing = true) : RenderStep cfg .step s s.deactivate
  | faultState {s : State} {revision : Nat} (h : s.nat.faulting = true)
      (hactive : s.nat.nativeAppliedActive = false)
      (hfailed : .nativeFailed revision ∈ presentEvents s.log) :
    RenderStep cfg .fault s (s.fault revision)
  | beginRender {s : State} (view : RenderedView) : RenderStep cfg .step s (s.beginRender view)
  | encoderFailed {s : State} (h : s.mark = some .rendering) : RenderStep cfg .step s s.encoderFailed
  | beginROSEpoch {s : State} (cause : EpochCause) :
    RenderStep cfg (.ros (.beginEpoch cause)) s
      { s with ros := rosStep cfg.ros s.ros (.beginEpoch cause) }
  | describeStream {s : State} (width height : Nat) (fps : ℚ) (gopLength : Nat) :
    RenderStep cfg (.ros (.describeStream width height fps gopLength)) s
      { s with ros := rosStep cfg.ros s.ros (.describeStream width height fps gopLength) }
  | observeSourceTime {s : State} (time : Int) :
    RenderStep cfg (.observeSourceTime time) s { s with enc := s.enc.observe time }
  | destroyEncoder {s : State} (h : s.Destroys) : RenderStep cfg .step s s.destroyEncoder
  | createEncoder {s : State} (width height : Nat) (time : Int) (h : s.enc.session = none)
      (hsending : s.enc.sending = none) :
    RenderStep cfg .step s { s with
      enc.session := some ⟨width, height, s.enc.sessions + 1, time⟩
      enc.sessions := s.enc.sessions + 1
      enc.pendingEncodedFrames := [] }
  | rememberSourceTime {s : State} (time : Int) (h : s.enc.session = none) :
    RenderStep cfg .step s { s with enc.lastSourceTimeNanoseconds := some time }
  | initialized {s : State} :
    RenderStep cfg .step s { s with enc.encoderEverInitialized := true }
  | submit {s : State} {session : EncoderSession} (frame : PendingEncodedFrame)
      (h : s.EncoderReady session) (htime : s.Timed session frame.sourceTimeNanoseconds) :
    RenderStep cfg .step s { s with
      enc.pendingEncodedFrames := s.enc.pendingEncodedFrames ++ [frame]
      enc.sourceFrameSequence := s.enc.sourceFrameSequence + 1 }
  | takeOutput {s : State} (timestamp : Nat) :
    RenderStep cfg (.takeOutput timestamp) s { s with
      enc.pendingEncodedFrames :=
        s.enc.pendingEncodedFrames.eraseP (·.encoderTimestamp == timestamp)
      enc.sending := s.enc.pendingEncodedFrames.find? (·.encoderTimestamp == timestamp) }
  | sendUnit {s : State} (timestamp : UInt32) (metadata : PendingEncodedFrame)
      (h : s.enc.sending = some metadata) : RenderStep cfg (.sendUnit timestamp metadata) s s
  | countFrame {s : State} :
    RenderStep cfg .step s { s with
      enc.encodedFrameIndex := s.enc.encodedFrameIndex + 1, enc.sending := none }
  | checkROS {s : State} (unit : AccessUnit) (h : s.enc.sending = some unit.metadata) :
    RenderStep cfg (.ros (.check unit)) s
      { s with ros := rosStep cfg.ros s.ros (.check unit) }
  | enqueueROS {s : State} {unit : AccessUnit} {session : EncoderSession}
      (h : s.enc.sending = some unit.metadata) (hunit : s.ros.enqueuing = some unit)
      (hready : s.EncoderReady session) :
    RenderStep cfg (.ros .enqueue) s (s.enqueueROS cfg unit)
  | enqueueRTP {s : State} (packets : List QueuedRTPPacket) (keyframe : Bool)
      (hactive : s.nat.desiredActive = true) (hstage : s.mark = some .rendering) :
    RenderStep cfg (.enqueueRTP packets keyframe) s (s.enqueueRTP cfg packets keyframe)

/-! ## the other threads -/

inductive PacerStep : Label → State → State → Prop
  | look {s : State} (h : s.flags.rtpInFlight = true) : PacerStep .step s s
  | wait {s : State} : PacerStep .popRTP s s
  | pop {s : State} {unit : QueuedRTPAccessUnit} {queue : RtpQueue}
      (h : s.rtp.pop = some (unit, queue)) :
    PacerStep .popRTP s { s with rtp := queue, flags.rtpInFlight := true }
  | send {s : State} (packet : QueuedRTPPacket) (h : s.flags.rtpInFlight = true) :
    PacerStep .step s { s with
      sent := packet.numbered s.rtpSequence :: s.sent
      rtpSequence := (s.rtpSequence + 1) % 65536 }
  | finish {s : State} (h : s.flags.rtpInFlight = true) :
    PacerStep .step s { s with flags.rtpInFlight := false }

inductive WorkerStep (cfg : PluginConfig) : Label → State → State → Prop
  | look {s : State} : WorkerStep cfg .step s s
  | capture {l : Label} {s : State} {snap : Snapshot} (h : WorkerCapture cfg l s.snap snap) :
    WorkerStep cfg l s { s with snap := snap }

/-- the steps of all threads but the executor and the render thread -/
inductive OtherStep (cfg : PluginConfig) : Label → State → State → Prop
  | pacer {l : Label} {s s' : State} (h : PacerStep l s s') : OtherStep cfg l s s'
  | worker {l : Label} {s s' : State} (h : WorkerStep cfg l s s') : OtherStep cfg l s s'
  | rosSide {s : State} (side : RosSide) : OtherStep cfg .step s (s.rosSide cfg side)
  | hostSide {s : State} (side : HostSide) : OtherStep cfg .step s (s.hostSide side)

def ThreadStep (cfg : PluginConfig) : ThreadName → Label → State → State → Prop
  | .executor => ExecutorStep cfg
  | .render => RenderStep cfg
  | .pacer => PacerStep
  | .jpegWorker => WorkerStep cfg
  | .rosSide => fun l s s' => l = .step ∧ ∃ side, s' = s.rosSide cfg side
  | .hostSide => fun l s s' => l = .step ∧ ∃ side, s' = s.hostSide side

/-! ## what a thread sees of the others -/

/-- the others leave the executor's members, its reservation and a free snapshot alone, what they
record stays, and no start or stop is consumed while nothing is pending -/
structure ExecutorRely (s s' : State) : Prop where
  ctl : s'.ctl = s.ctl
  log : ∃ new, s'.log = new ++ s.log ∧ ∀ e ∈ new, e.byExecutor = false
  out : ∃ new, s'.ros.out = new ++ s.ros.out
  owned : s'.flags.owned = s.flags.owned
  snap : s.snap.ExecutorSame s'.snap
  drive : s.ctl.pendingControl = none → s'.lastDrive = s.lastDrive

/-- the others leave the render thread's members and an awaited lifecycle state alone, epochs only
advance, and a drained queue stays drained -/
structure RenderRely (s s' : State) : Prop where
  nat : s'.nat = { s.nat with
    nativeCommand := s'.nat.nativeCommand
    nativeLifecycleState := s'.nat.nativeLifecycleState }
  lifecycle : s.nat.awaitingNativeControl ≠ none →
    s'.nat.nativeLifecycleState = s.nat.nativeLifecycleState
  enc : s'.enc = s.enc
  view : s'.view = s.view
  resources : s'.flags.encoderResourcesActive = s.flags.encoderResourcesActive
  drained : s.rtp.rtpQueue = [] → s.flags.rtpInFlight = false →
    s'.rtp.rtpQueue = [] ∧ s'.flags.rtpInFlight = false
  snap : s.snap.RenderSame s'.snap
  enqueuing : s'.ros.enqueuing = s.ros.enqueuing
  log : ∃ new, s'.log = new ++ s.log ∧ ∀ e ∈ new, e.byExecutor = true
  epoch : s.ros.branch.epochIndex ≤ s'.ros.branch.epochIndex

def PacerRely (s s' : State) : Prop := s'.flags.rtpInFlight = s.flags.rtpInFlight

def WorkerRely (s s' : State) : Prop := s'.snap.encoding = s.snap.encoding

section
variable {cfg : PluginConfig} {l : Label} {s s' s'' : State}

theorem ThreadStep.kinds {t : ThreadName} (h : ThreadStep cfg t l s s') :
    ExecutorStep cfg l s s' ∨ RenderStep cfg l s s' ∨ OtherStep cfg l s s' := by
  cases t with
  | executor => exact .inl h
  | render => exact .inr (.inl h)
  | pacer => exact .inr (.inr (.pacer h))
  | jpegWorker => exact .inr (.inr (.worker h))
  | rosSide =>
    obtain ⟨rfl, side, rfl⟩ := h
    exact .inr (.inr (.rosSide side))
  | hostSide =>
    obtain ⟨rfl, side, rfl⟩ := h
    exact .inr (.inr (.hostSide side))

theorem ExecutorRely.refl (s : State) : ExecutorRely s s :=
  ⟨rfl, ⟨[], rfl, by simp⟩, ⟨[], rfl⟩, rfl, .refl _, fun _ => rfl⟩

theorem ExecutorRely.trans (h : ExecutorRely s s') (h' : ExecutorRely s' s'') :
    ExecutorRely s s'' := by
  obtain ⟨new, hlog, hnew⟩ := h.log
  obtain ⟨new', hlog', hnew'⟩ := h'.log
  obtain ⟨out, hout⟩ := h.out
  obtain ⟨out', hout'⟩ := h'.out
  refine ⟨h'.ctl.trans h.ctl, ⟨new' ++ new, by rw [hlog', hlog, List.append_assoc], ?_⟩,
    ⟨out' ++ out, by rw [hout', hout, List.append_assoc]⟩, h'.owned.trans h.owned,
    h.snap.trans h'.snap, fun hnone => ?_⟩
  · intro e he
    rcases List.mem_append.mp he with he | he
    · exact hnew' e he
    · exact hnew e he
  · have hnone' : s'.ctl.pendingControl = none := by rw [h.ctl]; exact hnone
    exact (h'.drive hnone').trans (h.drive hnone)

theorem RenderRely.refl (s : State) : RenderRely s s :=
  ⟨rfl, fun _ => rfl, rfl, rfl, rfl, fun h h' => ⟨h, h'⟩, .refl _, rfl, ⟨[], rfl, by simp⟩, le_rfl⟩

theorem RenderRely.awaiting (h : RenderRely s s') :
    s'.nat.awaitingNativeControl = s.nat.awaitingNativeControl := by rw [h.nat]

theorem RenderRely.failing (h : RenderRely s s') : s'.nat.failing = s.nat.failing := by rw [h.nat]

theorem RenderRely.faulting (h : RenderRely s s') : s'.nat.faulting = s.nat.faulting := by
  rw [h.nat]

theorem RenderRely.desiredActive (h : RenderRely s s') :
    s'.nat.desiredActive = s.nat.desiredActive := by rw [h.nat]

theorem RenderRely.appliedActive (h : RenderRely s s') :
    s'.nat.nativeAppliedActive = s.nat.nativeAppliedActive := by rw [h.nat]

theorem RenderRely.jpegQuality (h : RenderRely s s') : s'.nat.jpegQuality = s.nat.jpegQuality := by
  rw [h.nat]

theorem RenderRely.trans (h : RenderRely s s') (h' : RenderRely s' s'') : RenderRely s s'' := by
  obtain ⟨new, hlog, hnew⟩ := h.log
  obtain ⟨new', hlog', hnew'⟩ := h'.log
  refine ⟨by rw [h'.nat, h.nat], fun hawaiting => ?_, h'.enc.trans h.enc, h'.view.trans h.view,
    h'.resources.trans h.resources, fun hqueue hflight => ?_, h.snap.trans h'.snap,
    h'.enqueuing.trans h.enqueuing, ⟨new' ++ new, by rw [hlog', hlog, List.append_assoc], ?_⟩,
    h.epoch.trans h'.epoch⟩
  · have hawaiting' : s'.nat.awaitingNativeControl ≠ none := by rw [h.awaiting]; exact hawaiting
    exact (h'.lifecycle hawaiting').trans (h.lifecycle hawaiting)
  · obtain ⟨hqueue', hflight'⟩ := h.drained hqueue hflight
    exact h'.drained hqueue' hflight'
  · intro e he
    rcases List.mem_append.mp he with he | he
    · exact hnew' e he
    · exact hnew e he

theorem lastDrive_append (new : List Event) (hlog : s'.log = new ++ s.log)
    (hnew : ∀ e ∈ new, e.drive? = none) : s'.lastDrive = s.lastDrive := by
  simp only [State.lastDrive, hlog, List.findSome?_append]
  rw [List.findSome?_eq_none_iff.mpr hnew, Option.none_or]

theorem ExecutorRely.record (hctl : s'.ctl = s.ctl) (e : Event) (hlog : s'.log = e :: s.log)
    (he : e.byExecutor = false) (hdrive : e.drive? = none) (hout : s'.ros.out = s.ros.out)
    (howned : s'.flags.owned = s.flags.owned) (hsnap : s'.snap = s.snap) : ExecutorRely s s' :=
  ⟨hctl, ⟨[e], hlog, by simpa using he⟩, ⟨[], hout⟩, howned, by rw [hsnap]; exact .refl _,
    fun _ => lastDrive_append [e] hlog (by simpa using hdrive)⟩

theorem ExecutorRely.silent (hctl : s'.ctl = s.ctl) (hlog : s'.log = s.log)
    (hout : ∃ new, s'.ros.out = new ++ s.ros.out) (howned : s'.flags.owned = s.flags.owned)
    (hsnap : s.snap.ExecutorSame s'.snap) : ExecutorRely s s' :=
  ⟨hctl, ⟨[], hlog, by simp⟩, hout, howned, hsnap, fun _ => lastDrive_append [] hlog (by simp)⟩

theorem RenderRest.executorRely (h : RenderRest l s s') : ExecutorRely s s' := by
  cases h with
  | capture h => exact .silent rfl rfl ⟨[], rfl⟩ rfl h.executorSame
  | _ => exact .silent rfl rfl ⟨[], rfl⟩ rfl (.refl _)

theorem consume_out (s : State) (command : NativeControlCommand) :
    ∃ new, (s.consume cfg command).ros.out = new ++ s.ros.out := by
  unfold State.consume
  cases command.calibration with
  | some calibration => exact (rosStep_publishes _).out
  | none => exact ⟨[], rfl⟩

theorem destroyEncoder_log (s : State) :
    s.destroyEncoder.log = (s.enc.session.map (.destroyed ·.index)).toList ++ s.log := rfl

theorem RenderStep.executorRely (h : RenderStep cfg l s s') : ExecutorRely s s' := by
  cases h with
  | rest h => exact h.executorRely
  | @applyConfiguration _ command time _ _ hpending =>
    exact ⟨rfl, ⟨[.acknowledged command.revision,
        .consumed command ⟨s.nat.desiredActive, command.active⟩], rfl,
      by simp [Event.byExecutor]⟩, consume_out s command, rfl, .refl _, fun h => absurd h hpending⟩
  | @applyCommand _ command _ _ hpending =>
    exact ⟨rfl, ⟨[.consumed command ⟨s.nat.desiredActive, command.active⟩], rfl,
        by simp [Event.byExecutor]⟩,
      consume_out s command, rfl, .refl _, fun h => absurd h hpending⟩
  | acknowledge | transitionFailed | failKeyframe | failNative | faultState | encoderFailed =>
    exact .record rfl _ rfl rfl rfl rfl rfl rfl
  | beginRender view =>
    refine ⟨rfl, ⟨[.rendering], rfl, by simp [Event.byExecutor]⟩, ⟨[], rfl⟩, rfl, ?_,
      fun _ => lastDrive_append [.rendering] rfl (by simp [Event.drive?])⟩
    exact .of_record (fun ⟨hempty, h⟩ =>
      ⟨hempty, h.pending, h.result, h.carried, h.job, h.encoding⟩) rfl (by simp)
  | destroyEncoder =>
    refine ⟨rfl, ⟨_, rfl, by simp [Event.byExecutor]⟩, ⟨[], rfl⟩, rfl, .refl _,
      fun _ => lastDrive_append _ rfl (by simp [Event.drive?])⟩
  | beginROSEpoch | describeStream | checkROS =>
    exact .silent rfl rfl (rosStep_publishes _).out rfl (.refl _)
  | @enqueueROS _ unit =>
    have hout : ∃ new, (s.enqueueROS cfg unit).ros.out = new ++ s.ros.out :=
      (rosStep_publishes _).out
    cases hframe : s.ros.branch.enqueuedFrame cfg.ros unit with
    | none => exact .silent rfl (by simp only [State.enqueueROS, hframe]) hout rfl (.refl _)
    | some frame =>
      have hlog : (s.enqueueROS cfg unit).log =
          [.enqueued frame (s.enc.session.elim 0 (·.index))] ++ s.log := by
        simp only [State.enqueueROS, hframe, List.singleton_append]
      exact ⟨rfl, ⟨_, hlog, by simp [Event.byExecutor]⟩, hout, rfl, .refl _,
        fun _ => lastDrive_append _ hlog (by simp [Event.drive?])⟩
  | enqueueRTP packets keyframe =>
    cases hrefused : RtpQueue.refusal cfg.pacingBitrate s.rtp packets keyframe with
    | none => exact .silent rfl (by simp [State.enqueueRTP, hrefused]) ⟨[], rfl⟩ rfl (.refl _)
    | some cause =>
      exact .record rfl .refused (by simp [State.enqueueRTP, hrefused]) rfl rfl rfl rfl rfl
  | _ => exact .silent rfl rfl ⟨[], rfl⟩ rfl (.refl _)

theorem hostSide_owned (side : HostSide) (s : State) :
    (s.hostSide side).flags.owned = s.flags.owned := by
  cases side with
  | reserve =>
    simp only [State.hostSide]
    split
    · rfl
    · rename_i hfree
      simp [Flags.owned, hfree]
  | release =>
    simp only [State.hostSide]
    split
    · rename_i helse
      simp [Flags.owned, helse]
    · rfl

theorem hostSide_eq (side : HostSide) (s : State) : ∃ reserved elsewhere,
    s.hostSide side = { s with
      flags.captureReserved := reserved, flags.reservedElsewhere := elsewhere } := by
  cases side with
  | reserve =>
    show ∃ reserved elsewhere, (if s.flags.captureReserved then s else _) = _
    split
    · exact ⟨_, _, rfl⟩
    · exact ⟨_, _, rfl⟩
  | release =>
    show ∃ reserved elsewhere, (if s.flags.reservedElsewhere then _ else s) = _
    split
    · exact ⟨_, _, rfl⟩
    · exact ⟨_, _, rfl⟩

theorem OtherStep.executorRely (h : OtherStep cfg l s s') : ExecutorRely s s' := by
  cases h with
  | pacer h => cases h <;> exact .silent rfl rfl ⟨[], rfl⟩ rfl (.refl _)
  | worker h =>
    cases h with
    | look => exact .refl s
    | capture h => exact .silent rfl rfl ⟨[], rfl⟩ rfl h.executorSame
  | rosSide side => exact .silent rfl rfl (rosStep_publishes _).out rfl (.refl _)
  | hostSide side =>
    have howned := hostSide_owned side s
    obtain ⟨reserved, elsewhere, e⟩ := hostSide_eq side s
    rw [e] at howned ⊢
    exact .silent rfl rfl ⟨[], rfl⟩ howned (.refl _)

theorem RenderRely.record (hnat : s'.nat = { s.nat with
      nativeCommand := s'.nat.nativeCommand
      nativeLifecycleState := s'.nat.nativeLifecycleState })
    (hlifecycle : s.nat.awaitingNativeControl ≠ none →
      s'.nat.nativeLifecycleState = s.nat.nativeLifecycleState)
    (henc : s'.enc = s.enc) (hview : s'.view = s.view)
    (hresources : s'.flags.encoderResourcesActive = s.flags.encoderResourcesActive)
    (hdrained : s.rtp.rtpQueue = [] → s.flags.rtpInFlight = false →
      s'.rtp.rtpQueue = [] ∧ s'.flags.rtpInFlight = false)
    (hsnap : s.snap.RenderSame s'.snap) (hros : s'.ros = s.ros)
    (new : List Event) (hlog : s'.log = new ++ s.log) (hnew : ∀ e ∈ new, e.byExecutor = true) :
    RenderRely s s' :=
  ⟨hnat, hlifecycle, henc, hview, hresources, hdrained, hsnap, by rw [hros], ⟨new, hlog, hnew⟩,
    by rw [hros]⟩

theorem RenderRely.apart (hnat : s'.nat = s.nat) (henc : s'.enc = s.enc) (hview : s'.view = s.view)
    (hresources : s'.flags.encoderResourcesActive = s.flags.encoderResourcesActive)
    (hqueue : s'.rtp = s.rtp) (hflight : s'.flags.rtpInFlight = s.flags.rtpInFlight)
    (hsnap : s'.snap = s.snap) (hros : s'.ros = s.ros)
    (new : List Event) (hlog : s'.log = new ++ s.log) (hnew : ∀ e ∈ new, e.byExecutor = true) :
    RenderRely s s' :=
  .record (by rw [hnat]) (fun _ => by rw [hnat]) henc hview hresources
    (fun h h' => ⟨by rw [hqueue]; exact h, hflight.trans h'⟩) (by rw [hsnap]; exact .refl _) hros
    new hlog hnew

theorem ExecutorStep.renderRely (h : ExecutorStep cfg l s s') : RenderRely s s' := by
  cases h with
  | look | spare | request | watch | reserve | forceKeyframe | openCapture | applyConfiguration
  | release | freeSlot =>
    exact .apart rfl rfl rfl rfl rfl rfl rfl rfl [] rfl (by simp)
  | reply | demandKeyframe | completePending =>
    exact .apart rfl rfl rfl rfl rfl rfl rfl rfl [_] rfl (by simp [Event.byExecutor])
  | failPending | answerCapture =>
    exact .apart rfl rfl rfl rfl rfl rfl rfl rfl [_, _] rfl (by simp [Event.byExecutor])
  | openSnapshot handle id includeRGB _ _ _ _ hfree =>
    exact .record rfl (fun _ => rfl) rfl rfl rfl (fun h h' => ⟨h, h'⟩)
      (ExecutorCapture.admission handle id includeRGB hfree).renderSame rfl [] rfl (by simp)
  | flushCapture late =>
    exact .record rfl (fun _ => rfl) rfl rfl rfl (fun h h' => ⟨h, h'⟩)
      (ExecutorCapture.finish _ _ _ late).renderSame rfl [] rfl (by simp)
  | admission _ _ hawaiting =>
    exact .record rfl (fun h => absurd hawaiting h) rfl rfl rfl (fun h h' => ⟨h, h'⟩) (.refl _) rfl
      [_] rfl (by simp [Event.byExecutor])
  | expirePending =>
    exact .record rfl (fun _ => rfl) rfl rfl rfl (fun h h' => ⟨h, h'⟩) (.refl _) rfl [_, _] rfl
      (by simp [Event.byExecutor])
  | @endWatcher _ _ _ answer _ hanswer =>
    refine .apart rfl rfl rfl rfl rfl rfl rfl rfl answer rfl ?_
    rcases hanswer with rfl | ⟨response, rfl, _⟩
    · simp
    · simp [Event.byExecutor]

theorem RosSide.action_ne (side : RosSide) (desiredActive : Bool) :
    side.action desiredActive ≠ .stopPublisher ∧ side.action desiredActive ≠ .enqueue ∧
      (∀ calibration, side.action desiredActive ≠ .applyCalibration calibration) ∧
      ∀ unit, side.action desiredActive ≠ .check unit := by
  cases side <;> simp [RosSide.action]

theorem PacerStep.renderRely (h : PacerStep l s s') : RenderRely s s' := by
  cases h with
  | look | wait => exact .refl s
  | send => exact .apart rfl rfl rfl rfl rfl rfl rfl rfl [] rfl (by simp)
  | pop hpop =>
    refine .record rfl (fun _ => rfl) rfl rfl rfl (fun hqueue _ => ?_) (.refl _) rfl [] rfl (by simp)
    rw [RtpQueue.pop, hqueue] at hpop
    cases hpop
  | finish =>
    exact .record rfl (fun _ => rfl) rfl rfl rfl (fun h _ => ⟨h, rfl⟩) (.refl _) rfl [] rfl (by simp)

theorem OtherStep.renderRely (h : OtherStep cfg l s s') : RenderRely s s' := by
  cases h with
  | pacer h => exact h.renderRely
  | worker h =>
    cases h with
    | look => exact .refl s
    | capture h =>
      exact .record rfl (fun _ => rfl) rfl rfl rfl (fun h h' => ⟨h, h'⟩) h.renderSame rfl [] rfl
        (by simp)
  | rosSide side =>
    obtain ⟨hstop, henqueue, hcalibration, hcheck⟩ := side.action_ne s.nat.desiredActive
    refine ⟨rfl, fun _ => rfl, rfl, rfl, rfl, fun h h' => ⟨h, h'⟩, .refl _,
      rosStep_enqueuing hcheck henqueue, ⟨[], rfl, by simp⟩, ?_⟩
    have hmoves : s.ros.branch.Moves (rosStep cfg.ros s.ros _).branch :=
      rosStep_moves hstop hcalibration
    rcases hmoves.forward with h | ⟨h, _⟩
    · exact h.le
    · exact h.le
  | hostSide side =>
    obtain ⟨reserved, elsewhere, e⟩ := hostSide_eq side s
    rw [e]
    exact .apart rfl rfl rfl rfl rfl rfl rfl rfl [] rfl (by simp)

/-! ## the pacer and the worker -/

theorem ExecutorStep.pacerRely (h : ExecutorStep cfg l s s') : PacerRely s s' := by
  cases h <;> rfl

theorem RenderStep.pacerRely (h : RenderStep cfg l s s') : PacerRely s s' := by
  cases h with
  | rest h => cases h <;> rfl
  | _ => rfl

theorem ExecutorStep.workerRely (h : ExecutorStep cfg l s s') : WorkerRely s s' := by
  cases h with
  | openSnapshot handle id includeRGB _ _ _ _ hfree =>
    exact (ExecutorCapture.admission handle id includeRGB hfree).encoding
  | flushCapture late => exact (ExecutorCapture.finish _ _ _ late).encoding
  | _ => rfl

theorem RenderStep.workerRely (h : RenderStep cfg l s s') : WorkerRely s s' := by
  cases h with
  | rest h =>
    cases h with
    | capture h => exact h.encoding
    | _ => rfl
  | _ => rfl

theorem ThreadStep.executorRely {thread : ThreadName} (h : ThreadStep cfg thread l s s')
    (hne : thread ≠ .executor) : ExecutorRely s s' := by
  cases thread with
  | executor => exact absurd rfl hne
  | render => exact RenderStep.executorRely h
  | pacer => exact OtherStep.executorRely (@OtherStep.pacer cfg _ _ _ h)
  | jpegWorker => exact OtherStep.executorRely (.worker h)
  | rosSide =>
    obtain ⟨_, side, rfl⟩ := h
    exact OtherStep.executorRely (@OtherStep.rosSide cfg _ side)
  | hostSide =>
    obtain ⟨_, side, rfl⟩ := h
    exact OtherStep.executorRely (@OtherStep.hostSide cfg _ side)

theorem ThreadStep.renderRely {thread : ThreadName} (h : ThreadStep cfg thread l s s')
    (hne : thread ≠ .render) : RenderRely s s' := by
  cases thread with
  | executor => exact ExecutorStep.renderRely h
  | render => exact absurd rfl hne
  | pacer => exact PacerStep.renderRely h
  | jpegWorker => exact OtherStep.renderRely (.worker h)
  | rosSide =>
    obtain ⟨_, side, rfl⟩ := h
    exact OtherStep.renderRely (@OtherStep.rosSide cfg _ side)
  | hostSide =>
    obtain ⟨_, side, rfl⟩ := h
    exact OtherStep.renderRely (@OtherStep.hostSide cfg _ side)

theorem ThreadStep.pacerRely {thread : ThreadName} (h : ThreadStep cfg thread l s s')
    (hne : thread ≠ .pacer) : PacerRely s s' := by
  cases thread with
  | executor => exact ExecutorStep.pacerRely h
  | render => exact RenderStep.pacerRely h
  | pacer => exact absurd rfl hne
  | jpegWorker => cases h <;> rfl
  | rosSide =>
    obtain ⟨_, side, rfl⟩ := h
    rfl
  | hostSide =>
    obtain ⟨_, side, rfl⟩ := h
    obtain ⟨reserved, elsewhere, e⟩ := hostSide_eq side s
    rw [e]
    rfl

theorem ThreadStep.workerRely {thread : ThreadName} (h : ThreadStep cfg thread l s s')
    (hne : thread ≠ .jpegWorker) : WorkerRely s s' := by
  cases thread with
  | executor => exact ExecutorStep.workerRely h
  | render => exact RenderStep.workerRely h
  | pacer => cases h <;> rfl
  | jpegWorker => exact absurd rfl hne
  | rosSide =>
    obtain ⟨_, side, rfl⟩ := h
    rfl
  | hostSide =>
    obtain ⟨_, side, rfl⟩ := h
    obtain ⟨reserved, elsewhere, e⟩ := hostSide_eq side s
    rw [e]
    rfl

theorem ThreadStep.log {t : ThreadName} (hs : ThreadStep cfg t l s s') :
    ∃ new, s'.log = new ++ s.log := by
  by_cases ht : t = .executor
  · subst ht
    obtain ⟨new, hlog, _⟩ := (ExecutorStep.renderRely hs).log
    exact ⟨new, hlog⟩
  · obtain ⟨new, hlog, _⟩ := (hs.executorRely ht).log
    exact ⟨new, hlog⟩

end

end MediaCamera
