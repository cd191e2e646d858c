import MediaCamera.Plugin.Render

/-!
# Demand and freshness

A stream needs the sensor while `desiredActive_` or `rosConsumersActive_` is set.  The render thread
sets the first in `ApplyNativeControl`, the ROS callback thread the second; each looks at the other
flag and arms the freshness gate if it finds no demand there.  `Plugin.Render` takes
`ApplyNativeControl` as one section; here it is taken apart, because the callback thread does not
hold its mutex.

* `Activation`        the members that decide about demand and freshness, and what a run records;
* `applyNativeControl`, `onPostRender`, `postRenderTargetUpdate`   the render thread;
* `onROSSubscriberConnected`, `onROSSubscriberDisconnected`        the callback thread;
* `activationPool`    these threads, the executor and the registration;
* `applyNativeControl_solo`   without interference this `ApplyNativeControl` is the section.

`BeginROSEpoch`, `CaptureSnapshot` and the queues touch none of these members.
-/

namespace MediaCamera

inductive GateEvent where
  /-- a pass of `OnPostRender` has disabled the sensor for lack of demand -/
  | deactivated
  /-- the gate's answer in a callback with encode demand -/
  | observed (decision : FreshRenderDecision) (sourceTimeNanoseconds : Int)
  /-- `DestroyEncoder` -/
  | destroyed
  /-- a frame is submitted to NVENC -/
  | submitted (sourceTimeNanoseconds : Int)
  deriving DecidableEq, Repr

/-- `starting`, `activating`, `lowered` and `log` are not in the source: `ApplyNativeControl` has
set `desiredActive_` and not decided about the gate yet; `OnROSSubscriberConnected` has decided
about the gate and not set `rosConsumersActive_` yet; the present pass has disabled the sensor;
what happened, newest first -/
structure Activation where
  desiredActive : Bool
  nativeCommand : Option NativeControlCommand
  awaitingNativeControl : Option NativeControlCommand
  rosSubscriberCallbacksEnabled : Bool
  rosSubscriberConnectionCount : Nat
  rosConsumersActive : Bool
  rosFreshRenderGeneration : Nat
  rosFreshRenderGate : FreshRenderGate
  /-- `sensor_->IsActive()` -/
  sensorActive : Bool
  cleanupEncoderRequested : Bool
  encoderResourcesActive : Bool
  starting : Bool
  activating : Bool
  lowered : Bool
  log : List GateEvent
  deriving DecidableEq

inductive ActivationLabel where
  /-- the end of a pass of `OnPostRender` -/
  | endPass
  /-- the last section of `OnROSSubscriberConnected` -/
  | activate
  | step
  deriving DecidableEq, Repr

namespace Activation

abbrev Thread := Prog Activation ActivationLabel

def access {α : Type} (f : Activation → Activation × α) : Thread α := .atomic .step f

def read {α : Type} (f : Activation → α) : Thread α := access (fun s => (s, f s))

def write (f : Activation → Activation) : Thread Unit := access (fun s => (f s, ()))

/-! ## the render thread: demand -/

/-- what a pass reads from outside: the try-locks, the pacer, the sensor's camera and render target,
and `SnapshotNeedsRender()` in each place where it is called -/
structure PassInput where
  lockTaken : Bool
  publisherLockTaken : Bool
  rtpInFlight : Bool
  camera : Bool
  renderTarget : Bool
  snapshotAtApply : Bool
  snapshotAtStop : Bool
  snapshotAtEnd : Bool
  deriving DecidableEq, Repr

/-- `sensor_->SetActive` -/
def setActive (active : Bool) (s : Activation) : Activation :=
  { s with sensorActive := active, lowered := !active && (s.lowered || s.sensorActive) }

/-- the consumed command, and `desiredActive_.exchange` -/
def exchange (command : NativeControlCommand) (s : Activation) : Activation :=
  { s with
    nativeCommand := none
    desiredActive := command.active
    starting := command.active && !s.desiredActive }

/-- `rosFreshRenderGeneration_.fetch_add(1)` of a start -/
def armStart (s : Activation) : Activation :=
  { s with rosFreshRenderGeneration := s.rosFreshRenderGeneration + 1, starting := false }

/-- `!rosConsumersActive_.load()` of a start: with consumers the gate is left alone -/
def checkConsumers (s : Activation) : Activation × Bool :=
  ({ s with starting := !s.rosConsumersActive }, s.rosConsumersActive)

/-- `command.active || rosConsumersActive_.load() || SnapshotNeedsRender()` -/
def demandAfter (input : PassInput) (command : NativeControlCommand) : Thread Bool := do
  if command.active then return true
  else if ← read (·.rosConsumersActive) then return true
  else return input.snapshotAtApply

/-- the end of `ApplyNativeControl` -/
def finishCommand (input : PassInput) (command : NativeControlCommand) : Thread Unit := do
  let demand ← demandAfter input command
  write (setActive demand)
  if command.kind ≠ .config then
    write (fun s => { s with awaitingNativeControl := some command })

def applyCommand (input : PassInput) (command : NativeControlCommand) : Thread Unit := do
  let oldActive ← access (fun s => (s.exchange command, s.desiredActive))
  if command.active && !oldActive then
    if !(← access checkConsumers) then write armStart
  finishCommand input command

def applyNativeControl (input : PassInput) : Thread Unit := do
  if input.lockTaken then
    match ← read (·.nativeCommand) with
    | none => pure ()
    | some command =>
      if !(command.calibration.isSome && !input.publisherLockTaken) then applyCommand input command

/-- the condition of `CompleteNativeStopIfDrained`, past the kind of the command -/
def drained (input : PassInput) : Thread Bool := do
  if input.rtpInFlight then return false
  else if ← read (·.rosConsumersActive) then return true
  else read (!·.encoderResourcesActive)

def completeNativeStopIfDrained (input : PassInput) : Thread Unit := do
  match ← read (·.awaitingNativeControl) with
  | none => pure ()
  | some command =>
    if command.kind = .stop then
      if ← drained input then
        if !(← read (·.rosConsumersActive)) then
          if !input.snapshotAtStop then write (setActive false)
        write (fun s => { s with awaitingNativeControl := none })

/-- `desiredActive_.load() || rosConsumersActive_.load()` -/
def wantsEncode : Thread Bool := do
  if ← read (·.desiredActive) then return true
  else read (·.rosConsumersActive)

/-- `OnPostRender` once the listener is attached -/
def driveSensor (input : PassInput) (shouldEncode : Bool) : Thread Unit := do
  if shouldEncode || input.snapshotAtEnd then write (setActive true)
  else if ← read (·.encoderResourcesActive) then
    write (fun s => { s with cleanupEncoderRequested := true })
    write (setActive true)
  else write (setActive false)

def driveDemand (input : PassInput) (shouldEncode : Bool) : Thread Unit := do
  if !input.camera then
    if shouldEncode || input.snapshotAtEnd then write (setActive true)
  else if input.renderTarget then driveSensor input shouldEncode

/-- the pass is over: was the sensor disabled for lack of demand? -/
def endPass (s : Activation) : Activation :=
  { s with
    lowered := false
    log := if s.lowered && !s.desiredActive then .deactivated :: s.log else s.log }

def onPostRender (input : PassInput) : Thread Unit := do
  applyNativeControl input
  completeNativeStopIfDrained input
  let shouldEncode ← wantsEncode
  driveDemand input shouldEncode
  .atomic .endPass (fun s => (s.endPass, ()))

/-! ## the render thread: frames -/

inductive SessionSetup where
  /-- the session fits the frame -/
  | fits
  | created
  /-- `destroys`: what has been set up is destroyed again -/
  | failed (destroys : Bool)
  deriving DecidableEq, Repr

/-- what a render-target callback reads from outside, and how far `EncodeRenderedFrame` gets -/
structure FrameInput where
  sourceTimeNanoseconds : Int
  /-- `SnapshotNeedsRender()` beside `cleanupEncoderRequested_` -/
  snapshotAtCleanup : Bool
  /-- the camera has a texture of OpenGL -/
  textured : Bool
  /-- `ObserveSourceTime` finds that simulation time moved backwards -/
  timeWentBack : Bool
  session : SessionSetup
  /-- the frame reaches `nvEncEncodePicture` -/
  submits : Bool
  /-- `DestroyEncoder` runs after the submission -/
  destroysAfter : Bool
  sent : Bool
  deriving DecidableEq, Repr

def destroyEncoder : Thread Unit :=
  write (fun s => { s with encoderResourcesActive := false, log := .destroyed :: s.log })

/-- the end of `ROSRenderIsFreshForCurrentActivation` -/
def answer : FreshRenderDecision → Thread Bool
  | .discardAndReset => do
    destroyEncoder
    return false
  | .accept => return true
  | .waitForSourceTimeChange => return false

/-- `FreshRenderGate::Observe` -/
def observe (generation : Nat) (time : Int) (s : Activation) : Activation × FreshRenderDecision :=
  let r := s.rosFreshRenderGate.observe generation time
  ({ s with rosFreshRenderGate := r.1, log := .observed r.2 time :: s.log }, r.2)

def rosRenderIsFreshForCurrentActivation (time : Int) : Thread Bool := do
  let generation ← read (·.rosFreshRenderGeneration)
  let decision ← access (observe generation time)
  answer decision

def ensureEncoder : SessionSetup → Thread Bool
  | .fits => return true
  | .created => do
    destroyEncoder
    write (fun s => { s with encoderResourcesActive := true })
    return true
  | .failed destroys => do
    destroyEncoder
    if destroys then destroyEncoder
    return false

/-- `EncodeRenderedFrame` past `EnsureEncoder` -/
def submitFrame (input : FrameInput) : Thread Bool := do
  if input.submits then
    write (fun s => { s with log := .submitted input.sourceTimeNanoseconds :: s.log })
    if input.destroysAfter then
      destroyEncoder
      return false
    else return input.sent
  else return false

/-- `EncodeRenderedFrame` past `ObserveSourceTime` -/
def encodeObserved (input : FrameInput) : Thread Bool := do
  if ← ensureEncoder input.session then submitFrame input
  else return false

def encodeRenderedFrame (input : FrameInput) : Thread Bool := do
  if input.textured then
    if input.timeWentBack then destroyEncoder
    encodeObserved input
  else return false

def failNativeEncoderTransition : Thread Unit := do
  match ← read (·.awaitingNativeControl) with
  | none => pure ()
  | some command =>
    if command.kind = .start ∨ command.kind = .requestKeyframe then
      write (fun s => { s with awaitingNativeControl := none, desiredActive := false })
      destroyEncoder

def encodeForDemand (input : FrameInput) : Thread Unit := do
  if ← rosRenderIsFreshForCurrentActivation input.sourceTimeNanoseconds then
    if !(← encodeRenderedFrame input) then failNativeEncoderTransition
    else
      match ← read (·.awaitingNativeControl) with
      | none => pure ()
      | some command =>
        if command.kind = .start then write (fun s => { s with awaitingNativeControl := none })

def postRenderTargetUpdate (input : FrameInput) : Thread Unit := do
  let shouldEncode ← wantsEncode
  let cleanup ← access (fun s =>
    ({ s with cleanupEncoderRequested := false }, s.cleanupEncoderRequested))
  if cleanup && !shouldEncode && !input.snapshotAtCleanup then destroyEncoder
  else if shouldEncode then encodeForDemand input

/-! ## the callback thread -/

/-- the first section of `OnROSSubscriberConnected`; whether this is the first connection -/
def connected (s : Activation) : Activation × Bool :=
  if s.rosSubscriberCallbacksEnabled then
    ({ s with rosSubscriberConnectionCount := s.rosSubscriberConnectionCount + 1 },
      s.rosSubscriberConnectionCount == 0)
  else (s, false)

/-- `rosFreshRenderGeneration_.fetch_add(1)` of a first connection -/
def armConsumer (s : Activation) : Activation :=
  { s with rosFreshRenderGeneration := s.rosFreshRenderGeneration + 1, activating := true }

/-- the last section of `OnROSSubscriberConnected` -/
def activateConsumers (s : Activation) : Activation :=
  { s with
    activating := false
    rosConsumersActive := s.rosConsumersActive ||
      (s.rosSubscriberCallbacksEnabled && 0 < s.rosSubscriberConnectionCount) }

def onROSSubscriberConnected : Thread Unit := do
  if ← access connected then
    let desired ← access (fun s => ({ s with activating := s.desiredActive }, s.desiredActive))
    if !desired then write armConsumer
    .atomic .activate (fun s => (s.activateConsumers, ()))

/-- the first section of `OnROSSubscriberDisconnected` -/
def disconnected (s : Activation) : Activation :=
  if s.rosSubscriberCallbacksEnabled && 0 < s.rosSubscriberConnectionCount then
    { s with
      rosSubscriberConnectionCount := s.rosSubscriberConnectionCount - 1
      rosConsumersActive := s.rosConsumersActive && 1 < s.rosSubscriberConnectionCount }
  else s

def onROSSubscriberDisconnected : Thread Unit := write disconnected

/-! ## the other threads -/

/-- `RegisterROSPublisher` enables the subscriber callbacks -/
def openSubscribers : Thread Unit :=
  write (fun s => { s with
    rosSubscriberCallbacksEnabled := true
    rosSubscriberConnectionCount := 0 })

/-- the consumer section of a failed registration and of `StopROSPublisher` -/
def closeSubscribers : Thread Unit :=
  write (fun s => { s with
    rosSubscriberCallbacksEnabled := false
    rosSubscriberConnectionCount := 0
    rosConsumersActive := false })

/-- the executor hands a command over, or takes it back -/
def setCommand (command : Option NativeControlCommand) : Thread Unit :=
  write (fun s => { s with nativeCommand := command })

/-! ## the pool -/

def load : Activation where
  desiredActive := false
  nativeCommand := none
  awaitingNativeControl := none
  rosSubscriberCallbacksEnabled := false
  rosSubscriberConnectionCount := 0
  rosConsumersActive := false
  rosFreshRenderGeneration := 0
  rosFreshRenderGate := ⟨0, none⟩
  sensorActive := false
  cleanupEncoderRequested := false
  encoderResourcesActive := false
  starting := false
  activating := false
  lowered := false
  log := []

end Activation

inductive ActivationThread where
  | executor
  | render
  | callback
  | registration
  deriving DecidableEq, Repr

namespace Activation

inductive RenderCall where
  | postRender (input : PassInput)
  | renderTarget (input : FrameInput)

inductive CallbackCall where
  | connect
  | disconnect

inductive RegistrationCall where
  | open
  | close

abbrev Call : ActivationThread → Type
  | .executor => Option NativeControlCommand
  | .render => RenderCall
  | .callback => CallbackCall
  | .registration => RegistrationCall

def body : (t : ActivationThread) → Call t → Thread Unit
  | .executor, command => setCommand command
  | .render, .postRender input => onPostRender input
  | .render, .renderTarget input => postRenderTargetUpdate input
  | .callback, .connect => onROSSubscriberConnected
  | .callback, .disconnect => onROSSubscriberDisconnected
  | .registration, .open => openSubscribers
  | .registration, .close => closeSubscribers

end Activation

def activationPool : Pool Activation ActivationLabel ActivationThread Activation.Call where
  init s := s = .load
  body := Activation.body

/-! ## the section of the plugin -/

/-- the members of the plugin that are here, with nothing recorded -/
def State.activation (s : State) : Activation where
  desiredActive := s.nat.desiredActive
  nativeCommand := s.nat.nativeCommand
  awaitingNativeControl := s.nat.awaitingNativeControl
  rosSubscriberCallbacksEnabled := s.ros.branch.rosSubscriberCallbacksEnabled
  rosSubscriberConnectionCount := s.ros.branch.rosSubscriberConnectionCount
  rosConsumersActive := s.ros.branch.rosConsumersActive
  rosFreshRenderGeneration := s.flags.rosFreshRenderGeneration
  rosFreshRenderGate := s.view.rosFreshRenderGate
  sensorActive := s.view.sensorActive
  cleanupEncoderRequested := s.flags.cleanupEncoderRequested
  encoderResourcesActive := s.flags.encoderResourcesActive
  starting := false
  activating := false
  lowered := false
  log := []

def Activation.members (s : Activation) : Activation :=
  { s with starting := false, activating := false, lowered := false, log := [] }

theorem consume_activation (cfg : PluginConfig) (command : NativeControlCommand) (s : State) :
    (s.consume cfg command).activation =
      { s.activation with
        nativeCommand := none
        desiredActive := command.active
        rosFreshRenderGeneration :=
          if command.active && !s.nat.desiredActive && !s.ros.branch.rosConsumersActive then
            s.flags.rosFreshRenderGeneration + 1
          else s.flags.rosFreshRenderGeneration } := by
  cases hc : command.calibration <;>
    simp [State.consume, State.activation, hc, rosStep, RosBranch.applyCalibration]

theorem applyCommand_solo (pass : Activation.PassInput) (command : NativeControlCommand)
    (s : Activation) :
    ((Activation.applyCommand pass command).solo s).1.members =
      { s.members with
        nativeCommand := none
        desiredActive := command.active
        rosFreshRenderGeneration :=
          if command.active && !s.desiredActive && !s.rosConsumersActive then
            s.rosFreshRenderGeneration + 1
          else s.rosFreshRenderGeneration
        sensorActive := command.active || s.rosConsumersActive || pass.snapshotAtApply
        awaitingNativeControl :=
          if command.kind = .config then s.awaitingNativeControl else some command } := by
  unfold Activation.applyCommand Activation.finishCommand Activation.demandAfter
  cases ha : command.active <;> cases hd : s.desiredActive <;> cases hr : s.rosConsumersActive <;>
    by_cases hk : command.kind = .config <;>
    simp [Activation.access, Activation.read, Activation.write, Activation.exchange,
      Activation.checkConsumers, Activation.armStart, Activation.setActive, Activation.members,
      ha, hd, hr, hk]

/-- **Without interference, `ApplyNativeControl` is the section of the plugin.** -/
theorem applyNativeControl_solo (cfg : PluginConfig) (input : PostRenderInput)
    (pass : Activation.PassInput) (s : State) (hlock : pass.lockTaken = input.lockTaken)
    (hpublisher : pass.publisherLockTaken = input.publisherLockTaken)
    (hsnapshot : pass.snapshotAtApply = s.snap.needsRender) :
    ((Activation.applyNativeControl pass).solo s.activation).1.members =
      (s.applyNativeControl cfg input).activation := by
  unfold Activation.applyNativeControl State.applyNativeControl
  rw [hlock]
  cases hl : input.lockTaken with
  | false => rfl
  | true =>
    cases hcommand : s.nat.nativeCommand with
    | none =>
      have hread : s.activation.nativeCommand = none := hcommand
      simp only [Activation.read, Activation.access, Prog.solo_bind, Prog.solo_atomic, hread,
        if_true, Bool.not_true, Bool.false_eq_true, if_false]
      rfl
    | some command =>
      have hread : s.activation.nativeCommand = some command := hcommand
      simp only [Activation.read, Activation.access, Prog.solo_bind, Prog.solo_atomic, hread,
        if_true, Bool.not_true, Bool.false_eq_true, if_false, hpublisher]
      cases hwait : command.calibration.isSome && !input.publisherLockTaken with
      | true => rfl
      | false =>
        simp only [Bool.not_false, if_true, Bool.false_eq_true, if_false]
        rw [applyCommand_solo, hsnapshot]
        have hconsumers : (s.consume cfg command).ros.branch.rosConsumersActive =
            s.ros.branch.rosConsumersActive :=
          congrArg Activation.rosConsumersActive (consume_activation cfg command s)
        have hdemand : (s.consume cfg command).setDemandActive.activation =
            { (s.consume cfg command).activation with
              sensorActive := command.active || s.ros.branch.rosConsumersActive ||
                s.snap.needsRender } := by
          simp only [State.setDemandActive, State.activation, hconsumers]
          rfl
        by_cases hk : command.kind = .config
        · rw [if_pos hk, if_pos hk]
          show _ = (s.consume cfg command).setDemandActive.activation
          rw [hdemand, consume_activation]
          rfl
        · rw [if_neg hk, if_neg hk]
          show _ = { (s.consume cfg command).setDemandActive.activation with
            awaitingNativeControl := some command }
          rw [hdemand, consume_activation]
          rfl

end MediaCamera
