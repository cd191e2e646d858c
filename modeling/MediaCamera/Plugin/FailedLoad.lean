import MediaCamera.Control.Roster
import MediaCamera.Machine.History
import MediaCamera.Plugin.LoadValues
import MediaCamera.Plugin.System

/-!
# A camera whose `Load` failed

`Load` acquires a socket, three workers, the ROS registration, the post-render connection and its
place at the control host, in this order, and every exit releases by hand.

* `SharedHost.acquire`      `CameraSourceControlHost::Acquire`;
* `LoadWorld.load`          the exits of `Load`, with what is held at each (`Held`);
* `Held.Connected`          the calls that can reach the plugin after that;
* `Quiet`, `FailsInert`     the plugin does nothing on any of them, and no worker is left;
* `LoadWorld.RefusedByHost` the host has another binding, or no place for the source;
* `failed_load_inert`       a failed `Load` leaves the plugin inert except where the host refuses.

`StartControlServer` is the last acquisition, and its exit releases what the exits before it do:
the diagnostic reporter, the registration and the connection stay.
-/

namespace MediaCamera

/-! ## the host -/

/-- the host of the process: its binding, and the calls of its sources so far; the handlers do not
matter here -/
structure SharedHost where
  path : Bytes
  target_id : Bytes
  instance_id : Bytes
  calls : List (RosterCall Unit)

/-- `Acquire`; `created` is how the construction of a host ends, with `new_instance_id()` or with
an exception -/
def SharedHost.acquire (shared : Option SharedHost) (path target_id instance_id : Bytes)
    (created : Except Thrown Bytes) : Except Thrown SharedHost :=
  if safeSourceIdentifier target_id = false then
    .error (.invalidArgument "explicit bounded control target identity is required")
  else
    match shared with
    | some host =>
      if host.path ≠ path ∨ host.target_id ≠ target_id ∨
          (instance_id ≠ [] ∧ host.instance_id ≠ instance_id) then
        .error (.invalidArgument
          "all camera sensors in one world must share the same control binding")
      else .ok host
    | none => created.map fun new => ⟨path, target_id, if instance_id = [] then new else instance_id, []⟩

/-! ## the exits of `Load` -/

/-- what `Load` finds, and how the calls outside of it come out -/
structure LoadWorld where
  /-- the parent, if it is a camera sensor -/
  sensor : Option CameraSensor
  sdf : PluginSdf
  controlInstanceId : Option Bytes
  /-- `snapshotJpegHardware_.Open()` and `backend()` -/
  hardwareOpens : Bool
  hardwareBackend : String
  inetPton : Bool
  socket : Bool
  /-- the three threads can be started -/
  rtpPacerThread : Bool
  snapshotEncoderThread : Bool
  diagnosticThread : Bool
  host : Option SharedHost
  created : Except Thrown Bytes

/-- what the plugin holds: its socket, its running workers, and what may call it -/
structure Held where
  rtpSocket : Bool
  rtpPacer : Bool
  snapshotEncoder : Bool
  diagnosticReporter : Bool
  rosRegistration : Bool
  postRenderConnection : Bool
  controlRegistered : Bool
  deriving DecidableEq, Repr

namespace Held

def nothing : Held := ⟨false, false, false, false, false, false, false⟩

def closeSocket (held : Held) : Held := { held with rtpSocket := false }

def stopRTPPacer (held : Held) : Held := { held with rtpPacer := false }

def stopSnapshotEncoder (held : Held) : Held := { held with snapshotEncoder := false }

end Held

inductive LoadResult where
  | fault (fault : ArithmeticFault)
  /-- `Load` returned through an error path -/
  | failed (held : Held)
  | loaded (held : Held) (host : SharedHost)

namespace LoadWorld
variable (w : LoadWorld)

/-- `snapshotJpegBackend_` -/
def backend (v : MediaValues) : SnapshotJpegBackendDecision :=
  let hardwareAvailable := v.snapshotJpegPolicy != .cpu && w.hardwareOpens
  selectSnapshotJpegBackend v.snapshotJpegPolicy hardwareAvailable
    (if hardwareAvailable then w.hardwareBackend else "nvjpeg-cuda")

/-- `StartControlServer`: the host, with the source in it, or an exception -/
def startControlServer (v : MediaValues) : Except Thrown SharedHost :=
  match SharedHost.acquire w.host v.controlSocketPath v.controlTargetID
      (w.controlInstanceId.getD []) w.created with
  | .error thrown => .error thrown
  | .ok host =>
    match (Host.register (roster host.calls) v.sourceID ()).2 with
    | some thrown => .error thrown
    | none => .ok { host with calls := host.calls ++ [.register v.sourceID ()] }

/-- the rest of `Load`, from the diagnostic reporter on -/
def connect (sensor : CameraSensor) (v : MediaValues) (held : Held) : LoadResult :=
  match keyframeIntervalFrames sensor.updateRate with
  | .error fault => .fault fault
  | .ok _ =>
    let held := { held with
      rosRegistration := v.rosPublishingEnabled
      postRenderConnection := true }
    match w.startControlServer v with
    | .error _ => .failed held.stopSnapshotEncoder.stopRTPPacer.closeSocket
    | .ok host => .loaded { held with controlRegistered := true } host

/-- `Load` past the checks of its values: the socket and the workers -/
def acquire (sensor : CameraSensor) (v : MediaValues) : LoadResult :=
  if w.inetPton = false then .failed .nothing
  else if w.socket = false then .failed .nothing
  else
    let held := { Held.nothing with rtpSocket := true }
    if w.rtpPacerThread = false then .failed held.closeSocket
    else
      let held := { held with rtpPacer := true }
      if w.snapshotEncoderThread = false then .failed held.stopRTPPacer.closeSocket
      else
        let held := { held with snapshotEncoder := true }
        if w.diagnosticThread = false then
          .failed held.stopSnapshotEncoder.stopRTPPacer.closeSocket
        else w.connect sensor v { held with diagnosticReporter := true }

def load : LoadResult :=
  match w.sensor with
  | none => .failed .nothing
  | some sensor =>
    match readValues w.sdf with
    | .error (.fault fault) => .fault fault
    | .error (.refused _) => .failed .nothing
    | .ok v =>
      if (w.backend v).available = false then .failed .nothing
      else if v.invalid sensor then .failed .nothing
      else if v.maxBitrate < v.bitrate ∨ v.pacingBitrate < v.maxBitrate then .failed .nothing
      else w.acquire sensor v

/-! ## the refusal of the host -/

/-- the binding of the host is another one, or the source cannot be added to it -/
def Refuses (v : MediaValues) : Prop :=
  match w.host with
  | some host =>
    host.path ≠ v.controlSocketPath ∨ host.target_id ≠ v.controlTargetID ∨
      (w.controlInstanceId.getD [] ≠ [] ∧ host.instance_id ≠ w.controlInstanceId.getD []) ∨
      ¬ Registrable (registered host.calls) v.sourceID
  | none => ∃ thrown, w.created = .error thrown

/-- everything before the host succeeds, and the host refuses -/
def RefusedByHost : Prop :=
  ∃ sensor v, w.sensor = some sensor ∧ readValues w.sdf = .ok v ∧
    (w.backend v).available = true ∧ v.invalid sensor = false ∧
    (v.bitrate ≤ v.maxBitrate ∧ v.maxBitrate ≤ v.pacingBitrate) ∧
    w.inetPton = true ∧ w.socket = true ∧ w.rtpPacerThread = true ∧
    w.snapshotEncoderThread = true ∧ w.diagnosticThread = true ∧
    (∃ frames, keyframeIntervalFrames sensor.updateRate = .ok frames) ∧ w.Refuses v

end LoadWorld

/-! ## after a failure -/

/-- the calls that can reach a plugin that holds this: the render-target callback needs the
listener, which `OnPostRender` attaches -/
def Held.Connected (held : Held) (s : PluginState) : PluginAction → Prop
  | .start .executor _ => held.controlRegistered = true
  | .start .render (.postRender _) => held.postRenderConnection = true
  | .start .render (.renderTarget _) => s.shared.view.listenerAttached = true
  | .start .pacer _ => held.rtpPacer = true
  | .start .jpegWorker _ => held.snapshotEncoder = true
  | .start .rosSide _ => held.rosRegistration = true
  | .start .hostSide _ => True
  | .step _ => True

instance (held : Held) (s : PluginState) : ∀ a, Decidable (held.Connected s a)
  | .start .executor _ => inferInstanceAs (Decidable (held.controlRegistered = true))
  | .start .render (.postRender _) => inferInstanceAs (Decidable (held.postRenderConnection = true))
  | .start .render (.renderTarget _) =>
    inferInstanceAs (Decidable (s.shared.view.listenerAttached = true))
  | .start .pacer _ => inferInstanceAs (Decidable (held.rtpPacer = true))
  | .start .jpegWorker _ => inferInstanceAs (Decidable (held.snapshotEncoder = true))
  | .start .rosSide _ => inferInstanceAs (Decidable (held.rosRegistration = true))
  | .start .hostSide _ => inferInstanceAs (Decidable True)
  | .step _ => inferInstanceAs (Decidable True)

/-- every worker that `Load` started has been stopped -/
def Held.WorkersStopped (held : Held) : Prop :=
  held.rtpPacer = false ∧ held.snapshotEncoder = false ∧ held.diagnosticReporter = false

def State.afterFailure (cfg : PluginConfig) (input : LoadInput) (sensorActive : Bool)
    (held : Held) : State :=
  let s := State.load cfg input
  { s with
    view.sensorActive := sensorActive
    rtp := if held.rtpPacer then s.rtp else s.rtp.stop
    snap.snapshotEncoderStopping := !held.snapshotEncoder }

def PluginState.afterFailure (cfg : PluginConfig) (input : LoadInput) (sensorActive : Bool)
    (held : Held) : PluginState :=
  ⟨.afterFailure cfg input sensorActive held, fun _ => .ret ()⟩

/-- the sensor is as it was, no encoder was created, no frame submitted or queued, and nothing was
published -/
structure Quiet (sensorActive : Bool) (s : State) : Prop where
  sensor : s.view.sensorActive = sensorActive
  encoder : s.enc.sessions = 0
  submitted : s.enc.sourceFrameSequence = 0
  rtp : s.rtp.rtpQueue = [] ∧ s.sent = []
  ros : s.ros.branch.rosFrameQueue = []
  published : s.ros.out = []

/-- where `Load` failed, its workers are stopped, and the plugin is quiet in every run of the calls
that can still reach it -/
def FailsInert (w : LoadWorld) : Prop :=
  ∀ held, w.load = .failed held → held.WorkersStopped ∧
    ∀ (cfg : PluginConfig) (input : LoadInput) (sensorActive : Bool) (actions : List PluginAction),
      (pluginMachine cfg).Along held.Connected (.afterFailure cfg input sensorActive held) actions →
        Quiet sensorActive ((pluginMachine cfg).run (.afterFailure cfg input sensorActive held)
          actions).shared

/-! ## the exits -/

theorem isSafeIdentifier_eq (value : Bytes) :
    isSafeIdentifier value = safeSourceIdentifier value := by
  have hbyte : ∀ b : UInt8, isSafeIdentifier [b] = safeSourceIdentifier [b] := by
    intro b
    simp only [isSafeIdentifier, safeSourceIdentifier, isalnum]
    grind
  rw [Bool.eq_iff_iff, isSafeIdentifier_iff, safeSourceIdentifier_iff]
  simp only [hbyte]

theorem MediaValues.valid_identities {v : MediaValues} {sensor : CameraSensor}
    (h : v.invalid sensor = false) :
    safeSourceIdentifier v.sourceID = true ∧ safeSourceIdentifier v.controlTargetID = true := by
  simp only [MediaValues.invalid, Bool.or_eq_false_iff, Bool.not_eq_false', isSafeIdentifier_eq] at h
  tauto

namespace LoadWorld
variable {w : LoadWorld} {sensor : CameraSensor} {v : MediaValues}

/-- `Register` takes a source exactly where the map of the registered sources has room for it -/
theorem register_throws (calls : List (RosterCall Unit)) (source_id : Bytes) :
    (Host.register (roster calls) source_id ()).2 = none ↔
      Registrable (registered calls) source_id := by
  have hheld := roster_represents calls
  constructor
  · intro hnone
    by_contra hregistrable
    exact (hheld.refused hregistrable).1 hnone
  · intro hregistrable
    exact (hheld.register hregistrable).1

theorem registrable_first {source_id : Bytes} (h : safeSourceIdentifier source_id = true) :
    Registrable (registered ([] : List (RosterCall Unit))) source_id :=
  ⟨h, Finmap.notMem_empty, Nat.succ_pos _⟩

/-- `StartControlServer` fails exactly where the host refuses -/
theorem startControlServer_error (h : v.invalid sensor = false) :
    (∃ thrown, w.startControlServer v = .error thrown) ↔ w.Refuses v := by
  obtain ⟨hsource, htarget⟩ := MediaValues.valid_identities h
  have hunsafe : ¬ safeSourceIdentifier v.controlTargetID = false := by simp [htarget]
  unfold startControlServer SharedHost.acquire
  rw [if_neg hunsafe, Refuses]
  cases w.host with
  | none =>
    cases hcreated : w.created with
    | error thrown => exact ⟨fun _ => ⟨thrown, rfl⟩, fun _ => ⟨thrown, rfl⟩⟩
    | ok new =>
      have hroom := (register_throws [] v.sourceID).mpr (registrable_first hsource)
      simp only [Except.map, hroom]
      constructor
      · rintro ⟨thrown, hthrown⟩
        cases hthrown
      · rintro ⟨thrown, hthrown⟩
        cases hthrown
  | some host =>
    simp only
    by_cases hbinding : host.path ≠ v.controlSocketPath ∨ host.target_id ≠ v.controlTargetID ∨
        (w.controlInstanceId.getD [] ≠ [] ∧ host.instance_id ≠ w.controlInstanceId.getD [])
    · rw [if_pos hbinding]
      constructor
      · intro _
        tauto
      · intro _
        exact ⟨_, rfl⟩
    · rw [if_neg hbinding]
      have hrefuses : ¬ Registrable (registered host.calls) v.sourceID ↔
          (host.path ≠ v.controlSocketPath ∨ host.target_id ≠ v.controlTargetID ∨
            (w.controlInstanceId.getD [] ≠ [] ∧
              host.instance_id ≠ w.controlInstanceId.getD []) ∨
            ¬ Registrable (registered host.calls) v.sourceID) := by
        tauto
      rw [← hrefuses, ← register_throws]
      cases hregister : (Host.register (roster host.calls) v.sourceID ()).2 with
      | none =>
        constructor
        · rintro ⟨thrown, hthrown⟩
          simp [hregister] at hthrown
        · intro hne
          exact absurd rfl hne
      | some thrown =>
        constructor
        · intro _
          exact Option.some_ne_none thrown
        · intro _
          exact ⟨thrown, by simp [hregister]⟩

def leftBehind (v : MediaValues) : Held :=
  { Held.nothing with
    diagnosticReporter := true
    rosRegistration := v.rosPublishingEnabled
    postRenderConnection := true }

theorem connect_failed {held left : Held} (h : w.connect sensor v held = .failed left) :
    (∃ frames, keyframeIntervalFrames sensor.updateRate = .ok frames) ∧
      (∃ thrown, w.startControlServer v = .error thrown) ∧
      left = ({ held with
        rosRegistration := v.rosPublishingEnabled
        postRenderConnection := true } : Held).stopSnapshotEncoder.stopRTPPacer.closeSocket := by
  rw [connect] at h
  cases hframes : keyframeIntervalFrames sensor.updateRate with
  | error fault =>
    rw [hframes] at h
    cases h
  | ok frames =>
    rw [hframes] at h
    cases hstart : w.startControlServer v with
    | ok host =>
      simp only [hstart] at h
      cases h
    | error thrown =>
      simp only [hstart] at h
      exact ⟨⟨frames, rfl⟩, ⟨thrown, rfl⟩, (LoadResult.failed.inj h).symm⟩

theorem acquire_failed {held : Held} (h : w.acquire sensor v = .failed held) :
    held = .nothing ∨ (w.inetPton = true ∧ w.socket = true ∧ w.rtpPacerThread = true ∧
      w.snapshotEncoderThread = true ∧ w.diagnosticThread = true ∧
      (∃ frames, keyframeIntervalFrames sensor.updateRate = .ok frames) ∧
      (∃ thrown, w.startControlServer v = .error thrown) ∧ held = leftBehind v) := by
  rw [acquire] at h
  split at h
  · exact .inl (LoadResult.failed.inj h).symm
  rename_i hpton
  split at h
  · exact .inl (LoadResult.failed.inj h).symm
  rename_i hsocket
  simp only at h
  split at h
  · exact .inl (LoadResult.failed.inj h).symm
  rename_i hpacer
  split at h
  · exact .inl (LoadResult.failed.inj h).symm
  rename_i hencoder
  split at h
  · exact .inl (LoadResult.failed.inj h).symm
  rename_i hdiagnostic
  obtain ⟨hframes, hthrown, hleft⟩ := connect_failed h
  simp only [Bool.not_eq_false] at hpton hsocket hpacer hencoder hdiagnostic
  exact .inr ⟨hpton, hsocket, hpacer, hencoder, hdiagnostic, hframes, hthrown, hleft⟩

/-- where `Load` fails, it holds nothing any more, unless the host refused -/
theorem load_failed {held : Held} (h : w.load = .failed held) :
    held = .nothing ∨ w.RefusedByHost := by
  rw [load] at h
  split at h
  · exact .inl (LoadResult.failed.inj h).symm
  rename_i sensor hsensor
  split at h
  · cases h
  · exact .inl (LoadResult.failed.inj h).symm
  rename_i v hvalues
  split at h
  · exact .inl (LoadResult.failed.inj h).symm
  rename_i hbackend
  split at h
  · exact .inl (LoadResult.failed.inj h).symm
  rename_i hvalid
  split at h
  · exact .inl (LoadResult.failed.inj h).symm
  rename_i hrates
  simp only [Bool.not_eq_false] at hbackend
  rw [Bool.not_eq_true] at hvalid
  rw [not_or, not_lt, not_lt] at hrates
  rcases acquire_failed h with hnothing |
    ⟨hpton, hsocket, hpacer, hencoder, hdiagnostic, hframes, hthrown, -⟩
  · exact .inl hnothing
  · exact .inr ⟨sensor, v, hsensor, hvalues, hbackend, hvalid, hrates, hpton, hsocket, hpacer,
      hencoder, hdiagnostic, hframes, (startControlServer_error hvalid).mp hthrown⟩

theorem load_refused (h : w.RefusedByHost) :
    ∃ v, readValues w.sdf = .ok v ∧ w.load = .failed (leftBehind v) := by
  obtain ⟨sensor, v, hsensor, hvalues, hbackend, hvalid, hrates, hpton, hsocket, hpacer, hencoder,
    hdiagnostic, ⟨frames, hframes⟩, hrefuses⟩ := h
  obtain ⟨thrown, hthrown⟩ := (startControlServer_error hvalid).mpr hrefuses
  have hordered : ¬ (v.maxBitrate < v.bitrate ∨ v.pacingBitrate < v.maxBitrate) := by omega
  refine ⟨v, hvalues, ?_⟩
  simp only [load, hsensor, hvalues, hbackend, hvalid, if_neg hordered, acquire, hpton, hsocket,
    hpacer, hencoder, hdiagnostic, connect, hframes, hthrown]
  rfl

end LoadWorld

/-! ## nothing is left to call -/

theorem Quiet.afterFailure (cfg : PluginConfig) (input : LoadInput) (sensorActive : Bool)
    (held : Held) : Quiet sensorActive (.afterFailure cfg input sensorActive held) := by
  constructor
  case sensor => rfl
  case encoder => rfl
  case submitted => rfl
  case rtp =>
    refine ⟨?_, rfl⟩
    show (if held.rtpPacer then RtpQueue.load else RtpQueue.load.stop).rtpQueue = []
    split
    · rfl
    · rfl
  case ros => rfl
  case published => rfl

theorem Held.nothing_quiet (cfg : PluginConfig) (input : LoadInput) (sensorActive : Bool)
    (actions : List PluginAction)
    (hC : (pluginMachine cfg).Along Held.nothing.Connected
      (.afterFailure cfg input sensorActive .nothing) actions) :
    Quiet sensorActive ((pluginMachine cfg).run (.afterFailure cfg input sensorActive .nothing)
      actions).shared := by
  have hkeeps := Pool.Confined.along (P := plugin cfg) (C := Held.nothing.Connected)
    (R := fun _ s s' => ∃ side, s' = s.hostSide side)
    (J := fun s => Quiet sensorActive s ∧ s.view.listenerAttached = false)
    (s := PluginState.afterFailure cfg input sensorActive .nothing)
  refine (hkeeps ?_ ?_ (.idle rfl) ⟨.afterFailure .., rfl⟩ hC).1
  · rintro s t c ⟨-, hlistener⟩ hconnected
    cases t with
    | executor => cases hconnected
    | render =>
      cases c with
      | postRender input => cases hconnected
      | renderTarget input =>
        rw [Held.Connected, hlistener] at hconnected
        cases hconnected
    | pacer => cases hconnected
    | jpegWorker => cases hconnected
    | rosSide => cases hconnected
    | hostSide => exact .atomic fun s => ⟨c, rfl⟩
  · rintro l s s' ⟨hquiet, hlistener⟩ ⟨side, rfl⟩
    have hview : (s.hostSide side).view = s.view ∧ (s.hostSide side).enc = s.enc ∧
        (s.hostSide side).rtp = s.rtp ∧ (s.hostSide side).sent = s.sent ∧
        (s.hostSide side).ros = s.ros := by
      unfold State.hostSide
      cases side with
      | reserve =>
        simp only
        split
        · exact ⟨rfl, rfl, rfl, rfl, rfl⟩
        · exact ⟨rfl, rfl, rfl, rfl, rfl⟩
      | release =>
        simp only
        split
        · exact ⟨rfl, rfl, rfl, rfl, rfl⟩
        · exact ⟨rfl, rfl, rfl, rfl, rfl⟩
    obtain ⟨hview, henc, hrtp, hsent, hros⟩ := hview
    refine ⟨?_, by rw [hview]; exact hlistener⟩
    constructor
    case sensor => rw [hview]; exact hquiet.sensor
    case encoder => rw [henc]; exact hquiet.encoder
    case submitted => rw [henc]; exact hquiet.submitted
    case rtp => rw [hrtp, hsent]; exact hquiet.rtp
    case ros => rw [hros]; exact hquiet.ros
    case published => rw [hros]; exact hquiet.published

/-- **A failed `Load`** leaves the plugin inert exactly where the host did not refuse it. -/
theorem failed_load_inert (w : LoadWorld) : FailsInert w ↔ ¬ w.RefusedByHost := by
  constructor
  · intro hinert hrefused
    obtain ⟨v, -, hload⟩ := LoadWorld.load_refused hrefused
    have hworkers := (hinert _ hload).1
    cases hworkers.2.2
  · intro hrefused held hload
    obtain rfl := (LoadWorld.load_failed hload).resolve_right hrefused
    exact ⟨⟨rfl, rfl, rfl⟩, Held.nothing_quiet⟩

/-! ## a second camera with another endpoint -/

/-- a camera whose values are all accepted, in a world where another camera has opened the host
under another endpoint -/
def LoadWorld.secondCamera : LoadWorld where
  sensor := some ⟨640, 480, 30⟩
  sdf := {
    sourceId := some (bytesOf "rear")
    frameId := none
    snapshotPoseFrameId := none
    rtpHost := none
    rtpPort := some 5000
    controlEndpoint := some (bytesOf "/tmp/rear.sock")
    controlTargetId := some (bytesOf "robot")
    bitrate := none
    maxBitrate := none
    pacingBitrate := none
    vbvBufferMilliseconds := none
    jpegQuality := none
    snapshotJpegBackend := none
    rosPublishEnabled := none
    rosVideoTopic := none
    rosFrameTimingTopic := none
    rosStreamInfoTopic := none
    rosPublisherQueueCapacity := none }
  controlInstanceId := none
  hardwareOpens := false
  hardwareBackend := ""
  inetPton := true
  socket := true
  rtpPacerThread := true
  snapshotEncoderThread := true
  diagnosticThread := true
  host := some ⟨bytesOf "/tmp/front.sock", bytesOf "robot", bytesOf "instance",
    [.register (bytesOf "front") ()]⟩
  created := .ok []

/-- the master is there, a recorder subscribes, and two frames are rendered -/
def revivalRun : List PluginAction :=
  consumerRun ++ runCall .render (postRenderCall 1) 20 ++
    runCall .render (frameCall 1 .needMoreInput) 20 ++
    runCall .render (frameCall 2 (.output 0 idrUnit)) 60 ++
    (List.replicate 6 RosSide.worker).flatMap fun side => runCall .rosSide side 1

theorem LoadWorld.secondCamera_refused : LoadWorld.secondCamera.RefusedByHost := by
  have hframes := keyframeIntervalFrames_ok (show (30 : ℚ) ≤ 240 by norm_num)
  exact ⟨⟨640, 480, 30⟩, _, rfl, rfl, rfl, by decide, by decide, rfl, rfl, rfl, rfl, rfl, hframes,
    .inl (by decide)⟩

/-- the refused camera renders, encodes and publishes for the recorder -/
theorem refused_camera_streams :
    let held : Held := ⟨false, false, false, true, true, true, false⟩
    let cfg := { PluginConfig.sample with rtpSocketOpen := false }
    let start := PluginState.afterFailure cfg .sample false held
    let left := (pluginMachine cfg).run start revivalRun
    LoadWorld.secondCamera.load = .failed held ∧ ¬ FailsInert .secondCamera ∧
      (pluginMachine cfg).Along held.Connected start revivalRun ∧
      left.shared.view.sensorActive = true ∧ left.shared.enc.sessions = 1 ∧
      left.shared.enc.sourceFrameSequence = 1 ∧ left.shared.ros.published.length = 1 := by
  intro held cfg start left
  have hload : LoadWorld.secondCamera.load = .failed held := by
    obtain ⟨v, hvalues, hload⟩ := LoadWorld.load_refused LoadWorld.secondCamera_refused
    obtain rfl := Except.ok.inj hvalues
    exact hload
  refine ⟨hload, ?_, by decide +kernel, by decide +kernel, by decide +kernel, by decide +kernel,
    by decide +kernel⟩
  intro hinert
  cases (hinert held hload).1.2.2

end MediaCamera
