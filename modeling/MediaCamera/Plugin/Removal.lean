import MediaCamera.Machine.Threads
import MediaCamera.Plugin.Verified

/-!
# The removal of a sensor

`~XGCMediaCameraPlugin`, up to the release of the capture.  It runs on the thread of the render
callbacks, after the camera and its render target are gone, so no callback runs and none follows.

* `Removal`          how far the destructor is; `Removal.takesCalls`, which threads take calls then;
* `State.stopControlServer`, `Snapshot.stopEncoder`   its sections;
* `CameraSource.next`    a step of the destructor or of a thread;
* `CameraSource.Sound`   what every step keeps: before `Unregister`, the plugin is in a state of its
                     machine; from then on it is `Retired`.
-/

namespace MediaCamera

/-! ## the destructor -/

inductive Removal where
  /-- the sensor is not being removed -/
  | registered
  /-- `StopControlServer` waits for `sources_mutex_`, which the calls of the executor hold: here the
  calls of this source alone -/
  | unregistering
  /-- the source is unregistered; its replies are open -/
  | answering
  /-- before the section of `StopSnapshotEncoder` -/
  | stoppingEncoder
  /-- the JPEG worker is joined -/
  | joining
  /-- the worker has returned -/
  | releasing
  /-- the capture is released, and `captureSlotHeld_` not yet reset -/
  | recording
  | removed
  deriving DecidableEq, Repr

def Removal.serves : Removal → Bool
  | .registered | .unregistering => true
  | _ => false

def Removal.stops : Removal → Bool
  | .joining | .releasing | .recording | .removed => true
  | _ => false

def Removal.joined : Removal → Bool
  | .releasing | .recording | .removed => true
  | _ => false

/-- whether a thread takes a call; the other sources of the host are sources of their own here -/
def Removal.takesCalls (removal : Removal) : ThreadName → Bool
  | .executor => removal.serves
  | .render => decide (removal = .registered)
  | .jpegWorker => !removal.joined
  | .hostSide => false
  | _ => true

def sensorRemoved : ControlError := ⟨503, "unavailable", "camera sensor was removed"⟩

/-- the replies that `StopControlServer` completes, in its order -/
def State.removedReplies (s : State) : List Nat :=
  (s.ctl.pendingControl.map (·.reply)).toList ++
    s.ctl.controlWatchers.filterMap (·.map (·.reply)) ++ s.ctl.captureReply.toList

/-- `StopControlServer` past `Unregister` -/
def State.stopControlServer (s : State) : State :=
  { s with
    ctl.controlWatchers := s.ctl.controlWatchers.map fun _ => none
    ctl.captureReply := none
    log := (s.removedReplies.map fun handle => .replied handle (.error sensorRemoved)).reverse ++
      s.log }

/-- the section of `StopSnapshotEncoder` -/
def Snapshot.stopEncoder (s : Snapshot) : Snapshot :=
  { s with snapshotEncoderStopping := true, snapshotEncodeJob := none }

/-! ## a source of the host -/

structure CameraSource where
  state : PluginState
  removal : Removal

inductive SourceAction where
  | thread (a : PluginAction)
  /-- the next step of the destructor -/
  | remove

namespace CameraSource

def idle (source : CameraSource) (t : ThreadName) : Bool := (source.state.thread t).next.isNone

/-- the next step of the destructor -/
def remove (source : CameraSource) : CameraSource :=
  let shared := source.state.shared
  match source.removal with
  | .registered =>
    if source.idle .render then { source with removal := .unregistering } else source
  | .unregistering =>
    if source.idle .executor then { source with removal := .answering } else source
  | .answering =>
    { state.thread := source.state.thread
      state.shared := shared.stopControlServer
      removal := .stoppingEncoder }
  | .stoppingEncoder =>
    { state.thread := source.state.thread
      state.shared := { shared with snap := shared.snap.stopEncoder }
      removal := .joining }
  | .joining =>
    if source.idle .jpegWorker then { source with removal := .releasing } else source
  | .releasing =>
    if shared.ctl.captureSlotHeld then
      { state.thread := source.state.thread
        state.shared := { shared with
          flags.captureReserved := false, ctl.captureRecording := true }
        removal := .recording }
    else { source with removal := .removed }
  | .recording =>
    { state.thread := source.state.thread
      state.shared := { shared with ctl.captureSlotHeld := false, ctl.captureRecording := false }
      removal := .removed }
  | .removed => source

def takes (source : CameraSource) : PluginAction → Bool
  | .start t _ => source.removal.takesCalls t
  | .step _ => true

def next (cfg : PluginConfig) (source : CameraSource) : SourceAction → CameraSource
  | .thread a =>
    if source.takes a then { source with state := (plugin cfg).next source.state a } else source
  | .remove => source.remove

end CameraSource

/-! ## the JPEG worker on its own -/

theorem WorkerRely.refl (s : State) : WorkerRely s s := rfl

theorem WorkerRely.trans {s s' s'' : State} (h : WorkerRely s s') (h' : WorkerRely s' s'') :
    WorkerRely s s'' := Eq.trans h' h

/-- what the JPEG worker guarantees without the books of the plugin -/
def retiringContract (cfg : PluginConfig) :
    Contract (σ := State) (Λ := Label) (fun _ => True) fun _ _ => True where
  rely := WorkerRely
  guar := WorkerStep cfg
  rely_refl := WorkerRely.refl
  rely_trans := WorkerRely.trans

section
variable {cfg : PluginConfig} {α : Type}

theorem stable_job (job : Option SnapshotResult) :
    (retiringContract cfg).Stable (·.snap.encoding = job) :=
  .of_eq (fun _ _ h => h) (· = job)

theorem retiring_atomic {job : Option SnapshotResult} {Q : α → Option SnapshotResult} {l : Label}
    {f : State → State × α}
    (h : ∀ s, s.snap.encoding = job →
      WorkerStep cfg l s (f s).1 ∧ (f s).1.snap.encoding = Q (f s).2) :
    (retiringContract cfg).Triple (·.snap.encoding = job) (.atomic l f)
      fun a s => s.snap.encoding = Q a :=
  .atomic (stable_job job) (fun a => stable_job (Q a)) fun s _ hs _ =>
    ⟨trivial, (h s hs).1, (h s hs).2⟩

theorem takeEncode_encoding {s : Snapshot} (h : s.encoding = none) :
    s.takeEncode.1.encoding = s.takeEncode.2 := by
  unfold Snapshot.takeEncode
  split
  · exact h
  · rfl

theorem deliver_encoding (s : Snapshot) (result : SnapshotResult) :
    (s.deliver result).encoding = none := by
  unfold Snapshot.deliver
  split <;> rfl

theorem retiring_deliver {job : SnapshotResult} (reason : String) (jpeg : JpegResult) :
    (retiringContract cfg).Triple (·.snap.encoding = some job)
      (deliverSnapshot (job.encoded cfg reason jpeg)) fun _ s => s.snap.encoding = none :=
  retiring_atomic (Q := fun _ => none) fun s hs =>
    ⟨.capture (.deliver reason jpeg hs), deliver_encoding s.snap _⟩

/-- a round of the worker ends without a job, whatever the others do to the queue -/
theorem retiring_round (input : JpegInput) :
    (retiringContract cfg).Triple (·.snap.encoding = none) (snapshotEncoderRound cfg input)
      fun _ s => s.snap.encoding = none := by
  refine .bind (Q := fun job s => s.snap.encoding = job) (retiring_atomic (Q := id)
    fun s hs => ⟨.capture (.take hs), takeEncode_encoding hs⟩) fun job => ?_
  cases job with
  | none => exact .ret (stable_job none) fun _ _ h => h
  | some job =>
    have hkeep : ∀ {β : Type} {l : Label} {f : State → State × β},
        (∀ s, WorkerStep cfg l s (f s).1 ∧ (f s).1.snap.encoding = s.snap.encoding) →
        (retiringContract cfg).Triple (·.snap.encoding = some job) (.atomic l f)
          fun _ s => s.snap.encoding = some job := fun h =>
      retiring_atomic (Q := fun _ => some job) fun s hs => ⟨(h s).1, (h s).2.trans hs⟩
    have hfused : (retiringContract cfg).Triple (·.snap.encoding = some job)
        (write fun s => { s with snap.snapshotJpegHardwareFusedOff := true })
        fun _ s => s.snap.encoding = some job := hkeep fun _ => ⟨.capture .fuse, rfl⟩
    apply Contract.Triple.ite
    case' h => refine fun _ => .bind (hkeep fun _ => ⟨.look, rfl⟩) ?_
    case' h' =>
      refine fun _ => .bind (Q := fun _ s => s.snap.encoding = some job)
        (.ret (stable_job (some job)) fun _ _ h => h) ?_
    -- the hardware answers, or fails and is fused off, or is not tried
    all_goals
      intro tryHardware
      apply Contract.Triple.ite
      · exact fun _ => retiring_deliver _ _
      · intro _
        apply Contract.Triple.ite
        · exact fun _ => .bind hfused fun _ => retiring_deliver _ _
        · exact fun _ => retiring_deliver _ _

end

/-! ## the threads that go on -/

def LeavesCapture (_ : Label) (s s' : State) : Prop :=
  s'.ctl = s.ctl ∧ s'.log = s.log ∧ s'.snap = s.snap ∧
    s'.flags.captureReserved = s.flags.captureReserved

theorem sendBatch_leavesCapture (packets : List QueuedRTPPacket) :
    (sendBatch packets).Within LeavesCapture := by
  induction packets with
  | nil => exact .ret ()
  | cons packet packets ih => exact .bind (.atomic fun _ => ⟨rfl, rfl, rfl, rfl⟩) fun _ => ih

theorem sendPacedRTPAccessUnit_leavesCapture (unit : QueuedRTPAccessUnit)
    (batches : List (List QueuedRTPPacket)) :
    (sendPacedRTPAccessUnit unit batches).Within LeavesCapture := by
  induction batches with
  | nil => exact .ret ()
  | cons batch batches ih =>
    exact .bind (.atomic fun _ => ⟨rfl, rfl, rfl, rfl⟩) fun _ =>
      .ite (.bind (sendBatch_leavesCapture batch) fun _ => ih) (.ret ())

theorem pacer_leavesCapture : rtpPacerRound.Within LeavesCapture := by
  have hfinish : (write (fun s => { s with flags.rtpInFlight := false })).Within LeavesCapture :=
    .atomic fun _ => ⟨rfl, rfl, rfl, rfl⟩
  apply Prog.Within.bind
  · apply Prog.Within.atomic
    intro s
    dsimp only
    split <;> exact ⟨rfl, rfl, rfl, rfl⟩
  · intro popped
    cases popped with
    | none => exact .ret ()
    | some unit =>
      apply Prog.Within.bind
      · exact .atomic fun _ => ⟨rfl, rfl, rfl, rfl⟩
      · intro current
        exact .ite (.bind (sendPacedRTPAccessUnit_leavesCapture unit _) fun _ => hfinish) hfinish

theorem rosSide_leavesCapture (cfg : PluginConfig) (side : RosSide) :
    (threadBody cfg .rosSide side).Within LeavesCapture := .atomic fun _ => ⟨rfl, rfl, rfl, rfl⟩

/-! ## the lock in a source -/

/-- the source holds the capture, as its executor and its destructor keep the books -/
def State.holdsCapture (s : State) : Bool := s.ctl.captureSlotHeld != s.ctl.captureRecording

/-- nothing is queued for the JPEG worker, and it works on nothing -/
def Snapshot.Quiet (s : Snapshot) : Prop := s.snapshotEncodeJob = none ∧ s.encoding = none

/-- what a step does to the host's flag and to the books of its source -/
inductive LockEffect (s s' : State) : Prop
  | keep (hreserved : s'.flags.captureReserved = s.flags.captureReserved)
      (hholds : s'.holdsCapture = s.holdsCapture)
  | acquire (hfree : s.flags.captureReserved = false) (hreserved : s'.flags.captureReserved = true)
      (hholds : s'.holdsCapture = true)
  | release (hheld : s.ctl.captureSlotHeld = true) (hrecording : s.ctl.captureRecording = false)
      (hreserved : s'.flags.captureReserved = false) (hholds : s'.holdsCapture = false)

section
variable {cfg : PluginConfig} {l : Label} {s s' : State}

theorem LockEffect.same (h : s' = s) : LockEffect s s' := by
  rw [h]
  exact .keep rfl rfl

theorem LockEffect.apart (hctl : s'.ctl = s.ctl)
    (hreserved : s'.flags.captureReserved = s.flags.captureReserved) : LockEffect s s' :=
  .keep hreserved (by rw [State.holdsCapture, hctl]; rfl)

theorem ExecutorStep.lockEffect (hs : ExecutorStep cfg l s s') (hbook : SlotBook s) :
    LockEffect s s' := by
  cases hs with
  | reserve hfree hsettled =>
    have howned : s.flags.owned = false := by simp [Flags.owned, hfree]
    have hheld : s.ctl.captureSlotHeld = false := by
      have hbooks := hbook.owned
      rw [howned, hsettled.recorded] at hbooks
      simpa using hbooks.symm
    exact .acquire hfree rfl (by simp [State.holdsCapture, hheld])
  | release hrecording hheld =>
    exact .release hheld hrecording rfl (by simp [State.holdsCapture, hheld])
  | openCapture _ _ _ hrecording hheld =>
    exact .keep rfl (by simp [State.holdsCapture, hrecording, hheld])
  | freeSlot hrecording hheld => exact .keep rfl (by simp [State.holdsCapture, hrecording, hheld])
  | _ => exact .keep rfl rfl

theorem RenderStep.captureReserved (hs : RenderStep cfg l s s') :
    s'.flags.captureReserved = s.flags.captureReserved := by
  cases hs with
  | rest hs => cases hs <;> rfl
  | _ => rfl

/-- the threads of a source do to the lock what its books say -/
theorem ThreadStep.lockEffect {t : ThreadName} (hs : ThreadStep cfg t l s s')
    (ht : t ≠ .hostSide) (hbook : SlotBook s) : LockEffect s s' := by
  cases t with
  | executor => exact ExecutorStep.lockEffect hs hbook
  | render =>
    exact .apart (RenderStep.executorRely hs).ctl (RenderStep.captureReserved hs)
  | pacer => cases hs <;> exact .keep rfl rfl
  | jpegWorker => cases hs <;> exact .keep rfl rfl
  | rosSide =>
    obtain ⟨_, side, rfl⟩ := hs
    exact .keep rfl rfl
  | hostSide => exact absurd rfl ht

theorem WorkerCapture.quiet {s s' : Snapshot} (hs : WorkerCapture cfg l s s') (h : s.Quiet) :
    s'.Quiet := by
  cases hs with
  | take =>
    unfold Snapshot.takeEncode
    split
    · exact h
    · exact ⟨rfl, h.1⟩
  | fuse => exact h
  | deliver _ _ hjob =>
    rw [h.2] at hjob
    cases hjob

theorem WorkerCapture.stopped {s s' : Snapshot} (hs : WorkerCapture cfg l s s')
    (h : s.snapshotEncoderStopping = true ∧ s.snapshotEncodeJob = none) :
    s'.snapshotEncoderStopping = true ∧ s'.snapshotEncodeJob = none := by
  cases hs with
  | take =>
    unfold Snapshot.takeEncode
    rw [if_pos h.1]
    exact h
  | fuse => exact h
  | deliver =>
    unfold Snapshot.deliver
    split <;> exact h

end

/-! ## the worker of a plugin -/

section
variable {cfg : PluginConfig} {s : PluginState}

theorem workerRely_of_others (h : (pluginMachine cfg).Reachable s) {a : PluginAction}
    (ha : Pool.stepOf .jpegWorker s a = none) :
    WorkerRely s.shared ((pluginMachine cfg).step s a).shared := by
  rcases plugin_step h a with e | ⟨t, l, rfl, hl, hstep⟩
  · rw [e]
    exact (retiringContract cfg).rely_refl _
  · refine hstep.workerRely fun ht => ?_
    subst ht
    cases hthread : s.thread .jpegWorker with
    | ret u => simp [hthread, Prog.next] at hl
    | act l f k => simp [Pool.stepOf, hthread] at ha

theorem worker_safe (h : (pluginMachine cfg).Reachable s) :
    (retiringContract cfg).Safe (fun _ s => s.snap.encoding = none) (s.thread .jpegWorker)
      s.shared := by
  refine Machine.Reachable.invariant (P := fun s => (retiringContract cfg).Safe
    (fun _ s => s.snap.encoding = none) (s.thread .jpegWorker) s.shared) ?_ ?_ h
  · rintro s ⟨⟨input, hload⟩, hthread⟩
    rw [hload, hthread]
    exact fun s' hr _ => hr
  · intro s a hs hsafe
    exact Pool.safe_next (P := plugin cfg) retiring_round hsafe a fun ha =>
      workerRely_of_others hs ha

end

/-! ## a source that is removed -/

/-- the source past `Unregister` -/
structure CameraSource.Retired (cfg : PluginConfig) (source : CameraSource) : Prop where
  executor : source.state.thread .executor = .ret ()
  render : source.state.thread .render = .ret ()
  pacer : (source.state.thread .pacer).Within LeavesCapture
  rosSide : (source.state.thread .rosSide).Within LeavesCapture
  worker : (retiringContract cfg).Safe (fun _ s => s.snap.encoding = none)
    (source.state.thread .jpegWorker) source.state.shared
  recording : source.state.shared.ctl.captureRecording = decide (source.removal = .recording)
  releasing : source.removal = .recording → source.state.shared.ctl.captureSlotHeld = true
  removed : source.removal = .removed → source.state.shared.ctl.captureSlotHeld = false
  stopped : source.removal.stops = true →
    source.state.shared.snap.snapshotEncoderStopping = true ∧
      source.state.shared.snap.snapshotEncodeJob = none
  quiet : source.state.shared.holdsCapture = false ∨ source.removal.joined = true →
    source.state.shared.snap.Quiet

structure CameraSource.Sound (cfg : PluginConfig) (source : CameraSource) : Prop where
  hostSide : source.state.thread .hostSide = .ret ()
  serving : source.removal.serves = true → (pluginMachine cfg).Reachable source.state
  unregistering : source.removal = .unregistering → source.state.thread .render = .ret ()
  retired : source.removal.serves = false → source.Retired cfg

namespace CameraSource
variable {cfg : PluginConfig} {source : CameraSource}

theorem ret_of_idle {t : ThreadName} (h : source.idle t = true) :
    source.state.thread t = .ret () :=
  Prog.eq_ret (Option.isNone_iff_eq_none.mp h)

theorem Sound.books (h : source.Sound cfg) (hserves : source.removal.serves = true) :
    Books cfg source.state.shared :=
  plugin_books (h.serving hserves)

theorem executor_settled {s : PluginState}
    (h : (pluginMachine cfg).Reachable s) (hidle : s.thread .executor = .ret ()) :
    s.shared.ctl.Settled := by
  have hsafe := ((pluginVerified cfg).safe
    (h.mono fun s a _ => Pool.Obeys.trivial s a)).2 .executor
  rw [hidle] at hsafe
  exact hsafe _ ((executorContract cfg).rely_refl _) (plugin_books h)

theorem Sound.unregister (h : source.Sound cfg) (hremoval : source.removal = .unregistering)
    (hidle : source.idle .executor = true) :
    Retired cfg { source with removal := .answering } := by
  have hserves : source.removal.serves = true := by rw [hremoval]; rfl
  have hreach := h.serving hserves
  have hbooks := h.books hserves
  have hsettled := executor_settled hreach (ret_of_idle hidle)
  refine ⟨ret_of_idle hidle, h.unregistering hremoval, ?_, ?_, worker_safe hreach, hsettled.recorded,
    fun he => (by cases he), fun he => (by cases he), fun he => (by cases he), fun hquiet => ?_⟩
  · exact Pool.within_reachable (P := plugin cfg) (fun _ _ _ => pacer_leavesCapture) hreach
  · exact Pool.within_reachable (P := plugin cfg) (fun _ side _ => rosSide_leavesCapture cfg side) hreach
  · have hnot : source.state.shared.flags.owned = false := by
      rw [hbooks.slot.owned]
      exact hquiet.resolve_right (by simp [Removal.joined])
    have hfree := hbooks.slot.free hnot
    exact ⟨hfree.resting.job, hfree.resting.encoding⟩

/-- what the threads of a removed source still do -/
inductive RetiredStep (cfg : PluginConfig) (s s' : State) : Prop
  | apart (hctl : s'.ctl = s.ctl) (hlog : s'.log = s.log) (hsnap : s'.snap = s.snap)
      (hreserved : s'.flags.captureReserved = s.flags.captureReserved)
  | worker {l : Label} {snap : Snapshot} (h : WorkerCapture cfg l s.snap snap)
      (hnext : s' = { s with snap := snap })

theorem RetiredStep.ctl {s s' : State} (h : RetiredStep cfg s s') : s'.ctl = s.ctl := by
  cases h with
  | apart hctl => exact hctl
  | worker _ hnext => rw [hnext]

theorem RetiredStep.log {s s' : State} (h : RetiredStep cfg s s') : s'.log = s.log := by
  cases h with
  | apart _ hlog => exact hlog
  | worker _ hnext => rw [hnext]

theorem RetiredStep.lockEffect {s s' : State} (h : RetiredStep cfg s s') : LockEffect s s' := by
  cases h with
  | apart hctl _ _ hreserved => exact .apart hctl hreserved
  | worker _ hnext => exact .apart (by rw [hnext]) (by rw [hnext])

theorem RetiredStep.quiet {s s' : State} (h : RetiredStep cfg s s') (hquiet : s.snap.Quiet) :
    s'.snap.Quiet := by
  cases h with
  | apart _ _ hsnap =>
    rw [hsnap]
    exact hquiet
  | worker hs hnext =>
    rw [hnext]
    exact hs.quiet hquiet

theorem RetiredStep.stopped {s s' : State} (h : RetiredStep cfg s s')
    (hstopped : s.snap.snapshotEncoderStopping = true ∧ s.snap.snapshotEncodeJob = none) :
    s'.snap.snapshotEncoderStopping = true ∧ s'.snap.snapshotEncodeJob = none := by
  cases h with
  | apart _ _ hsnap =>
    rw [hsnap]
    exact hstopped
  | worker hs hnext =>
    rw [hnext]
    exact hs.stopped hstopped

theorem within_step {R : Label → State → State → Prop} {s : PluginState} {t : ThreadName}
    (h : (s.thread t).Within R) :
    ((plugin cfg).next s (.step t)).shared = s.shared ∨
      ∃ l, R l s.shared ((plugin cfg).next s (.step t)).shared := by
  cases ht : s.thread t with
  | ret u =>
    left
    rw [Pool.next_step_idle ht]
  | act l f k =>
    right
    rw [ht] at h
    rw [Pool.next_step ht]
    exact ⟨l, (h s.shared).1⟩

theorem Retired.others (h : source.Retired cfg)
    (hostSide : source.state.thread .hostSide = .ret ()) {a : PluginAction}
    (ha : Pool.stepOf .jpegWorker source.state a = none) :
    ((plugin cfg).next source.state a).shared = source.state.shared ∨
      ∃ l, LeavesCapture l source.state.shared ((plugin cfg).next source.state a).shared := by
  cases a with
  | start t c =>
    left
    cases ht : source.state.thread t with
    | act l f k => rw [Pool.next_start_running ht]
    | ret u => rw [Pool.next_start ht]
  | step t =>
    cases t with
    | executor =>
      left
      rw [Pool.next_step_idle h.executor]
    | render =>
      left
      rw [Pool.next_step_idle h.render]
    | hostSide =>
      left
      rw [Pool.next_step_idle hostSide]
    | pacer => exact within_step h.pacer
    | rosSide => exact within_step h.rosSide
    | jpegWorker =>
      left
      cases ht : source.state.thread .jpegWorker with
      | ret u => rw [Pool.next_step_idle ht]
      | act l f k => simp [Pool.stepOf, ht] at ha

theorem Retired.rely (h : source.Retired cfg)
    (hostSide : source.state.thread .hostSide = .ret ()) {a : PluginAction}
    (ha : Pool.stepOf .jpegWorker source.state a = none) :
    WorkerRely source.state.shared ((plugin cfg).next source.state a).shared := by
  rcases h.others hostSide ha with hshared | ⟨l, _, _, hsnap, _⟩
  · rw [hshared]
    exact (retiringContract cfg).rely_refl _
  · show _ = _
    rw [hsnap]

theorem Retired.step (h : source.Retired cfg)
    (hostSide : source.state.thread .hostSide = .ret ()) (a : PluginAction) :
    RetiredStep cfg source.state.shared ((plugin cfg).next source.state a).shared := by
  cases ha : Pool.stepOf .jpegWorker source.state a with
  | none =>
    rcases h.others hostSide ha with hshared | ⟨l, hctl, hlog, hsnap, hreserved⟩
    · rw [hshared]
      exact .apart rfl rfl rfl rfl
    · exact .apart hctl hlog hsnap hreserved
  | some x =>
    have hguar := Pool.guar_next (P := plugin cfg) h.worker ha
    generalize ((plugin cfg).next source.state a).shared = s' at hguar ⊢
    generalize x.label = l at hguar
    cases hguar with
    | look => exact .apart rfl rfl rfl rfl
    | capture hs => exact .worker hs rfl

theorem takes_start {a : PluginAction} (ha : source.takes a = true) {t : ThreadName}
    (ht : source.removal.takesCalls t = false) : ∀ c, a ≠ .start t c := by
  rintro c rfl
  have htakes : source.removal.takesCalls t = true := ha
  rw [ht] at htakes
  cases htakes

theorem Retired.thread (h : source.Retired cfg) (hserves : source.removal.serves = false)
    (hostSide : source.state.thread .hostSide = .ret ()) {a : PluginAction}
    (ha : source.takes a = true) :
    Retired cfg { source with state := (plugin cfg).next source.state a } := by
  have hstep := h.step hostSide a
  have hctl := hstep.ctl
  have hholds : ((plugin cfg).next source.state a).shared.holdsCapture =
      source.state.shared.holdsCapture := by
    rw [State.holdsCapture, hctl]
    rfl
  have hrender : source.removal.takesCalls .render = false := by
    cases hr : source.removal with
    | registered =>
      rw [hr] at hserves
      cases hserves
    | _ => rfl
  constructor
  · exact Pool.idle_next h.executor (takes_start ha hserves)
  · exact Pool.idle_next h.render (takes_start ha hrender)
  · exact Pool.within_next (P := plugin cfg) (fun _ _ => pacer_leavesCapture) h.pacer
  · exact Pool.within_next (P := plugin cfg) (fun side _ => rosSide_leavesCapture cfg side) h.rosSide
  · exact Pool.safe_next (P := plugin cfg) retiring_round h.worker a fun hnone =>
      h.rely hostSide hnone
  · show ((plugin cfg).next source.state a).shared.ctl.captureRecording = _
    rw [hctl]
    exact h.recording
  · intro hremoval
    show ((plugin cfg).next source.state a).shared.ctl.captureSlotHeld = true
    rw [hctl]
    exact h.releasing hremoval
  · intro hremoval
    show ((plugin cfg).next source.state a).shared.ctl.captureSlotHeld = false
    rw [hctl]
    exact h.removed hremoval
  · exact fun hstops => hstep.stopped (h.stopped hstops)
  · intro hquiet
    apply hstep.quiet
    apply h.quiet
    rw [← hholds]
    exact hquiet

theorem Retired.remove (h : source.Retired cfg) (hserves : source.removal.serves = false) :
    Retired cfg source.remove ∧ source.remove.removal.serves = false ∧
      source.remove.state.thread = source.state.thread ∧
      LockEffect source.state.shared source.remove.state.shared := by
  have hrecording := h.recording
  unfold CameraSource.remove
  cases hremoval : source.removal with
  | registered | unregistering =>
    rw [hremoval] at hserves
    cases hserves
  | answering =>
    rw [hremoval] at hrecording
    refine ⟨⟨h.executor, h.render, h.pacer, h.rosSide, h.worker.rely rfl, hrecording,
      fun he => (by cases he), fun he => (by cases he), fun he => (by cases he), fun hquiet => ?_⟩,
      rfl, rfl, .keep rfl rfl⟩
    exact h.quiet (hquiet.imp_right fun he => (by cases he))
  | stoppingEncoder =>
    rw [hremoval] at hrecording
    refine ⟨⟨h.executor, h.render, h.pacer, h.rosSide, h.worker.rely rfl, hrecording,
      fun he => (by cases he), fun he => (by cases he), fun _ => ⟨rfl, rfl⟩, fun hquiet => ?_⟩,
      rfl, rfl, .keep rfl rfl⟩
    exact ⟨rfl, (h.quiet (hquiet.imp_right fun he => (by cases he))).2⟩
  | joining =>
    have hstopped := h.stopped (by rw [hremoval]; rfl)
    dsimp only
    split
    · rename_i hidle
      rw [hremoval] at hrecording
      have hencoding : source.state.shared.snap.encoding = none := by
        have hworker := h.worker
        rw [ret_of_idle hidle] at hworker
        exact hworker _ rfl trivial
      exact ⟨⟨h.executor, h.render, h.pacer, h.rosSide, h.worker, hrecording,
        fun he => (by cases he), fun he => (by cases he), fun _ => hstopped,
        fun _ => ⟨hstopped.2, hencoding⟩⟩, rfl, rfl, .keep rfl rfl⟩
    · exact ⟨h, hserves, rfl, .keep rfl rfl⟩
  | releasing =>
    have hstopped := h.stopped (by rw [hremoval]; rfl)
    have hquiet := h.quiet (.inr (by rw [hremoval]; rfl))
    rw [hremoval] at hrecording
    have hrecording : source.state.shared.ctl.captureRecording = false := hrecording
    dsimp only
    split
    · rename_i hheld
      refine ⟨⟨h.executor, h.render, h.pacer, h.rosSide, h.worker.rely rfl, rfl, fun _ => hheld,
        fun he => (by cases he), fun _ => hstopped, fun _ => hquiet⟩, rfl, rfl, ?_⟩
      exact .release hheld hrecording rfl (by simp [State.holdsCapture, hheld])
    · rename_i hheld
      have hheld : source.state.shared.ctl.captureSlotHeld = false := by simpa using hheld
      exact ⟨⟨h.executor, h.render, h.pacer, h.rosSide, h.worker, hrecording,
        fun he => (by cases he), fun _ => hheld, fun _ => hstopped, fun _ => hquiet⟩, rfl, rfl,
        .keep rfl rfl⟩
  | recording =>
    have hstopped := h.stopped (by rw [hremoval]; rfl)
    have hquiet := h.quiet (.inr (by rw [hremoval]; rfl))
    have hheld := h.releasing hremoval
    rw [hremoval] at hrecording
    have hrecording : source.state.shared.ctl.captureRecording = true := hrecording
    refine ⟨⟨h.executor, h.render, h.pacer, h.rosSide, h.worker.rely rfl, rfl,
      fun he => (by cases he), fun _ => rfl, fun _ => hstopped, fun _ => hquiet⟩, rfl, rfl, ?_⟩
    exact .keep rfl (by simp [State.holdsCapture, hheld, hrecording])
  | removed => exact ⟨h, hserves, rfl, .keep rfl rfl⟩

/-- **One step of a source.**  Every step of a thread or of the destructor keeps the source sound,
and does to the lock what its books say. -/
theorem Sound.next (h : source.Sound cfg) (a : SourceAction) :
    (source.next cfg a).Sound cfg ∧
      LockEffect source.state.shared (source.next cfg a).state.shared := by
  cases hserves : source.removal.serves with
  | true =>
    have hreach := h.serving hserves
    cases a with
    | thread a =>
      show Sound cfg (if source.takes a then _ else source) ∧ LockEffect _
        (CameraSource.state (if source.takes a then _ else source)).shared
      split
      · rename_i ha
        refine ⟨⟨Pool.idle_next h.hostSide (takes_start ha rfl), fun _ => hreach.next a, ?_, ?_⟩, ?_⟩
        · intro hremoval
          have hrender : source.removal.takesCalls .render = false := by
            rw [show source.removal = .unregistering from hremoval]
            rfl
          exact Pool.idle_next (h.unregistering hremoval) (takes_start ha hrender)
        · intro hnot
          rw [show source.removal.serves = false from hnot] at hserves
          cases hserves
        · rcases plugin_step hreach a with hsame | ⟨t, l, rfl, hl, hs⟩
          · exact .same hsame
          · refine hs.lockEffect (fun ht => ?_) (h.books hserves).slot
            subst ht
            rw [h.hostSide] at hl
            cases hl
      · exact ⟨h, .keep rfl rfl⟩
    | remove =>
      show Sound cfg source.remove ∧ LockEffect _ source.remove.state.shared
      unfold CameraSource.remove
      cases hremoval : source.removal with
      | registered =>
        dsimp only
        split
        · rename_i hidle
          exact ⟨⟨h.hostSide, fun _ => hreach, fun _ => ret_of_idle hidle,
            fun he => (by cases he)⟩, .keep rfl rfl⟩
        · exact ⟨h, .keep rfl rfl⟩
      | unregistering =>
        dsimp only
        split
        · rename_i hidle
          exact ⟨⟨h.hostSide, fun he => (by cases he), fun he => (by cases he),
            fun _ => h.unregister hremoval hidle⟩, .keep rfl rfl⟩
        · exact ⟨h, .keep rfl rfl⟩
      | _ =>
        rw [hremoval] at hserves
        cases hserves
  | false =>
    have hretired := h.retired hserves
    have hnot : ¬ source.removal.serves = true := by simp [hserves]
    have hwaits : source.removal ≠ .unregistering := by
      rintro hremoval
      rw [hremoval] at hserves
      cases hserves
    cases a with
    | thread a =>
      show Sound cfg (if source.takes a then _ else source) ∧ LockEffect _
        (CameraSource.state (if source.takes a then _ else source)).shared
      split
      · rename_i ha
        exact ⟨⟨Pool.idle_next h.hostSide (takes_start ha rfl), fun he => absurd he hnot,
          fun he => absurd he hwaits, fun _ => hretired.thread hserves h.hostSide ha⟩,
          (hretired.step h.hostSide a).lockEffect⟩
      · exact ⟨h, .keep rfl rfl⟩
    | remove =>
      obtain ⟨hnext, hserves', hthread, heffect⟩ := hretired.remove hserves
      refine ⟨⟨?_, fun he => ?_, fun he => ?_, fun _ => hnext⟩, heffect⟩
      · show source.remove.state.thread .hostSide = _
        rw [hthread]
        exact h.hostSide
      · rw [show source.remove.removal.serves = true from he] at hserves'
        cases hserves'
      · rw [show source.remove.removal = .unregistering from he] at hserves'
        cases hserves'

end CameraSource

end MediaCamera
