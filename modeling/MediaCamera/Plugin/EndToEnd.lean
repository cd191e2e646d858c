import MediaCamera.Machine.Threads
import MediaCamera.Plugin.Wire

/-!
# From NVENC to the receiver

The packets on the wire are the packets of access units that NVENC put out.

* `EnqueuesUnit`    `EnqueueRTPAccessUnit` is called with the packets of an access unit;
* `render_enqueues`  the render callbacks call it so;
* `plugin_packetized`   whatever is queued for the pacer is an access unit;
* `wire_received`    what a receiver makes of the stream.
-/

namespace MediaCamera

/-! ## the calls of EnqueueRTPAccessUnit -/

def EnqueuesUnit (D : List UInt8 → Prop) (l : Label) (_ _ : State) : Prop :=
  ∀ packets keyframe, l = .enqueueRTP packets keyframe → Packetized D packets

section
variable {α : Type} {cfg : PluginConfig} {D : List UInt8 → Prop}

theorem enqueues_plain {l : Label} {f : State → State × α}
    (hl : ∀ packets keyframe, l ≠ .enqueueRTP packets keyframe) :
    (Prog.atomic l f).Within (EnqueuesUnit D) :=
  .atomic fun _ packets keyframe he => absurd he (hl packets keyframe)

theorem enqueues_access {f : State → State × α} : (access f).Within (EnqueuesUnit D) :=
  enqueues_plain fun _ _ he => by cases he

theorem enqueues_write {f : State → State} : (write f).Within (EnqueuesUnit D) := enqueues_access

theorem enqueues_read {f : State → α} : (read f).Within (EnqueuesUnit D) := enqueues_access

theorem snapshotNeedsRender_enqueues : snapshotNeedsRender.Within (EnqueuesUnit D) :=
  .bind enqueues_read fun _ => .ite (.ret _) enqueues_read

theorem beginROSEpoch_enqueues (cause : EpochCause) :
    (beginROSEpoch cfg cause).Within (EnqueuesUnit D) :=
  .bind (enqueues_plain fun _ _ he => by cases he) fun _ => .ite enqueues_write (.ret _)

theorem completeNativeControl_enqueues (command : NativeControlCommand) (time : Int) :
    (completeNativeControl command time).Within (EnqueuesUnit D) := by
  refine .ite (.bind enqueues_write fun _ => .bind enqueues_write fun _ => ?_) ?_
  all_goals
    refine .ite (.bind enqueues_write fun _ => .bind enqueues_write fun _ => ?_) ?_
  all_goals exact .bind enqueues_write fun _ => enqueues_write

theorem drained_enqueues : drained.Within (EnqueuesUnit D) :=
  .bind enqueues_read fun _ => .ite (.ret _)
    (.bind enqueues_access fun _ => .ite (.ret _) enqueues_read)

theorem releaseSensor_enqueues : releaseSensor.Within (EnqueuesUnit D) :=
  .bind enqueues_read fun _ => .ite (.bind snapshotNeedsRender_enqueues fun _ =>
    .ite enqueues_write (.ret ())) (.ret ())

theorem completeNativeStopIfDrained_enqueues (time : Int) :
    (completeNativeStopIfDrained time).Within (EnqueuesUnit D) := by
  refine .bind enqueues_read fun awaiting => ?_
  cases awaiting with
  | none => exact .ret ()
  | some command =>
    refine .ite (.bind drained_enqueues fun _ => .ite ?_ (.ret ())) (.ret ())
    exact .bind releaseSensor_enqueues fun _ => .bind enqueues_write fun _ =>
      completeNativeControl_enqueues command time

theorem failNativeEncoderTransition_enqueues :
    failNativeEncoderTransition.Within (EnqueuesUnit D) := by
  refine .bind enqueues_access fun _ => .ite (.bind enqueues_write fun _ => .bind enqueues_read
    fun awaiting => ?_) (.bind enqueues_read fun awaiting => ?_)
  all_goals
    cases awaiting with
    | none => exact .ret ()
    | some command =>
      refine .ite (.bind (enqueues_plain fun _ _ he => by cases he) fun _ => ?_) (.ret ())
      exact .bind enqueues_write fun _ => .bind (enqueues_plain fun _ _ he => by cases he) fun _ =>
        .bind (enqueues_plain fun _ _ he => by cases he) fun _ => .bind enqueues_write fun _ =>
          enqueues_write

/-! ## OnPostRender -/

theorem wantsEncode_enqueues : wantsEncode.Within (EnqueuesUnit D) :=
  .bind enqueues_read fun _ => .ite (.ret _) enqueues_read

theorem wantsRender_enqueues (shouldEncode : Bool) :
    (wantsRender shouldEncode).Within (EnqueuesUnit D) := .ite (.ret _) snapshotNeedsRender_enqueues

theorem driveSensor_enqueues (shouldEncode : Bool) :
    (driveSensor shouldEncode).Within (EnqueuesUnit D) :=
  .bind (wantsRender_enqueues shouldEncode) fun _ => .ite enqueues_write
    (.bind enqueues_read fun _ => .ite (.bind enqueues_write fun _ => enqueues_write)
      enqueues_write)

theorem onPostRender_enqueues (input : PostRenderInput) :
    (onPostRender cfg input).Within (EnqueuesUnit D) := by
  refine .bind enqueues_write fun _ => .bind (completeNativeStopIfDrained_enqueues _) fun _ => ?_
  refine .bind enqueues_write fun _ => .bind wantsEncode_enqueues fun shouldEncode => ?_
  refine .bind enqueues_access fun _ => .ite ?_ ?_
  · exact .bind (wantsRender_enqueues shouldEncode) fun _ => .ite enqueues_write (.ret ())
  · exact .bind enqueues_access fun _ => .ite (driveSensor_enqueues shouldEncode) (.ret ())

/-! ## snapshots -/

theorem completeSnapshotFailure_enqueues (work : Nat) (error : String) :
    (completeSnapshotFailure work error).Within (EnqueuesUnit D) :=
  enqueues_plain fun _ _ he => by cases he

theorem queueSnapshotEncode_enqueues (result : SnapshotResult) :
    (queueSnapshotEncode result).Within (EnqueuesUnit D) :=
  .bind enqueues_access fun _ => .ite (completeSnapshotFailure_enqueues _ _) (.ret ())

theorem pollSnapshotPBOReadback_enqueues (poll : PboPoll) :
    (pollSnapshotPBOReadback poll).Within (EnqueuesUnit D) := by
  refine .bind (enqueues_plain fun _ _ he => by cases he) fun result => ?_
  cases result with
  | none => exact enqueues_write
  | some result =>
    cases poll with
    | timeout => exact .ret ()
    | failed reason =>
      exact .bind enqueues_write fun _ => .bind enqueues_write fun _ => enqueues_write
    | copied rgb => exact .bind enqueues_write fun _ => queueSnapshotEncode_enqueues _

theorem captureSnapshotSynchronously_enqueues (result : SnapshotResult)
    (readback : Except String (List UInt8)) :
    (captureSnapshotSynchronously result readback).Within (EnqueuesUnit D) := by
  cases readback with
  | error message => exact completeSnapshotFailure_enqueues _ _
  | ok rgb =>
    exact .bind enqueues_access fun _ => .ite (queueSnapshotEncode_enqueues _) (.ret ())

theorem readBackSnapshot_enqueues (result : SnapshotResult) (input : CaptureInput) :
    (readBackSnapshot result input).Within (EnqueuesUnit D) := by
  refine .bind enqueues_read fun available => ?_
  split
  · exact .bind (enqueues_plain fun _ _ he => by cases he) fun _ => .ite enqueues_write (.ret ())
  · exact .bind (enqueues_plain fun _ _ he => by cases he) fun _ =>
      captureSnapshotSynchronously_enqueues _ _
  · exact .bind enqueues_read fun _ => captureSnapshotSynchronously_enqueues _ _

theorem captureSnapshot_enqueues (input : CaptureInput) :
    (captureSnapshot input).Within (EnqueuesUnit D) := by
  refine .bind enqueues_read fun _ => .ite (pollSnapshotPBOReadback_enqueues _) ?_
  refine .bind enqueues_access fun frame => ?_
  cases frame with
  | none => exact .ret ()
  | some result =>
    refine .ite (completeSnapshotFailure_enqueues _ _) (.ite (completeSnapshotFailure_enqueues _ _) ?_)
    exact .bind enqueues_read fun _ => .bind enqueues_read fun _ => readBackSnapshot_enqueues _ _

/-! ## frames -/

theorem rosRenderIsFresh_enqueues (time : Int) :
    (rosRenderIsFreshForCurrentActivation time).Within (EnqueuesUnit D) := by
  refine .bind enqueues_read fun _ => .bind enqueues_access fun decision => ?_
  cases decision with
  | discardAndReset =>
    exact .bind enqueues_write fun _ => .bind enqueues_write fun _ => .bind enqueues_write
      fun _ => .ret _
  | accept | waitForSourceTimeChange => exact .ret _

theorem observeSourceTime_enqueues (time : Int) :
    (observeSourceTime cfg time).Within (EnqueuesUnit D) := by
  refine .bind (enqueues_plain fun _ _ he => by cases he) fun _ => .ite ?_ (.ret ())
  exact .bind enqueues_write fun _ => .bind (beginROSEpoch_enqueues _) fun _ =>
    .bind enqueues_write fun _ => .bind enqueues_write fun _ => enqueues_write

theorem encoderFailure_enqueues : encoderFailure.Within (EnqueuesUnit D) :=
  .bind enqueues_write fun _ => .ret _

theorem ensureEncoder_enqueues (width height : Nat) (time : Int) (available : Bool) :
    (ensureEncoder cfg width height time available).Within (EnqueuesUnit D) := by
  refine .bind enqueues_read fun _ => .ite (.ret _) (.bind enqueues_write fun _ =>
    .ite encoderFailure_enqueues (.bind enqueues_write fun _ => .bind enqueues_read fun _ =>
      .bind enqueues_read fun _ => .ite (.bind enqueues_write fun _ =>
        .bind (beginROSEpoch_enqueues _) fun _ => ?_) ?_))
  all_goals
    exact .bind enqueues_write fun _ => .bind (enqueues_plain fun _ _ he => by cases he) fun _ =>
      .bind enqueues_write fun _ => .bind enqueues_write fun _ => .ret _

theorem acknowledgeKeyframe_enqueues (metadata : PendingEncodedFrame) (time : Int) :
    (acknowledgeKeyframe metadata time).Within (EnqueuesUnit D) := by
  refine .bind enqueues_read fun awaiting => ?_
  cases awaiting
  case' some command =>
    refine .ite (.bind (completeNativeControl_enqueues command time) fun _ => ?_) ?_
  all_goals
    refine .ite (.bind enqueues_read fun _ => .ite ?_ (.ret ())) (.ret ())
    exact .bind enqueues_write fun _ => enqueues_write

theorem enqueueROSAccessUnit_enqueues (unit : AccessUnit) :
    (enqueueROSAccessUnit cfg unit).Within (EnqueuesUnit D) :=
  .bind (enqueues_plain fun _ _ he => by cases he) fun _ =>
    .ite (enqueues_plain fun _ _ he => by cases he) (.ret ())

theorem sendH264AccessUnit_enqueues {data : List UInt8} (hD : D data) (timestamp : UInt32)
    (metadata : PendingEncodedFrame) (time : Int) :
    (sendH264AccessUnit cfg data timestamp metadata time).Within (EnqueuesUnit D) := by
  refine .bind (enqueues_plain fun _ _ he => by cases he) fun _ => ?_
  show Prog.Within (EnqueuesUnit D) (if splitAnnexB data = [] then encoderFailure else _)
  split
  · exact encoderFailure_enqueues
  rename_i hne
  refine .ite (.bind (acknowledgeKeyframe_enqueues metadata time) fun _ => ?_) ?_
  all_goals
    refine .bind (enqueueROSAccessUnit_enqueues _) fun _ => .bind enqueues_read fun _ =>
      .ite (.ret _) ?_
    split
    · exact .ret _
    · rename_i hpackets
      refine .atomic fun _ packets keyframe he => ?_
      cases he
      exact ⟨timestamp, data, hD, hne, hpackets⟩

theorem resetEncoder_enqueues : (resetEncoder cfg).Within (EnqueuesUnit D) :=
  .bind enqueues_write fun _ => .bind enqueues_write fun _ => .bind (beginROSEpoch_enqueues _)
    fun _ => .bind enqueues_write fun _ => .bind enqueues_write fun _ => .ret _

def EncodeOutcome.Puts (outcome : EncodeOutcome) (D : List UInt8 → Prop) : Prop :=
  ∀ timestamp bitstream, outcome = .output timestamp bitstream → D bitstream

theorem finishFrame_enqueues (time : Int) {outcome : EncodeOutcome} (hD : outcome.Puts D) :
    (finishFrame cfg time outcome).Within (EnqueuesUnit D) := by
  cases outcome with
  | error | lockFailed => exact resetEncoder_enqueues
  | needMoreInput =>
    exact .bind enqueues_read fun _ => .ite resetEncoder_enqueues
      (.bind enqueues_write fun _ => .ret _)
  | output timestamp bitstream =>
    refine .bind (enqueues_plain fun _ _ he => by cases he) fun taken => ?_
    cases taken with
    | none => exact resetEncoder_enqueues
    | some metadata =>
      exact .bind (sendH264AccessUnit_enqueues (hD _ _ rfl) _ metadata time) fun _ =>
        .bind enqueues_write fun _ => .ret _

theorem encodeRenderedFrame_enqueues {input : RenderInput} (hD : input.outcome.Puts D) :
    (encodeRenderedFrame cfg input).Within (EnqueuesUnit D) := by
  refine .ite encoderFailure_enqueues (.bind (observeSourceTime_enqueues _) fun _ =>
    .bind (ensureEncoder_enqueues _ _ _ _) fun _ => .ite (.ret _)
      (.ite encoderFailure_enqueues (.bind enqueues_access fun _ => .ite ?_ ?_)))
  all_goals
    first
    | refine .bind enqueues_read fun _ => ?_
    | refine .bind (.ret _) fun _ => ?_
    exact .bind enqueues_write fun _ => finishFrame_enqueues _ hD

theorem encodeForDemand_enqueues {input : RenderInput} (hD : input.outcome.Puts D) :
    (encodeForDemand cfg input).Within (EnqueuesUnit D) := by
  refine .bind (rosRenderIsFresh_enqueues _) fun _ => .ite (.bind
    (encodeRenderedFrame_enqueues hD) fun _ => .ite failNativeEncoderTransition_enqueues
      (.bind enqueues_read fun awaiting => ?_)) (.ret ())
  cases awaiting with
  | none => exact .ret ()
  | some command => exact .ite (completeNativeControl_enqueues command _) (.ret ())

theorem postRenderTargetUpdate_enqueues {input : RenderInput} (hD : input.outcome.Puts D) :
    (postRenderTargetUpdate cfg input).Within (EnqueuesUnit D) := by
  refine .bind enqueues_write fun _ => .bind wantsEncode_enqueues fun shouldEncode => ?_
  refine .bind enqueues_access fun _ => .ite ?_ ?_
  all_goals
    first
    | refine .bind (.map snapshotNeedsRender_enqueues) fun _ => ?_
    | refine .bind (.ret _) fun _ => ?_
    refine .ite enqueues_write (.bind (wantsRender_enqueues shouldEncode) fun _ => .ite ?_ (.ret ()))
    refine .bind snapshotNeedsRender_enqueues fun _ => .ite
      (.bind (captureSnapshot_enqueues _) fun _ => ?_) ?_
    all_goals exact .ite (encodeForDemand_enqueues hD) (.ret ())

/-- what NVENC puts out in a callback satisfies `D` -/
def RenderCall.Puts (D : List UInt8 → Prop) : RenderCall → Prop
  | .postRender _ => True
  | .renderTarget input => input.outcome.Puts D

theorem render_enqueues {c : RenderCall} (hD : c.Puts D) :
    (threadBody cfg .render c).Within (EnqueuesUnit D) := by
  cases c with
  | postRender input => exact onPostRender_enqueues input
  | renderTarget input => exact postRenderTargetUpdate_enqueues hD

end

/-! ## the queue -/

section
variable {cfg : PluginConfig} {D : List UInt8 → Prop} {l : Label} {s s' : State}

/-- whatever is queued is an access unit -/
def AllPacketized (D : List UInt8 → Prop) (q : RtpQueue) : Prop := ∀ unit ∈ q.rtpQueue, Packetized D unit.packets

theorem enqueueRTPAccessUnit_packetized {q : RtpQueue} (h : AllPacketized D q) (pacingBitrate : Nat)
    (rate : ℚ) {packets : List QueuedRTPPacket} (hpackets : Packetized D packets) (keyframe : Bool) :
    AllPacketized D (q.enqueueRTPAccessUnit pacingBitrate rate packets keyframe).1 := by
  have hpush : ∀ {q : RtpQueue} (framePeriod : Int), AllPacketized D q →
      AllPacketized D (q.push framePeriod packets) := by
    intro q framePeriod hq unit hunit
    rcases List.mem_append.mp hunit with hunit | hunit
    · exact hq unit hunit
    · rw [List.mem_singleton.mp hunit]
      exact hpackets
  have hclear : AllPacketized D q.clear := fun unit hunit => by cases hunit
  unfold RtpQueue.enqueueRTPAccessUnit
  split
  · exact hclear
  · exact h
  · exact h
  · apply hpush
    unfold RtpQueue.makeRoom
    split
    · exact h
    · exact hclear

theorem RenderStep.packetized (h : RenderStep cfg l s s') (hl : (EnqueuesUnit D) l s s')
    (hq : AllPacketized D s.rtp) : AllPacketized D s'.rtp := by
  have hclear : AllPacketized D s.rtp.clear := fun unit hunit => by cases hunit
  have hconsume : ∀ command : NativeControlCommand,
      AllPacketized D (if command.active then s.rtp else s.rtp.clear) := by
    intro command
    split
    · exact hq
    · exact hclear
  cases h with
  | rest h =>
    cases h with
    | clearRTP => exact hclear
    | _ => exact hq
  | applyConfiguration => exact hconsume _
  | applyCommand => exact hconsume _
  | enqueueRTP packets keyframe =>
    exact enqueueRTPAccessUnit_packetized hq _ _ (hl packets keyframe rfl) keyframe
  | _ => exact hq

theorem ThreadStep.packetized {t : ThreadName} (h : ThreadStep cfg t l s s')
    (hl : t = .render → (EnqueuesUnit D) l s s') (hq : AllPacketized D s.rtp) :
    AllPacketized D s'.rtp := by
  cases t with
  | executor => cases h <;> exact hq
  | render => exact RenderStep.packetized h (hl rfl) hq
  | pacer =>
    cases h with
    | pop hpop =>
      unfold RtpQueue.pop at hpop
      split at hpop
      · cases hpop
      · rename_i unit rest hqueue
        obtain ⟨rfl, rfl⟩ := Prod.mk.inj (Option.some.inj hpop)
        intro unit' hunit
        exact hq unit' (by rw [hqueue]; exact List.mem_cons_of_mem _ hunit)
    | _ => exact hq
  | jpegWorker => cases h <;> exact hq
  | rosSide =>
    obtain ⟨_, side, rfl⟩ := h
    exact hq
  | hostSide =>
    obtain ⟨_, side, rfl⟩ := h
    obtain ⟨reserved, elsewhere, e⟩ := hostSide_eq side s
    rw [e]
    exact hq

end

def PluginPuts (D : List UInt8 → Prop) (_ : PluginState) (a : PluginAction) : Prop :=
  ∀ c : RenderCall, a = .start .render c → c.Puts D

/-- the next step of the render thread calls `EnqueueRTPAccessUnit` with an access unit, if at all -/
theorem render_next_enqueues {cfg : PluginConfig} {D : List UInt8 → Prop} {s : PluginState}
    (h : (pluginMachine cfg).ReachableUnder (PluginPuts D) s) {l : Label}
    (hl : (s.thread .render).next = some l) (s' : State) : EnqueuesUnit D l s.shared s' := by
  have hwithin : (s.thread .render).Within (EnqueuesUnit D) :=
    Pool.within_reachable (P := plugin cfg) (fun s c hc => render_enqueues (hc c rfl)) h
  cases ht : s.thread .render with
  | ret u =>
    rw [ht] at hl
    cases hl
  | act l' f k =>
    rw [ht] at hl hwithin
    obtain rfl := Option.some.inj hl
    exact (hwithin s.shared).1

theorem plugin_packetized {cfg : PluginConfig} {D : List UInt8 → Prop} {s : PluginState}
    (h : (pluginMachine cfg).ReachableUnder (PluginPuts D) s) : AllPacketized D s.shared.rtp := by
  refine Machine.ReachableUnder.invariant (P := fun s => AllPacketized D s.shared.rtp) ?_ ?_ h
  · rintro s ⟨⟨input, hload⟩, _⟩
    rw [hload]
    exact fun unit hunit => by cases hunit
  · intro s a hs _ hq
    rcases plugin_step hs.reachable a with hsame | ⟨t, l, rfl, hl, hstep⟩
    · rw [hsame]
      exact hq
    · refine hstep.packetized (fun ht => ?_) hq
      subst ht
      exact render_next_enqueues hs hl _

/-! ## the wire -/

theorem wireNote_packetized {D : List UInt8 → Prop} {wire : List WireUnit}
    (h : ∀ r ∈ wire, Packetized D r.unit.packets) {x : Taken State Label}
    (hq : AllPacketized D x.before.rtp) :
    ∀ r ∈ wireNote wire x, Packetized D r.unit.packets := by
  unfold wireNote
  split
  · split
    · rename_i unit queue _ hpop
      unfold RtpQueue.pop at hpop
      split at hpop
      · cases hpop
      · rename_i first rest hqueue
        obtain ⟨rfl, rfl⟩ := Prod.mk.inj (Option.some.inj hpop)
        refine List.forall_mem_cons.mpr ⟨?_, h⟩
        exact hq first (by rw [hqueue]; exact List.mem_cons_self)
    · exact h
  · cases wire with
    | nil => exact h
    | cons r rest =>
      exact List.forall_mem_cons.mpr ⟨h r List.mem_cons_self,
        fun r hr => h r (List.mem_cons_of_mem _ hr)⟩

theorem account_packetized {D : List UInt8 → Prop} {steps : List (Taken State Label)}
    (hsteps : ∀ x ∈ steps, AllPacketized D x.before.rtp) {wire : List WireUnit}
    (h : ∀ r ∈ wire, Packetized D r.unit.packets) :
    ∀ r ∈ steps.foldl wireNote wire, Packetized D r.unit.packets := by
  induction steps generalizing wire with
  | nil => exact h
  | cons x steps ih =>
    exact ih (fun x' hx' => hsteps x' (List.mem_cons_of_mem _ hx'))
      (wireNote_packetized h (hsteps x List.mem_cons_self))

/-- the block of an entry of the account -/
theorem Wire.block {s : State} {newer older : List WireUnit} {r : WireUnit}
    (h : Wire (newer ++ r :: older) s) :
    (s.sent.reverse.drop (wirePackets older).length).take r.packets.length =
      numberFrom (wirePackets older).length r.packets := by
  have hpackets : wirePackets (newer ++ r :: older) =
      wirePackets older ++ (r.packets ++ wirePackets newer) := by
    simp [wirePackets]
  rw [h.sent, hpackets, numberFrom_append, numberFrom_append, List.drop_left' (by simp),
    List.take_left' (by simp), Nat.zero_add]

def EncodeOutcome.bitstream? : EncodeOutcome → Option (List UInt8)
  | .output _ bitstream => some bitstream
  | _ => none

/-- what NVENC puts out in the callback that the action starts -/
def PluginAction.bitstream? : PluginAction → Option (List UInt8)
  | .start .render (.renderTarget input) => input.outcome.bitstream?
  | _ => none

/-- NVENC has put this bitstream out in one of the callbacks -/
def PutOut (as : List PluginAction) (data : List UInt8) : Prop :=
  ∃ a ∈ as, a.bitstream? = some data

theorem putOut_along {cfg : PluginConfig} (as : List PluginAction) (start : PluginState) :
    (pluginMachine cfg).Along (PluginPuts (PutOut as)) start as := by
  refine Machine.along_of_mem (fun s a ha c hc => ?_) start
  subst hc
  cases c with
  | postRender input => trivial
  | renderTarget input =>
    intro timestamp data he
    refine ⟨_, ha, ?_⟩
    show input.outcome.bitstream? = some data
    rw [he]
    rfl

/-- the units on the wire are what NVENC put out in the run -/
theorem wire_putOut {cfg : PluginConfig} {start : PluginState} (h : (pluginMachine cfg).init start)
    (as : List PluginAction) :
    ∀ r ∈ ((plugin cfg).stepsOf .pacer start as).foldl wireNote [],
      Packetized (PutOut as) r.unit.packets := by
  refine account_packetized (fun x hx => ?_) fun r hr => by cases hr
  obtain ⟨s', hs', hbefore⟩ :=
    Pool.stepsOf_before (P := plugin cfg) (.start h) (putOut_along as start) x hx
  rw [hbefore]
  exact plugin_packetized hs'

/-- **From NVENC to the receiver.**  After every run, the packets handed to the socket are those of
the popped access units, in their order and numbered through; all but the last one are sent whole, or
were cut between two batches because the queue was cleared; and from a unit that is sent whole, the
receiver reads the NAL units that NVENC put out in one of the callbacks. -/
theorem rtp_wire {cfg : PluginConfig} {start : PluginState} (h : (pluginMachine cfg).init start)
    (as : List PluginAction) :
    let s := (pluginMachine cfg).run start as
    let wire := ((plugin cfg).stepsOf .pacer start as).foldl wireNote []
    Numbered (wirePackets wire) s.shared.sent.reverse ∧
    (∀ r ∈ wire.tail, r.Settled s.shared) ∧
    (s.thread .pacer = .ret () → ∀ r ∈ wire, r.Settled s.shared) ∧
    ∀ newer r older, wire = newer ++ r :: older → r.sent = r.unit.packets.length →
      ∃ data, PutOut as data ∧ ((∀ nal ∈ splitAnnexB data, IsNAL nal) →
        depacketize ((s.shared.sent.reverse.drop (wirePackets older).length).take r.sent) =
          some (splitAnnexB data)) := by
  intro s wire
  have haccount := plugin_wire h as
  have hpacketized : ∀ r ∈ wire, Packetized (PutOut as) r.unit.packets := wire_putOut h as
  refine ⟨?_, haccount.holds.settled, fun hidle => ?_, ?_⟩
  · have hparses : ∀ packet ∈ wirePackets wire, ∃ p, RtpPacket.parse packet.bytes = some p := by
      intro packet hpacket
      obtain ⟨r, hr, hsent⟩ := List.mem_flatMap.mp hpacket
      exact (hpacketized r (List.mem_reverse.mp hr)).parses packet (List.mem_of_mem_take hsent)
    have hsent : s.shared.sent.reverse = numberFrom 0 (wirePackets wire) :=
      haccount.holds.wire.sent
    rw [hsent]
    exact numberFrom_numbered hparses
  · have hsafe := haccount.safe
    rw [hidle] at hsafe
    exact hsafe _ (wireContract.rely_refl _) haccount.holds
  · intro newer r older hwire hwhole
    obtain ⟨data, hdata, hreceived⟩ := (hpacketized r (by rw [hwire]; simp)).received
    refine ⟨data, hdata, fun hnals => ?_⟩
    have hholds : Wire wire s.shared := haccount.holds.wire
    rw [hwire] at hholds
    have hblock := hholds.block
    have hpackets : r.packets = r.unit.packets := by
      rw [WireUnit.packets, hwhole, List.take_length]
    rw [hpackets, ← hwhole] at hblock
    rw [hblock]
    exact hreceived hnals _

/-- an IDR slice of two fragments -/
def fragmentedUnit : List UInt8 := [0, 0, 1, 0x65] ++ List.replicate 1300 0x80

/-- one packet more than a batch -/
def slicedUnit : List UInt8 := (List.replicate 33 [0, 0, 1, 0x65]).flatten

/-- the stream is started; its first two access units are sent, and the third one is cut when
simulation time moves backwards -/
def wireRun : List PluginAction :=
  startRun ++ runCall .pacer () 8 ++
    runCall .render (frameCall 3 (.output 3000 fragmentedUnit)) 60 ++ runCall .pacer () 10 ++
    runCall .render (frameCall 4 (.output 6000 slicedUnit)) 60 ++ runCall .pacer () 34 ++
    runCall .render (frameCall 2 .error) 60 ++ runCall .pacer () 4

theorem wireRun_nals {data : List UInt8} (h : PutOut wireRun data) :
    ∀ nal ∈ splitAnnexB data, IsNAL nal := by
  have hall : ∀ a ∈ wireRun, ∀ data ∈ a.bitstream?, ∀ nal ∈ splitAnnexB data, IsNAL nal := by
    decide +kernel
  obtain ⟨a, ha, hdata⟩ := h
  exact hall a ha data hdata

/-- the receiver reads the first two access units, and gets 32 of the 33 packets of the third -/
theorem rtp_wire_wireRun :
    let s := (pluginMachine .sample).run .sample wireRun
    let wire := ((plugin .sample).stepsOf .pacer PluginState.sample wireRun).foldl wireNote []
    wire.map (fun r => (r.sent, r.unit.packets.length)) = [(32, 33), (2, 2), (1, 1)] ∧
    Numbered (wirePackets wire) s.shared.sent.reverse ∧ (∀ r ∈ wire.tail, r.Settled s.shared) ∧
    (∃ data, PutOut wireRun data ∧
      depacketize (s.shared.sent.reverse.take 1) = some (splitAnnexB data)) ∧
    ∃ data, PutOut wireRun data ∧
      depacketize ((s.shared.sent.reverse.drop 1).take 2) = some (splitAnnexB data) := by
  have hinit : (pluginMachine .sample).init .sample := ⟨⟨.sample, rfl⟩, rfl⟩
  have hsent : (((plugin .sample).stepsOf .pacer PluginState.sample wireRun).foldl wireNote []).map
      (fun r => (r.sent, r.unit.packets.length)) = [(32, 33), (2, 2), (1, 1)] := by decide +kernel
  have hwire := rtp_wire hinit wireRun
  revert hwire hsent
  generalize ((plugin .sample).stepsOf .pacer PluginState.sample wireRun).foldl wireNote [] = wire
  generalize (pluginMachine .sample).run .sample wireRun = s
  rintro hsent ⟨hnumbered, hsettled, -, hblocks⟩
  refine ⟨hsent, hnumbered, hsettled, ?_⟩
  obtain ⟨cut, rest, rfl, hcut, hrest⟩ := List.map_eq_cons_iff.mp hsent
  obtain ⟨second, rest, rfl, hsecond, hrest⟩ := List.map_eq_cons_iff.mp hrest
  obtain ⟨first, rfl, hfirst⟩ := List.map_eq_singleton_iff.mp hrest
  obtain ⟨hfirst, hfirst'⟩ := Prod.mk.inj hfirst
  obtain ⟨hsecond, hsecond'⟩ := Prod.mk.inj hsecond
  constructor
  · obtain ⟨data, hdata, hreceived⟩ :=
      hblocks [cut, second] first [] rfl (hfirst.trans hfirst'.symm)
    rw [hfirst] at hreceived
    exact ⟨data, hdata, hreceived (wireRun_nals hdata)⟩
  · obtain ⟨data, hdata, hreceived⟩ :=
      hblocks [cut] second [first] rfl (hsecond.trans hsecond'.symm)
    have hlength : (wirePackets [first]).length = 1 := by
      simp [wirePackets, WireUnit.packets, hfirst, hfirst']
    rw [hsecond, hlength] at hreceived
    exact ⟨data, hdata, hreceived (wireRun_nals hdata)⟩

end MediaCamera
