import MediaCamera.Plugin.CaptureVerified

/-!
# The render thread takes no other steps

The programs of the render thread, one triple for each function.

* `completeNativeControl_triple`   an acknowledgment comes after its stores;
* `drained_triple`        what `CompleteNativeStopIfDrained` found stays so;
* `onPostRender_triple`, `postRenderTargetUpdate_triple`   the two callbacks;
* `render_body`           the program of the thread.
-/

namespace MediaCamera

open Contract

section
variable {cfg : PluginConfig} {α : Type} {P : State → Prop}

/-! ## mutations -/

/-- an awaiting command that may be acknowledged once its stores are made -/
def Completing (P : State → Prop) (command : NativeControlCommand) (s : State) : Prop :=
  P s ∧ s.nat.awaitingNativeControl = some command ∧ (command.kind = .stop → s.Drained)

theorem local_completing (hP : Local cfg P) (command : NativeControlCommand) :
    Local cfg (Completing P command) :=
  hP.and ((Local.awaiting (· = some command)).and (.imp _ .drained))

theorem stable_appliedActive (active : Bool) :
    (renderContract cfg).Stable (·.nat.nativeAppliedActive = active) :=
  .of_eq (fun _ _ h => RenderRely.appliedActive h) (· = active)

/-- nobody else stores the lifecycle state while a command is awaited -/
theorem stable_stored (hP : Local cfg P) (command : NativeControlCommand) :
    (renderContract cfg).Stable fun s => Completing P command s ∧ s.Stored command := by
  intro s s' h hI hs
  have hawaiting : s.nat.awaitingNativeControl ≠ none := by rw [hs.1.2.1]; simp
  have hstate := RenderRely.lifecycle h hawaiting
  have happlied := RenderRely.appliedActive h
  refine ⟨(local_completing hP command).stable s s' h hI hs.1, fun hkind => ?_, fun hkind => ?_⟩
  · rw [hstate, happlied]; exact hs.2.start hkind
  · rw [hstate, happlied]; exact hs.2.stop hkind

theorem storeOutcome_triple {Q : Unit → State → Prop} (hP : Local cfg P)
    {command : NativeControlCommand} {active : Bool} {state : LifecycleState}
    (hkind : command.kind = .start ∧ active = true ∧ state = .active ∨
      command.kind = .stop ∧ active = false ∧ state = .idle) {p : Thread Unit}
    (hp : (renderContract cfg).Triple (fun s => Completing P command s ∧ s.Stored command) p Q) :
    (renderContract cfg).Triple (Completing P command) (do
      storeNativeAppliedActive active
      storeNativeLifecycleState state
      p) Q := by
  have hcompleting : Local cfg (Completing P command) := local_completing hP command
  refine .bind (Q := fun _ s => Completing P command s ∧ s.nat.nativeAppliedActive = active)
    (render_step hcompleting.stable (fun _ => hcompleting.stable.and (stable_appliedActive active))
      fun s _ h => ?_) fun _ => ?_
  · have hrest : RenderRest .step s { s with nat.nativeAppliedActive := active } :=
      .storeApplied active h.2.1 (hkind.imp (fun h => ⟨h.1, h.2.1⟩) fun h => ⟨h.1, h.2.1⟩)
    exact ⟨.rest hrest, hcompleting.rest _ s _ hrest h, rfl⟩
  refine .bind (Q := fun _ s => Completing P command s ∧ s.Stored command)
    (render_step (hcompleting.stable.and (stable_appliedActive active))
      (fun _ => stable_stored hP command) fun s _ h => ?_) fun _ => hp
  obtain ⟨h, happlied⟩ := h
  have hstore : command.kind = .start ∧ state = .active ∧ s.nat.nativeAppliedActive = true ∨
      command.kind = .stop ∧ state = .idle ∧ s.nat.nativeAppliedActive = false := by
    rw [happlied]
    exact hkind.imp (fun h => ⟨h.1, h.2.2, h.2.1⟩) fun h => ⟨h.1, h.2.2, h.2.1⟩
  have hrest : RenderRest .step s { s with nat.nativeLifecycleState := state } :=
    .storeState state h.2.1 hstore
  refine ⟨.rest hrest, hcompleting.rest _ s _ hrest h, fun hstart => ?_, fun hstop => ?_⟩
  · rcases hstore with ⟨_, rfl, hactive⟩ | ⟨hstop, _⟩
    · exact ⟨hactive, rfl⟩
    · rw [hstart] at hstop
      cases hstop
  · rcases hstore with ⟨hstart, _⟩ | ⟨_, rfl, hactive⟩
    · rw [hstop] at hstart
      cases hstart
    · exact ⟨hactive, rfl⟩

theorem completeNativeControl_triple (hP : Local cfg P)
    (hkeep : ∀ s revision, P s → P (s.acknowledge revision)) (command : NativeControlCommand)
    (time : Int) :
    (renderContract cfg).Triple (Completing P command) (completeNativeControl command time)
      fun _ => P := by
  have hcompleting : Local cfg (Completing P command) := local_completing hP command
  have hlast : (renderContract cfg).Triple (fun s => Completing P command s ∧ s.Stored command) (do
        storeNativeAppliedTime time
        write (·.acknowledge command.revision)) fun _ => P := by
    refine .bind (Q := fun _ s => Completing P command s ∧ s.Stored command)
      (render_step (stable_stored hP command) (fun _ => stable_stored hP command)
        fun s _ h => ⟨.rest (.storeTime time), hcompleting.rest _ s _ (.storeTime time) h.1,
          h.2.start, h.2.stop⟩) fun _ => ?_
    exact render_step (stable_stored hP command) (fun _ => hP.stable) fun s _ h =>
      ⟨.acknowledge h.1.2.1 h.2 h.1.2.2, hkeep s _ h.1.1⟩
  have hpost : (renderContract cfg).Stable fun s =>
      Completing P command s ∧ (command.kind ≠ .stop → s.Stored command) := by
    intro s s' h hI hs
    exact ⟨hcompleting.stable s s' h hI hs.1,
      fun hkind => (stable_stored hP command s s' h hI ⟨hs.1, hs.2 hkind⟩).2⟩
  have hstop : (renderContract cfg).Triple
      (fun s => Completing P command s ∧ (command.kind ≠ .stop → s.Stored command)) (do
        if command.kind = .stop then
          storeNativeAppliedActive false
          storeNativeLifecycleState .idle
        storeNativeAppliedTime time
        write (·.acknowledge command.revision)) fun _ => P :=
    .ite (fun hkind => (storeOutcome_triple hP (.inr ⟨hkind, rfl, rfl⟩) hlast).pre fun _ h => h.1)
      fun hkind => hlast.pre fun _ h => ⟨h.1, h.2 hkind⟩
  refine .ite (fun hkind => storeOutcome_triple hP (.inl ⟨hkind, rfl, rfl⟩)
    (hstop.pre fun _ h => ⟨h.1, fun _ => h.2⟩)) fun hkind => hstop.pre fun s h => ⟨h, fun hne => ?_⟩
  exact ⟨fun hstart => absurd hstart hkind, fun hstop => absurd hstop hne⟩

/-! ## OnPostRender -/

theorem consume_ros (s : State) (command : NativeControlCommand) :
    (s.consume cfg command).ros.branch.epochIndex = s.ros.branch.epochIndex ∧
      (s.consume cfg command).ros.enqueuing = s.ros.enqueuing := by
  unfold State.consume
  cases command.calibration <;> exact ⟨rfl, rfl⟩

theorem Idle.consume {s : State} (h : Idle .quiet s) (command : NativeControlCommand) :
    Idle .quiet (s.consume cfg command) := by
  obtain ⟨hepoch, hunit⟩ := @consume_ros cfg s command
  exact h.keep rfl h.failing rfl hunit hepoch rfl fun _ => rfl

theorem applyNativeControl_step {input : PostRenderInput} {s : State} (hI : Books cfg s)
    (h : Idle .quiet s) :
    RenderStep cfg .step s (s.applyNativeControl cfg input) ∧
      Idle .quiet (s.applyNativeControl cfg input) := by
  unfold State.applyNativeControl
  split
  · exact ⟨.rest .look, h⟩
  split
  · exact ⟨.rest .look, h⟩
  rename_i command hcommand
  split
  · exact ⟨.rest .look, h⟩
  have hpending : s.ctl.pendingControl ≠ none := by
    obtain ⟨pending, hpending, _⟩ := hI.handoff.queued hcommand
    rw [show s.ctl.pendingControl = some pending from hpending]
    simp
  have hconsume : Idle .quiet (s.consume cfg command) := h.consume command
  split
  · rename_i hkind
    refine ⟨.applyConfiguration _ hcommand hkind hpending h.stage h.failing, ?_⟩
    exact hconsume.keep rfl h.failing rfl rfl rfl rfl fun _ => rfl
  · rename_i hkind
    refine ⟨.applyCommand hcommand hkind hpending h.stage h.failing, ?_⟩
    exact hconsume.keep rfl h.failing rfl rfl rfl rfl fun _ => rfl

abbrev Stopping (command : NativeControlCommand) (s : State) : Prop :=
  Idle .quiet s ∧ s.nat.awaitingNativeControl = some command

theorem local_stopping (command : NativeControlCommand) : Local cfg (Stopping command) :=
  (local_idle .quiet).and (.awaiting (· = some command))

/-- what `CompleteNativeStopIfDrained` finds stays so: the queue was cleared when the stop was
consumed, and the pacer's flag and the encoder are read after it -/
theorem drained_triple {command : NativeControlCommand} (hkind : command.kind = .stop) :
    (renderContract cfg).Triple (Stopping command) drained
      fun found s => Stopping command s ∧ (found = true → s.Drained) := by
  have hstopping : Local cfg (Stopping command) := local_stopping command
  have hpost : ∀ found : Bool, Local cfg fun s =>
      Stopping command s ∧ (found = true → s.Drained) := fun _ => hstopping.and (.imp _ .drained)
  have hquiet : (renderContract cfg).Stable fun s => Stopping command s ∧
      s.rtp.rtpQueue = [] ∧ s.flags.rtpInFlight = false :=
    hstopping.stable.and fun s s' h _ hs => RenderRely.drained h hs.1 hs.2
  refine .bind (Q := fun flight s => Stopping command s ∧
    (flight = false → s.rtp.rtpQueue = [] ∧ s.flags.rtpInFlight = false))
    (render_read hstopping.stable (fun flight => hstopping.stable.and fun s s' h hI hs hf =>
      RenderRely.drained h (hs hf).1 (hs hf).2) fun s hI h => ⟨h, fun hflight => ⟨?_, hflight⟩⟩)
    fun flight => ?_
  · exact (hI.halt.quiet (hI.halt.stopped command h.2 hkind)).2
  have hrunning : (renderContract cfg).Triple (Stopping command) (pure false)
      fun found s => Stopping command s ∧ (found = true → s.Drained) :=
    .ret hstopping.stable fun _ _ h => ⟨h, fun hno => by cases hno⟩
  cases flight with
  | true => exact hrunning.pre fun _ h => h.1
  | false =>
  refine Triple.pre (P := fun s => Stopping command s ∧ s.rtp.rtpQueue = [] ∧
    s.flags.rtpInFlight = false) ?_ fun s h => ⟨h.1, h.2 rfl⟩
  refine .bind (Q := fun consumers s => (Stopping command s ∧ s.rtp.rtpQueue = [] ∧
    s.flags.rtpInFlight = false) ∧ s.view.consumersAtCheck = consumers) (render_step hquiet
    (fun consumers => hquiet.and (.of_eq (fun _ _ h => RenderRely.view h)
      (·.consumersAtCheck = consumers))) fun s _ h => ⟨.check, ⟨⟨?_, h.1.2⟩, h.2⟩, rfl⟩)
    fun consumers => ?_
  · exact h.1.1.keep h.1.1.stage h.1.1.failing rfl rfl rfl rfl fun _ => rfl
  have hchecked : (renderContract cfg).Stable fun s => (Stopping command s ∧
      s.rtp.rtpQueue = [] ∧ s.flags.rtpInFlight = false) ∧ s.view.consumersAtCheck = consumers :=
    hquiet.and (.of_eq (fun _ _ h => RenderRely.view h) (·.consumersAtCheck = consumers))
  cases consumers with
  | true => exact .ret hchecked fun s _ h => ⟨h.1.1, fun _ => ⟨h.1.2.1, h.1.2.2, .inl h.2⟩⟩
  | false =>
    refine render_read hchecked (fun found => (hpost found).stable) fun s _ h =>
      ⟨h.1.1, fun hfound => ⟨h.1.2.1, h.1.2.2, .inr ?_⟩⟩
    by_contra hlive
    rw [h.1.1.1.resources hlive] at hfound
    cases hfound

theorem completeNativeStopIfDrained_triple (time : Int) :
    (renderContract cfg).Triple (Idle .quiet) (completeNativeStopIfDrained time)
      fun _ => Idle .quiet := by
  have hloc : ∀ r, Local cfg fun s => Idle .quiet s ∧ s.nat.awaitingNativeControl = r :=
    fun r => (local_idle .quiet).and (.awaiting (· = r))
  refine .bind (render_read (local_idle .quiet).stable (fun r => (hloc r).stable)
    fun _ _ h => ⟨h, rfl⟩) fun awaiting => ?_
  split
  · exact .ret (hloc none).stable fun _ _ h => h.1
  rename_i command
  refine .ite (fun hkind => .bind (drained_triple hkind) fun found => .ite (fun hfound => ?_)
    fun _ => ?_) fun _ => .ret (hloc _).stable fun _ _ h => h.1
  · have hcompleting : Local cfg (Completing (Idle .quiet) command) :=
      local_completing (local_idle .quiet) command
    refine Triple.pre (P := Completing (Idle .quiet) command) ?_ fun s h =>
      ⟨h.1.1, h.1.2, fun _ => h.2 hfound⟩
    refine .bind (render_rest releaseSensor_restful hcompleting) fun _ => ?_
    refine .bind (render_rest storeSensorActive_restful hcompleting) fun _ => ?_
    exact completeNativeControl_triple (local_idle .quiet)
      (fun _ revision h => h.acknowledge revision) command time
  · exact .ret ((local_stopping command).and (.imp _ .drained)).stable fun _ _ h => h.1.1

theorem onPostRender_triple (input : PostRenderInput) :
    (renderContract cfg).Triple (Idle .quiet) (onPostRender cfg input) fun _ => Idle .quiet := by
  have hidle : Local cfg (Idle .quiet) := local_idle .quiet
  refine .bind (render_atomic hidle (fun _ => hidle) fun s hI h => applyNativeControl_step hI h)
    fun _ => ?_
  refine .bind (completeNativeStopIfDrained_triple _) fun _ => ?_
  refine render_rest (.bind storeSensorActive_restful fun _ => .bind wantsEncode_reading.restful
    fun shouldEncode => .bind (restful_access fun s => .view _ rfl rfl) fun camera => ?_) hidle
  refine .ite (.bind (wantsRender_reading _).restful fun _ =>
    .ite (setSensorActive_restful _) (.ret _)) ?_
  exact .bind (restful_access fun s => .view _ rfl rfl) fun _ =>
    .ite (driveSensor_restful _) (.ret _)

/-! ## shared programs -/

section
variable {stage : FrameStage} {failing : Bool} {sending : Option PendingEncodedFrame}
  {unit : Option AccessUnit}

theorem rosStep_epoch {s : RosState} {a : RosAction} (hstop : a ≠ .stopPublisher)
    (hcalibration : ∀ calibration, a ≠ .applyCalibration calibration) :
    s.branch.epochIndex ≤ (rosStep cfg.ros s a).branch.epochIndex := by
  have hmoves : s.branch.Moves (rosStep cfg.ros s a).branch := rosStep_moves hstop hcalibration
  rcases hmoves.forward with h | ⟨h, _⟩
  · exact h.le
  · exact h.le

/-- after `BeginROSEpoch`, no frame of the present epoch is enqueued -/
theorem epochEmpty_begin {s : State} (h : Books cfg s) (cause : EpochCause) :
    State.EpochEmpty { s with ros := rosStep cfg.ros s.ros (.beginEpoch cause) } := by
  intro p hp
  have hp : p ∈ s.enqueued := hp
  cases henabled : cfg.ros.rosPublishingEnabled with
  | false =>
    rw [h.ros.disabled henabled] at hp
    cases hp
  | true =>
    have hbegins : s.ros.branch.beginsROSEpoch cfg.ros = true := by
      simp [RosBranch.beginsROSEpoch, henabled, h.ros.running]
    have hbranch : (rosStep cfg.ros s.ros (.beginEpoch cause)).branch =
        s.ros.branch.advanceROSEpochLocked cause 0 := if_pos hbegins
    show p.1.epochIndex < (rosStep cfg.ros s.ros (.beginEpoch cause)).branch.epochIndex
    rw [hbranch]
    show p.1.epochIndex < s.ros.branch.epochIndex + 1
    rcases h.ros.epochs p hp with hlt | ⟨heq, _⟩ <;> omega

theorem beginROSEpoch_triple (hP : Local cfg P)
    (hkeep : ∀ s cause, P s → P { s with ros := rosStep cfg.ros s.ros (.beginEpoch cause) })
    (cause : EpochCause) :
    (renderContract cfg).Triple P (beginROSEpoch cfg cause) fun _ s => P s ∧ s.EpochEmpty := by
  have hloc : Local cfg fun s => P s ∧ s.EpochEmpty := hP.and .epochEmpty
  refine .bind (Q := fun _ s => P s ∧ s.EpochEmpty) (render_atomic hP (fun _ => hloc)
    fun s hI h => ⟨.beginROSEpoch cause, hkeep s cause h, epochEmpty_begin hI cause⟩) fun _ => ?_
  exact .ite (fun _ => render_rest storeForceKeyframe_restful hloc)
    fun _ => .ret hloc.stable fun _ _ h => h

theorem Callback.beginEpoch {s : State} (h : Callback stage failing sending unit s)
    (cause : EpochCause) : Callback stage failing sending unit
      { s with ros := rosStep cfg.ros s.ros (.beginEpoch cause) } :=
  h.withRos h.unit (rosStep_epoch (by simp) (by simp))

theorem destroyEncoder_mark (s : State) : s.destroyEncoder.mark = s.mark := by
  simp only [State.mark, State.renderLog, State.destroyEncoder]
  cases s.enc.session <;> rfl

def FrameStage.Destroys (stage : FrameStage) : Prop :=
  ∀ s : State, stage.Fits s.mark → s.Destroys

theorem destroys_rendering : FrameStage.rendering.Destroys := fun _ h => .inl h

theorem destroys_broken : FrameStage.broken.Destroys := fun _ h => .inr (.inl h)

theorem destroys_faulted : FrameStage.faulted.Destroys := fun _ h => .inr (.inr h)

theorem destroyEncoder_triple (hstage : stage.Destroys) :
    (renderContract cfg).Triple (Callback stage failing sending unit) destroyEncoder fun _ s =>
      Callback stage failing sending unit s ∧ s.enc.session = none ∧
        s.enc.lastSourceTimeNanoseconds = none :=
  render_atomic (.callback _ _ _ _) (fun _ => (Local.callback _ _ _ _).and
    (.enc fun e => e.session = none ∧ e.lastSourceTimeNanoseconds = none)) fun s _ h =>
    ⟨.destroyEncoder (hstage s h.stage), ⟨(destroyEncoder_mark s).symm ▸ h.stage, h.failing, h.sending,
      h.unit, fun _ hlive => (by cases hlive), fun hlive => absurd rfl hlive⟩, rfl, rfl⟩

/-! ## FailNativeEncoderTransition -/

/-- after the store of `nativeFailedRevision_` -/
def Faulting (failing : Bool) (revision : Nat) (s : State) : Prop :=
  Callback .quiet failing none none s ∧ .nativeFailed revision ∈ presentEvents s.log ∧
    s.nat.faulting = true

theorem stable_faulting (failing : Bool) (revision : Nat) :
    (renderContract cfg).Stable (Faulting failing revision) :=
  (Local.callback _ _ _ _).stable.and ((Local.present _).stable.and
    (.of_eq (fun _ _ h => RenderRely.faulting h) (· = true)))

theorem fault_triple (revision : Nat) :
    (renderContract cfg).Triple (Faulting true revision) (do
      write (·.deactivate)
      faultAppliedActive
      faultLifecycleState revision
      clearRTPQueue
      destroyEncoder) fun _ => Idle .quiet := by
  have hidle : Local cfg (Idle .quiet) := local_idle .quiet
  have hfaulted : Local cfg (Idle .faulted) := local_idle .faulted
  refine .bind (Q := fun _ => Faulting false revision) (render_step (stable_faulting _ _)
    (fun _ => stable_faulting _ _) fun s _ h => ⟨.deactivate h.1.failing,
      h.1.keep h.1.stage rfl rfl rfl rfl rfl fun _ => rfl, h.2⟩) fun _ => ?_
  refine .bind (Q := fun _ s => Faulting false revision s ∧ s.nat.nativeAppliedActive = false)
    (render_step (stable_faulting _ _)
      (fun _ => (stable_faulting _ _).and (stable_appliedActive false)) fun s _ h =>
      ⟨.rest (.faultActive h.2.2), ⟨hidle.rest _ s _ (.faultActive h.2.2) h.1, h.2⟩, rfl⟩)
    fun _ => ?_
  refine .bind (Q := fun _ => Idle .faulted) (render_step
    ((stable_faulting _ _).and (stable_appliedActive false)) (fun _ => hfaulted.stable)
    fun s _ h => ⟨.faultState h.1.2.2 h.2 h.1.2.1, ?_⟩) fun _ => ?_
  · exact h.1.1.keep ⟨revision, rfl⟩ h.1.1.failing rfl rfl rfl rfl fun _ => rfl
  refine .bind (render_rest clearRTPQueue_restful hfaulted) fun _ => ?_
  exact (destroyEncoder_triple destroys_faulted).post fun _ _ h => h.1.weaken FrameStage.Fits.seen

/-- `FailNativeEncoderTransition` took the capture generation -/
abbrev Marked (generation : Nat) (s : State) : Prop :=
  Idle .quiet s ∧ s.mark = some (.transitionFailed generation)

theorem local_marked (generation : Nat) : Local cfg (Marked generation) :=
  (local_idle .quiet).and (.mark (· = some (.transitionFailed generation)))

theorem failNativeEncoderTransition_triple :
    (renderContract cfg).Triple (Idle .failed) failNativeEncoderTransition fun _ => Idle .quiet := by
  refine .bind (Q := Marked) (render_atomic (local_idle .failed) local_marked fun s _ h =>
    ⟨.transitionFailed h.stage, h.keep rfl h.failing rfl rfl rfl rfl fun _ => rfl, rfl⟩)
    fun generation => ?_
  have hmarked : Local cfg (Marked generation) := local_marked generation
  have hawaits : ∀ r, Local cfg fun s =>
      Marked generation s ∧ s.nat.awaitingNativeControl = r :=
    fun r => hmarked.and (.awaiting (· = r))
  -- a failed keyframe first, and then the awaiting command
  refine (fun hfail => .ite (fun hne => .bind (Q := fun _ => Marked generation) (render_atomic hmarked
    (fun _ => hmarked) fun s _ h => ⟨.failKeyframe hne h.2, h.1.keep h.1.stage h.1.failing rfl rfl
      rfl rfl fun _ => rfl, h.2⟩) fun _ => hfail) fun _ => hfail) ?_
  refine .bind (render_read hmarked.stable (fun r => (hawaits r).stable)
    fun _ _ h => ⟨h, rfl⟩) fun r => ?_
  cases r with
  | none => exact .ret (hawaits none).stable fun _ _ h => h.1.1
  | some command =>
    refine .ite (fun hkind => ?_) fun _ => .ret (hawaits _).stable fun _ _ h => h.1.1
    refine .bind (Q := fun _ => Faulting true command.revision) (render_step (hawaits _).stable
      (fun _ => stable_faulting _ _) fun s _ h => ⟨.failNative h.2 hkind h.1.2, ?_⟩)
      fun _ => fault_triple command.revision
    exact ⟨h.1.1.keep h.1.1.stage rfl rfl rfl rfl rfl fun _ => rfl, List.mem_cons_self, rfl⟩

end

/-! ## before a frame -/

theorem rosRenderIsFresh_triple (time : Int) :
    (renderContract cfg).Triple (Idle .rendering) (rosRenderIsFreshForCurrentActivation time)
      fun _ => Idle .rendering := by
  have hidle : Local cfg (Idle .rendering) := local_idle .rendering
  refine .bind (render_look hidle.stable) fun generation => ?_
  refine .bind (render_rest (restful_access fun s => .view _ rfl rfl) hidle) fun decision => ?_
  split
  · refine .bind (render_rest clearRTPQueue_restful hidle) fun _ => ?_
    refine .bind ((destroyEncoder_triple destroys_rendering).post fun _ _ h => h.1) fun _ => ?_
    refine .bind (render_rest storeForceKeyframe_restful hidle) fun _ => ?_
    exact .ret hidle.stable fun _ _ h => h
  · exact .ret hidle.stable fun _ _ h => h
  · exact .ret hidle.stable fun _ _ h => h

theorem observe_session (e : Encoder) (time : Int) :
    (e.observe time).session = e.session ∧ (e.observe time).sending = e.sending ∧
      (e.observe time).encoderEverInitialized = e.encoderEverInitialized := by
  unfold Encoder.observe
  split <;> exact ⟨rfl, rfl, rfl⟩

abbrev Observed (time : Int) (s : State) : Prop :=
  Idle .rendering s ∧ s.enc.lastSourceTimeNanoseconds = some time

theorem local_observed (time : Int) : Local cfg (Observed time) :=
  (local_idle .rendering).and (.enc (·.lastSourceTimeNanoseconds = some time))

theorem observeSourceTime_triple (time : Int) :
    (renderContract cfg).Triple (Idle .rendering) (observeSourceTime cfg time)
      fun _ => Observed time := by
  have hidle : Local cfg (Idle .rendering) := local_idle .rendering
  refine .bind (Q := fun back s => Idle .rendering s ∧
      (back = false → s.enc.lastSourceTimeNanoseconds = some time))
    (render_atomic hidle (fun back => hidle.and (.imp _ (.enc
      (·.lastSourceTimeNanoseconds = some time)))) fun s _ h => ⟨.observeSourceTime time, ?_, ?_⟩)
    fun back => ?_
  · obtain ⟨hsession, hsending, hinitialized⟩ := observe_session s.enc time
    exact h.withEnc (hsending.trans h.sending) hsession hinitialized
  · intro hback
    have hback : s.enc.timeWentBack time = false := hback
    show (s.enc.observe time).lastSourceTimeNanoseconds = some time
    rw [Encoder.observe, if_neg (by simp [hback])]
  refine .ite (fun _ => ?_) fun hback => ?_
  · refine Triple.pre (P := Idle .rendering) ?_ fun _ h => h.1
    refine .bind (render_rest clearRTPQueue_restful hidle) fun _ => ?_
    refine .bind ((beginROSEpoch_triple hidle (fun _ cause h => h.beginEpoch cause) _).post
      fun _ _ h => h.1) fun _ => ?_
    refine .bind (render_rest storeForceKeyframe_restful hidle) fun _ => ?_
    refine .bind (destroyEncoder_triple destroys_rendering) fun _ => ?_
    exact render_atomic (hidle.and (.enc fun e => e.session = none ∧
      e.lastSourceTimeNanoseconds = none)) (fun _ => local_observed time) fun s _ h =>
      ⟨.rememberSourceTime time h.2.1, h.1.withEnc h.1.sending rfl rfl, rfl⟩
  · have hback : back = false := by simpa using hback
    exact (Triple.ret (local_observed time).stable fun _ _ h => h).pre fun s h => ⟨h.1, h.2 hback⟩

abbrev Encoding (time : Int) (s : State) : Prop :=
  Idle .rendering s ∧ ∃ session, s.EncoderReady session ∧ s.Timed session time

theorem local_encoding (time : Int) : Local cfg (Encoding time) := by
  refine (local_idle .rendering).and ⟨?_, ?_⟩
  · rintro s s' h hI ⟨session, hready, htimed⟩
    refine ⟨session, (Local.ready session).stable s s' h hI hready, ?_⟩
    rw [State.Timed, RenderRely.enc h]
    exact htimed
  · rintro l s s' hs ⟨session, hready, htimed⟩
    have hlocal : Local cfg (·.EncoderReady session) := .ready session
    refine ⟨session, hlocal.rest l s s' hs hready, ?_⟩
    rw [State.Timed, hs.same.2.1]
    exact htimed

/-- a new session, whose epoch is not known to be empty yet -/
structure Creating (time : Int) (s : State) : Prop where
  stage : FrameStage.rendering.Fits s.mark
  failing : s.nat.failing = false
  unit : s.ros.enqueuing = none
  sending : s.enc.sending = none
  last : s.enc.lastSourceTimeNanoseconds = none
  session : ∃ session, s.enc.session = some session ∧ session.sourceTimeNanoseconds = time

theorem local_creating (time : Int) : Local cfg (Creating time) := by
  constructor
  · intro s s' h _ hs
    have henc : s'.enc = s.enc := RenderRely.enc h
    exact ⟨(RenderRely.mark h).symm ▸ hs.stage, (RenderRely.failing h).trans hs.failing,
      (RenderRely.enqueuing h).trans hs.unit, by rw [henc]; exact hs.sending,
      by rw [henc]; exact hs.last, by rw [henc]; exact hs.session⟩
  · intro l s s' hs hP
    obtain ⟨hlog, henc, hros, _, hfailing⟩ := hs.same
    have hmark : s'.mark = s.mark := by simp only [State.mark, State.renderLog, hlog]
    exact ⟨hmark.symm ▸ hP.stage, hfailing.trans hP.failing, by rw [hros]; exact hP.unit,
      by rw [henc]; exact hP.sending, by rw [henc]; exact hP.last, by rw [henc]; exact hP.session⟩

theorem Creating.beginEpoch {time : Int} {s : State} (h : Creating time s) (cause : EpochCause) :
    Creating time { s with ros := rosStep cfg.ros s.ros (.beginEpoch cause) } :=
  ⟨h.stage, h.failing, h.unit, h.sending, h.last, h.session⟩

section
variable {failing : Bool} {sending : Option PendingEncodedFrame} {unit : Option AccessUnit}

theorem encoderFailure_triple :
    (renderContract cfg).Triple (Callback .rendering failing sending unit) encoderFailure
      fun sent s => sent = false ∧ Callback .failed failing sending unit s := by
  refine .bind (Q := fun _ => Callback .broken failing sending unit) (render_atomic
    (.callback _ _ _ _) (fun _ => .callback _ _ _ _) fun s _ h =>
      ⟨.encoderFailed h.stage, h.encoderFailed⟩) fun _ => ?_
  exact .ret (Local.callback _ _ _ _).stable fun _ _ h => ⟨rfl, h.weaken FrameStage.Fits.failed⟩

end

/-- the stage of a frame after its access unit was handed over, or not -/
def FrameStage.after (sent : Bool) : FrameStage := if sent then .rendering else .failed

/-- the end of `EnsureEncoder`: the new session has its epoch for itself -/
theorem initialize_triple (cfg : PluginConfig) (width height : Nat) (time : Int) :
    (renderContract cfg).Triple (fun s => Creating time s ∧ s.EpochEmpty) (do
      write (fun s => { s with enc.encoderEverInitialized := true })
      let describe := RosAction.describeStream width height (updateRate cfg.updateRate)
        (gopLength cfg.updateRate)
      .atomic (.ros describe) (fun s => ({ s with ros := rosStep cfg.ros s.ros describe }, ()))
      storeForceKeyframe
      write (fun s => { s with flags.encoderResourcesActive := true })
      return true) fun ready s => ready = true ∧ Encoding time s := by
  have hencoding : Local cfg (Encoding time) := local_encoding time
  have hcreating : Local cfg fun s => (Creating time s ∧ s.EpochEmpty) ∧
      s.enc.encoderEverInitialized = true :=
    ((local_creating time).and .epochEmpty).and (.enc (·.encoderEverInitialized = true))
  refine .bind (Q := fun _ s => (Creating time s ∧ s.EpochEmpty) ∧
    s.enc.encoderEverInitialized = true) (render_atomic ((local_creating time).and .epochEmpty)
    (fun _ => hcreating) fun s _ h => ⟨.initialized, ⟨⟨h.1.stage, h.1.failing, h.1.unit,
      h.1.sending, h.1.last, h.1.session⟩, h.2⟩, rfl⟩) fun _ => ?_
  refine .bind (Q := fun _ s => (Creating time s ∧ s.EpochEmpty) ∧
    s.enc.encoderEverInitialized = true) (render_atomic hcreating (fun _ => hcreating)
    fun s _ h => ⟨.describeStream _ _ _ _, ⟨⟨h.1.1.stage, h.1.1.failing, h.1.1.unit,
      h.1.1.sending, h.1.1.last, h.1.1.session⟩, h.1.2⟩, h.2⟩) fun _ => ?_
  refine .bind (render_rest storeForceKeyframe_restful hcreating) fun _ => ?_
  refine .bind (Q := fun _ => Encoding time) (render_atomic hcreating (fun _ => hencoding)
    fun s _ h => ?_) fun _ => .ret hencoding.stable fun _ _ h => ⟨rfl, h⟩
  obtain ⟨⟨h, hempty⟩, hinitialized⟩ := h
  obtain ⟨session, hlive, htime⟩ := h.session
  have hready : State.EncoderReady { s with flags.encoderResourcesActive := true } session :=
    ⟨hlive, hinitialized, fun p hp => .inl (hempty p hp)⟩
  refine ⟨.rest (.resources (by rw [hlive]; simp)), ⟨h.stage, h.failing, h.sending, h.unit,
    fun session' hlive' => ?_, fun _ => rfl⟩, session, hready, .inr ⟨h.last, htime⟩⟩
  obtain rfl : session = session' := Option.some.inj (hlive.symm.trans hlive')
  exact hready

/-- what `EnsureEncoder` leaves: an encoder for the callback, or a failed frame -/
def Ensured (time : Int) (ready : Bool) (s : State) : Prop :=
  if ready then Encoding time s else Idle .failed s

theorem epochEmpty_pending {s : State} (h : Books cfg s)
    (hpending : s.ros.branch.rosHasPendingEpoch = true) : s.EpochEmpty := by
  intro p hp
  simp only [RosBranch.rosHasPendingEpoch, Bool.and_eq_true, beq_iff_eq] at hpending
  rcases h.ros.epochs p hp with hlt | ⟨_, hlt⟩
  · exact hlt
  · omega

theorem epochEmpty_first {s : State} (h : Books cfg s)
    (hfirst : s.enc.encoderEverInitialized = false) : s.EpochEmpty := by
  intro p hp
  rw [h.first hfirst] at hp
  cases hp

theorem ensureEncoder_triple (width height : Nat) (time : Int) (available : Bool) :
    (renderContract cfg).Triple (Observed time) (ensureEncoder cfg width height time available)
      (Ensured time) := by
  have hcreating : Local cfg (Creating time) := local_creating time
  have hempty : Local cfg fun s => Creating time s ∧ s.EpochEmpty := hcreating.and .epochEmpty
  refine .bind (Q := fun ready s => Observed time s ∧ (ready = true → s.enc.session ≠ none))
    (render_read (local_observed time).stable (fun ready => ((local_observed time).and
      (.imp _ (.enc (·.session ≠ none)))).stable) fun s _ h => ⟨h, fun hready hnone => ?_⟩) fun ready => ?_
  · simp [Encoder.ready, hnone] at hready
  refine .ite (fun hready => ?_) fun _ => Triple.pre (P := Observed time) ?_ fun _ h => h.1
  · refine Triple.pre (P := Encoding time) (.ret (local_encoding time).stable fun _ _ h => h)
      fun s h => ⟨h.1.1, ?_⟩
    obtain ⟨session, hlive⟩ := Option.ne_none_iff_exists'.mp (h.2 hready)
    exact ⟨session, h.1.1.ready session hlive, .inl h.1.2⟩
  refine .bind ((destroyEncoder_triple destroys_rendering).pre fun _ h => h.1) fun _ => .ite (fun _ => ?_) fun _ => ?_
  · refine (encoderFailure_triple.pre fun _ h => h.1).post ?_
    rintro sent s ⟨rfl, h⟩
    exact h
  refine .bind (Q := fun _ => Creating time) (render_atomic ((local_idle .rendering).and (.enc fun e =>
    e.session = none ∧ e.lastSourceTimeNanoseconds = none)) (fun _ => hcreating) fun s _ h =>
    ⟨.createEncoder width height time h.2.1 h.1.sending, h.1.stage, h.1.failing, h.1.unit, h.1.sending,
      h.2.2, _, rfl, rfl⟩) fun _ => ?_
  refine .bind (Q := fun already s => Creating time s ∧ (already = true → s.EpochEmpty))
    (render_read hcreating.stable (fun already => (hcreating.and (.imp _ .epochEmpty)).stable)
      fun s hI h => ⟨h, epochEmpty_pending hI⟩) fun already => ?_
  refine .bind (Q := fun before s => (Creating time s ∧ (already = true → s.EpochEmpty)) ∧
      (before = false → s.EpochEmpty)) (render_read
      (hcreating.and (.imp _ .epochEmpty)).stable
      (fun before => ((hcreating.and (.imp _ .epochEmpty)).and (.imp _ .epochEmpty)).stable)
      fun s hI h => ⟨h, epochEmpty_first hI⟩) fun before => ?_
  have hensured : ∀ ready s, ready = true ∧ Encoding time s → Ensured time ready s := by
    rintro ready s ⟨rfl, h⟩
    exact h
  have hend := (initialize_triple cfg width height time).post hensured
  refine .ite (fun _ => ?_) fun hnot => hend.pre fun s h => ⟨h.1.1, ?_⟩
  · refine Triple.pre (P := Creating time) ?_ fun _ h => h.1.1
    refine .bind (render_rest clearRTPQueue_restful hcreating) fun _ => ?_
    exact .bind (beginROSEpoch_triple hcreating (fun _ cause h => h.beginEpoch cause) _)
      fun _ => hend
  · cases before with
    | false => exact h.2 rfl
    | true =>
      cases already with
      | true => exact h.1.2 rfl
      | false => exact absurd rfl hnot

/-! ## an access unit -/

abbrev Sending (metadata : PendingEncodedFrame) (unit : Option AccessUnit) (s : State) : Prop :=
  Callback .rendering false (some metadata) unit s ∧ s.enc.session ≠ none

theorem local_sending (metadata : PendingEncodedFrame) (unit : Option AccessUnit) :
    Local cfg (Sending metadata unit) :=
  (Local.callback _ _ _ _).and (.enc (·.session ≠ none))

theorem acknowledgeKeyframe_triple (metadata : PendingEncodedFrame) (time : Int) :
    (renderContract cfg).Triple (Sending metadata none) (acknowledgeKeyframe metadata time)
      fun _ => Sending metadata none := by
  have hsending : Local cfg (Sending metadata none) := local_sending _ _
  have hloc : ∀ r, Local cfg fun s =>
      Sending metadata none s ∧ s.nat.awaitingNativeControl = r :=
    fun r => hsending.and (.awaiting (· = r))
  have hcapture : Restful (do
      if metadata.captureKeyframeGeneration ≠ 0 then
        if (← read (·.cap.pending)) = metadata.captureKeyframeGeneration then
          write (fun s => { s with cap.pending := 0 })
          write (fun s => { s with cap.applied := metadata.captureKeyframeGeneration })) :=
    .ite (.bind reading_read.restful fun _ => .ite (.bind (restful_access fun _ => .keyframeServed)
      fun _ => restful_access fun _ => .keyframeApplied _) (.ret _)) (.ret _)
  have hrest := render_rest hcapture hsending
  refine .bind (render_read hsending.stable (fun r => (hloc r).stable) fun _ _ h => ⟨h, rfl⟩)
    fun awaiting => ?_
  cases awaiting with
  | none => exact hrest.pre fun _ h => h.1
  | some command =>
    refine .ite (fun hserves => .bind ((completeNativeControl_triple hsending
      (fun _ revision h => ⟨h.1.acknowledge revision, h.2⟩) command time).pre fun s h =>
        ⟨h.1, h.2, fun hstop => ?_⟩) fun _ => hrest) fun _ => hrest.pre fun _ h => h.1
    exact absurd (hserves.2.1.symm.trans hstop) (by simp)

theorem check_enqueuing (s : RosState) (unit : AccessUnit) (h : s.enqueuing = none) :
    (rosStep cfg.ros s (.check unit)).enqueuing =
      if s.branch.accepts cfg.ros unit then some unit else none := by
  show (s.check cfg.ros unit).enqueuing = _
  unfold RosState.check
  by_cases haccepts : s.branch.accepts cfg.ros unit = true
  · rw [if_pos ⟨h, haccepts⟩, if_pos haccepts]
  · rw [if_neg fun hboth => haccepts hboth.2, if_neg haccepts]
    exact h

theorem Sending.enqueueROS {metadata : PendingEncodedFrame} {unit : AccessUnit} {s : State}
    (h : Sending metadata (some unit) s) :
    Sending metadata none (s.enqueueROS cfg unit) := by
  obtain ⟨h, hlive⟩ := h
  have hepoch : s.ros.branch.epochIndex ≤ (rosStep cfg.ros s.ros .enqueue).branch.epochIndex :=
    rosStep_epoch (by simp) (by simp)
  have hunit : (rosStep cfg.ros s.ros .enqueue).enqueuing = none := by
    show (s.ros.enqueue cfg.ros).enqueuing = none
    simp only [RosState.enqueue, h.unit]
  refine ⟨⟨?_, h.failing, h.sending, hunit, fun session hsession => ?_, h.resources⟩, hlive⟩
  · have hmark : (s.enqueueROS cfg unit).mark = s.mark := by
      simp only [State.mark, State.renderLog, State.enqueueROS]
      split <;> rfl
    rw [hmark]
    exact h.stage
  · have hsession : s.enc.session = some session := hsession
    have hready := h.ready session hsession
    refine ⟨hready.live, hready.initialized, fun p hp => ?_⟩
    have hp : p ∈ s.enqueued ∨ p.2 = session.index := by
      simp only [State.enqueueROS, State.enqueued] at hp
      split at hp
      · rcases List.mem_cons.mp hp with rfl | hp
        · exact .inr (by simp [hsession])
        · exact .inl hp
      · exact .inl hp
    rcases hp with hp | hp
    · exact (hready.epoch p hp).imp_left (Nat.lt_of_lt_of_le · hepoch)
    · exact .inr hp

theorem enqueueROSAccessUnit_triple {metadata : PendingEncodedFrame} {unit : AccessUnit}
    (hmetadata : unit.metadata = metadata) :
    (renderContract cfg).Triple (Sending metadata none) (enqueueROSAccessUnit cfg unit)
      fun _ => Sending metadata none := by
  refine .bind (Q := fun accepted => Sending metadata (if accepted then some unit else none))
    (render_atomic (local_sending _ _) (fun _ => local_sending _ _) fun s _ h =>
      ⟨.checkROS unit (by rw [hmetadata]; exact h.1.sending), h.1.withRos
        (check_enqueuing _ unit h.1.unit) (rosStep_epoch (by simp) (by simp)), h.2⟩)
    fun accepted => .ite (fun haccepted => ?_) fun haccepted => ?_
  · rw [if_pos haccepted]
    refine render_atomic (local_sending _ _) (fun _ => local_sending _ _) fun s _ h => ?_
    obtain ⟨session, hsession⟩ := Option.ne_none_iff_exists'.mp h.2
    exact ⟨.enqueueROS (by rw [hmetadata]; exact h.1.sending) h.1.unit (h.1.ready session hsession),
      h.enqueueROS⟩
  · rw [if_neg haccepted]
    exact .ret (local_sending _ _).stable fun _ _ h => h

theorem enqueueRTP_eq (s : State) (packets : List QueuedRTPPacket) (keyframe : Bool) :
    s.enqueueRTP cfg packets keyframe =
      let r := s.rtp.enqueueRTPAccessUnit cfg.pacingBitrate cfg.updateRate packets keyframe
      { s with
        rtp := r.1
        flags.forceKeyframe := r.2.2 || s.flags.forceKeyframe
        log := if r.2.1 then s.log else .refused :: s.log } := by
  have hresult : (s.rtp.enqueueRTPAccessUnit cfg.pacingBitrate cfg.updateRate packets
      keyframe).2.1 = (RtpQueue.refusal cfg.pacingBitrate s.rtp packets keyframe).isNone :=
    RtpQueue.enqueueRTPAccessUnit_accepts _ _ _ _ _
  simp only [State.enqueueRTP, hresult]
  cases RtpQueue.refusal cfg.pacingBitrate s.rtp packets keyframe <;> rfl

theorem Callback.enqueueRTP {metadata : PendingEncodedFrame} {s : State}
    (h : Callback .rendering false (some metadata) none s) (packets : List QueuedRTPPacket)
    (keyframe : Bool) :
    Callback (.after
        (s.rtp.enqueueRTPAccessUnit cfg.pacingBitrate cfg.updateRate packets keyframe).2.1)
      false (some metadata) none (s.enqueueRTP cfg packets keyframe) := by
  rw [enqueueRTP_eq]
  dsimp only
  cases (s.rtp.enqueueRTPAccessUnit cfg.pacingBitrate cfg.updateRate packets keyframe).2.1 with
  | true => exact h.keep h.stage h.failing rfl rfl rfl rfl fun _ => rfl
  | false => exact h.keep rfl h.failing rfl rfl rfl rfl fun _ => rfl

theorem sendH264AccessUnit_triple (data : List UInt8) (timestamp : UInt32)
    (metadata : PendingEncodedFrame) (time : Int) :
    (renderContract cfg).Triple (Sending metadata none)
      (sendH264AccessUnit cfg data timestamp metadata time)
      fun sent => Callback (.after sent) false (some metadata) none := by
  have hsending : Local cfg (Sending metadata none) := local_sending _ _
  refine .bind (Q := fun _ => Sending metadata none) (render_atomic hsending (fun _ => hsending)
    fun s _ h => ⟨.sendUnit timestamp metadata h.1.sending, h⟩) fun _ => ?_
  refine .ite (fun _ => ?_) fun _ => ?_
  · refine (encoderFailure_triple.pre fun _ h => h.1).post ?_
    rintro sent s ⟨rfl, h⟩
    exact h
  refine (fun hrtp => .ite (fun _ => .bind (acknowledgeKeyframe_triple metadata time) fun _ => hrtp)
    fun _ => hrtp) ?_
  generalize (splitAnnexB data).any isIDR = keyframe
  refine .bind (enqueueROSAccessUnit_triple rfl) fun _ => ?_
  have hactive : ∀ active, (renderContract cfg).Stable fun s =>
      Sending metadata none s ∧ s.nat.desiredActive = active :=
    fun active => hsending.stable.and (.of_eq (fun _ _ h => RenderRely.desiredActive h)
      (· = active))
  refine .bind (render_read hsending.stable hactive fun _ _ h => ⟨h, rfl⟩) fun active =>
    .ite (fun _ => ?_) fun hsend => ?_
  · exact .ret (hactive active) fun _ _ h => h.1.1
  have hon : active = true := by
    simp only [Bool.or_eq_true, not_or, Bool.not_eq_true, Bool.not_eq_false'] at hsend
    exact hsend.1
  obtain ⟨packets, hpackets⟩ := Option.ne_none_iff_exists'.mp
    (packetize_ne_none timestamp (splitAnnexB data) [])
  rw [hpackets]
  refine render_step (hactive active) (fun _ => (Local.callback _ _ _ _).stable) fun s _ h => ?_
  have hstep : RenderStep cfg (.enqueueRTP packets keyframe) s
      (s.enqueueRTP cfg packets keyframe) :=
    .enqueueRTP packets keyframe (h.2.trans hon) h.1.1.stage
  have hpost := @Callback.enqueueRTP cfg _ _ h.1.1 packets keyframe
  rw [enqueueRTP_eq] at hstep hpost
  exact ⟨hstep, hpost⟩

/-! ## a frame -/

theorem resetEncoder_triple :
    (renderContract cfg).Triple (Idle .rendering) (resetEncoder cfg) fun sent => Idle (.after sent) := by
  have hfailed : Local cfg (Idle .broken) := local_idle .broken
  refine .bind (Q := fun _ => Idle .broken) (render_atomic (local_idle .rendering)
    (fun _ => hfailed) fun s _ h => ⟨.encoderFailed h.stage, h.encoderFailed⟩) fun _ => ?_
  refine .bind (render_rest clearRTPQueue_restful hfailed) fun _ => ?_
  refine .bind ((beginROSEpoch_triple hfailed (fun _ cause h => h.beginEpoch cause) _).post
    fun _ _ h => h.1) fun _ => ?_
  refine .bind (render_rest storeForceKeyframe_restful hfailed) fun _ => ?_
  refine .bind ((destroyEncoder_triple destroys_broken).post fun _ _ h => h.1) fun _ => ?_
  exact .ret hfailed.stable fun _ _ h => h.weaken FrameStage.Fits.failed

theorem countFrame_triple (stage : FrameStage) (sending : Option PendingEncodedFrame) :
    (renderContract cfg).Triple (Callback stage false sending none) countFrame
      fun _ => Idle stage :=
  render_atomic (.callback _ _ _ _) (fun _ => local_idle stage) fun _ _ h =>
    ⟨.countFrame, h.withEnc rfl rfl rfl⟩

abbrev Live (s : State) : Prop := Idle .rendering s ∧ s.enc.session ≠ none

theorem local_live : Local cfg Live := (local_idle .rendering).and (.enc (·.session ≠ none))

theorem takePending_triple (timestamp : Nat) :
    (renderContract cfg).Triple Live (takePendingEncodedFrame timestamp) fun found s =>
      Callback .rendering false found none s ∧ s.enc.session ≠ none :=
  render_atomic local_live (fun _ => (Local.callback _ _ _ _).and (.enc (·.session ≠ none)))
    fun _ _ h => ⟨.takeOutput timestamp, h.1.withEnc rfl rfl rfl, h.2⟩

theorem finishFrame_triple (time : Int) (outcome : EncodeOutcome) :
    (renderContract cfg).Triple Live (finishFrame cfg time outcome) fun sent => Idle (.after sent) := by
  cases outcome with
  | error => exact resetEncoder_triple.pre fun _ h => h.1
  | lockFailed => exact resetEncoder_triple.pre fun _ h => h.1
  | output timestamp bitstream =>
    refine .bind (takePending_triple timestamp) fun found => ?_
    cases found with
    | none => exact resetEncoder_triple.pre fun _ h => h.1
    | some metadata =>
      refine .bind (sendH264AccessUnit_triple bitstream _ metadata time) fun sent => ?_
      refine .bind (countFrame_triple _ _) fun _ => ?_
      exact .ret (local_idle _).stable fun _ _ h => h
  | needMoreInput =>
    refine .bind (render_look local_live.stable) fun count => .ite (fun _ => ?_) fun _ => ?_
    · exact resetEncoder_triple.pre fun _ h => h.1
    · refine .bind ((countFrame_triple .rendering none).pre fun _ h => h.1) fun _ => ?_
      exact .ret (local_idle _).stable fun _ _ h => h

theorem failedFrame_triple :
    (renderContract cfg).Triple (Idle .rendering) encoderFailure fun sent => Idle (.after sent) := by
  refine encoderFailure_triple.post ?_
  rintro sent s ⟨rfl, h⟩
  exact h

theorem encodeRenderedFrame_triple (input : RenderInput) :
    (renderContract cfg).Triple (Idle .rendering) (encodeRenderedFrame cfg input)
      fun sent => Idle (.after sent) := by
  refine .ite (fun _ => failedFrame_triple) fun _ => ?_
  refine .bind (observeSourceTime_triple _) fun _ => ?_
  refine .bind (ensureEncoder_triple _ _ _ _) fun ready => ?_
  cases ready with
  | false => exact .ret (local_idle .failed).stable fun _ _ h => h
  | true =>
    have hencoding : Local cfg (Encoding input.sourceTimeNanoseconds) := local_encoding _
    refine Triple.pre (P := Encoding input.sourceTimeNanoseconds) ?_ fun _ h => h
    refine .ite (fun hnot => by cases hnot) fun _ => ?_
    refine .ite (fun _ => failedFrame_triple.pre fun _ h => h.1) fun _ => ?_
    refine .bind (render_rest (restful_access fun s => .takeForced) hencoding) fun forced => ?_
    have hsubmit : ∀ generation, (renderContract cfg).Triple
        (Encoding input.sourceTimeNanoseconds) (do
          write (fun s => { s with
            enc.pendingEncodedFrames := s.enc.pendingEncodedFrames ++
              [s.newPending cfg input.sourceTimeNanoseconds forced generation]
            enc.sourceFrameSequence := s.enc.sourceFrameSequence + 1 })
          finishFrame cfg input.sourceTimeNanoseconds input.outcome)
        fun sent => Idle (.after sent) := fun generation => by
      refine .bind (Q := fun _ => Live) (render_atomic hencoding (fun _ => local_live)
        fun s _ h => ?_) fun _ => finishFrame_triple _ _
      obtain ⟨hidle, session, hready, htimed⟩ := h
      exact ⟨.submit _ hready htimed, hidle.withEnc hidle.sending rfl rfl,
        fun hnone => by cases hready.live.symm.trans hnone⟩
    exact .ite (fun _ => .bind (render_look hencoding.stable) hsubmit)
      fun _ => .bind (.ret hencoding.stable fun _ _ h => h) hsubmit

/-! ## postRenderTargetUpdate -/

theorem encodeForDemand_triple (input : RenderInput) :
    (renderContract cfg).Triple (Idle .rendering) (encodeForDemand cfg input) fun _ => Idle .quiet := by
  have hquiet : ∀ s, Idle .rendering s → Idle .quiet s := fun _ h => h.weaken FrameStage.Fits.quiet
  have hidle : Local cfg (Idle .rendering) := local_idle .rendering
  have hloc : ∀ r, Local cfg fun s => Idle .rendering s ∧ s.nat.awaitingNativeControl = r :=
    fun r => hidle.and (.awaiting (· = r))
  have hskip : ∀ r, (renderContract cfg).Triple
      (fun s => Idle .rendering s ∧ s.nat.awaitingNativeControl = r) (pure ())
      fun _ => Idle .quiet := fun r => .ret (hloc r).stable fun s _ h => hquiet s h.1
  refine .bind (rosRenderIsFresh_triple _) fun fresh => .ite (fun _ => ?_)
    fun _ => .ret hidle.stable fun s _ h => hquiet s h
  refine .bind (encodeRenderedFrame_triple input) fun sent => ?_
  cases sent with
  | false => exact failNativeEncoderTransition_triple
  | true =>
    refine .bind (render_read hidle.stable (fun r => (hloc r).stable) fun _ _ h => ⟨h, rfl⟩)
      fun awaiting => ?_
    cases awaiting with
    | none => exact hskip none
    | some command =>
      refine .ite (fun hkind => ((completeNativeControl_triple hidle
        (fun _ revision h => h.acknowledge revision) command _).pre fun s h =>
          ⟨h.1, h.2, fun hstop => ?_⟩).post fun _ s h => hquiet s h) fun _ => hskip _
      exact absurd (hkind.symm.trans hstop) (by simp)

theorem rendered_callback {s : State} (hI : Books cfg s) (view : RenderedView) :
    Rendered view (s.beginRender view) where
  callback := List.mem_cons_self
  passed generation index hpassed := by
    rcases List.mem_cons.mp hpassed with e | hpassed
    · cases e
    · exact Nat.lt_succ_of_le (hI.captures.within _ hpassed index rfl)

theorem postRenderTargetUpdate_triple (input : RenderInput) :
    (renderContract cfg).Triple (Idle .quiet) (postRenderTargetUpdate cfg input)
      fun _ => Idle .quiet := by
  have hidle : Local cfg (Idle .rendering) := local_idle .rendering
  have hrendered : (renderContract cfg).Stable fun s =>
      Idle .rendering s ∧ Rendered input.capture.view s := hidle.stable.and (stable_rendered _)
  have hskip : (renderContract cfg).Triple (fun s => Idle .rendering s ∧ Rendered input.capture.view s)
      (pure ()) fun _ => Idle .quiet :=
    .ret hrendered fun _ _ h => h.1.weaken FrameStage.Fits.quiet
  refine .bind (Q := fun _ s => Idle .rendering s ∧ Rendered input.capture.view s)
    (render_step (local_idle .quiet).stable (fun _ => hrendered) fun s hI h =>
      ⟨.beginRender _, h.keep rfl h.failing rfl rfl rfl rfl fun _ => rfl, rendered_callback hI _⟩)
    fun _ => ?_
  refine .bind (render_reading wantsEncode_reading hrendered) fun shouldEncode => ?_
  refine .bind (Q := fun _ s => Idle .rendering s ∧ Rendered input.capture.view s)
    (render_step hrendered (fun _ => hrendered) fun s _ h =>
      ⟨.rest (.cleanup _), hidle.rest _ s _ (.cleanup _) h.1, h.2.callback, h.2.passed⟩)
    fun cleanup => ?_
  have hencode : (renderContract cfg).Triple (Idle .rendering)
      (if shouldEncode then encodeForDemand cfg input else pure ()) fun _ => Idle .quiet :=
    .ite (fun _ => encodeForDemand_triple input)
      fun _ => .ret hidle.stable fun _ _ h => h.weaken FrameStage.Fits.quiet
  have hidleBranch : ∀ idle : Bool, (renderContract cfg).Triple
      (fun s => Idle .rendering s ∧ Rendered input.capture.view s) (do
      if idle then destroyEncoder
      else if ← wantsRender shouldEncode then
        if ← snapshotNeedsRender then captureSnapshot input.capture
        if shouldEncode then encodeForDemand cfg input) fun _ => Idle .quiet := by
    refine fun idle => .ite (fun _ => ((destroyEncoder_triple destroys_rendering).pre
      fun _ h => h.1).post fun _ _ h => h.1.weaken FrameStage.Fits.quiet) fun _ => ?_
    refine .bind (render_reading (wantsRender_reading _) hrendered) fun _ => .ite (fun _ => ?_)
      fun _ => hskip
    refine .bind (render_reading snapshotNeedsRender_reading hrendered) fun _ => .ite (fun _ => ?_)
      fun _ => hencode.pre fun _ h => h.1
    exact .bind (captureSnapshot_triple _) fun _ => hencode
  refine .ite (fun _ => .bind (render_reading (.map snapshotNeedsRender_reading) hrendered)
    hidleBranch) fun _ => .bind (Q := fun _ s => Idle .rendering s ∧ Rendered input.capture.view s)
    (.ret hrendered fun _ _ h => h) hidleBranch

theorem render_body (c : RenderCall) :
    (renderContract cfg).Triple (Idle .quiet) (threadBody cfg .render c) fun _ => Idle .quiet := by
  cases c with
  | postRender input => exact onPostRender_triple input
  | renderTarget input => exact postRenderTargetUpdate_triple input

end

end MediaCamera
