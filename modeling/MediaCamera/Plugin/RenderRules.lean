import MediaCamera.Plugin.Books

/-!
# The rules of the render thread

The render thread relies on `RenderRely` and guarantees `RenderStep`.  Two kinds of assertions are
used on it:

* a stable one, which the other threads do not invalidate;
* `Local cfg P`    a stable one that the thread's own `RenderRest` steps keep too; programs of such
                   steps are `Restful` and need no proof of their own.

`Callback` is where the thread stands between two steps of a callback.
-/

namespace MediaCamera

open Contract

/-! ## the contract -/

def renderContract (cfg : PluginConfig) : Contract (Books cfg) fun (_ : Label) _ => True where
  rely := RenderRely
  guar := RenderStep cfg
  rely_refl := RenderRely.refl
  rely_trans := RenderRely.trans

/-- the render thread alone can make the assertion false, and its `rest` steps do not -/
structure Local (cfg : PluginConfig) (P : State → Prop) : Prop where
  stable : (renderContract cfg).Stable P
  rest : ∀ l s s', RenderRest l s s' → P s → P s'

/-! ## local assertions -/

/-- no frame of the present epoch is enqueued -/
def State.EpochEmpty (s : State) : Prop :=
  ∀ p ∈ s.enqueued, p.1.epochIndex < s.ros.branch.epochIndex

/-- how far the frame of a render-target callback is -/
inductive FrameStage where
  /-- no frame has failed that `FailNativeEncoderTransition` has not seen -/
  | quiet
  /-- the callback has begun, and its frame has not failed -/
  | rendering
  /-- the frame failed in the texture, GL or NVENC path -/
  | broken
  /-- the frame failed, or its access unit was refused -/
  | failed
  /-- `FailNativeEncoderTransition` has faulted the lifecycle -/
  | faulted

def FrameStage.Fits : FrameStage → Option Event → Prop
  | .quiet, mark => markFails mark = false
  | .rendering, mark => mark = some .rendering
  | .broken, mark => mark = some .encoderFailed
  | .failed, mark => markFails mark = true
  | .faulted, mark => ∃ revision, mark = some (.faulted revision)

/-- the render thread inside a callback: the stage of the frame, whether
`FailNativeEncoderTransition` stands between two stores, the metadata of a running
`SendH264AccessUnit` and the access unit of a running `EnqueueROSAccessUnit` -/
structure Callback (stage : FrameStage) (failing : Bool) (sending : Option PendingEncodedFrame)
    (unit : Option AccessUnit) (s : State) : Prop where
  stage : stage.Fits s.mark
  failing : s.nat.failing = failing
  sending : s.enc.sending = sending
  unit : s.ros.enqueuing = unit
  ready : ∀ session, s.enc.session = some session → s.EncoderReady session
  resources : s.enc.session ≠ none → s.flags.encoderResourcesActive = true

/-- the callback between two accesses -/
abbrev Idle (stage : FrameStage) (s : State) : Prop := Callback stage false none none s

section
variable {cfg : PluginConfig} {s s' : State}

theorem RenderRely.renderLog (h : RenderRely s s') : s'.renderLog = s.renderLog := by
  obtain ⟨new, hlog, hnew⟩ := h.log
  have hnone : new.filter (!·.byExecutor) = [] := by
    refine List.filter_eq_nil_iff.mpr fun e he => ?_
    simp [hnew e he]
  simp only [State.renderLog, hlog, List.filter_append, hnone, List.nil_append]

theorem RenderRely.mark (h : RenderRely s s') : s'.mark = s.mark := by
  simp only [State.mark, h.renderLog]

theorem RenderRely.failureOpen (h : RenderRely s s') : s'.failureOpen = s.failureOpen := by
  simp only [State.failureOpen, h.mark]

theorem FrameStage.Fits.quiet {mark : Option Event} (h : FrameStage.rendering.Fits mark) :
    FrameStage.quiet.Fits mark := by
  obtain rfl : mark = some .rendering := h
  rfl

theorem FrameStage.Fits.failed {mark : Option Event} (h : FrameStage.broken.Fits mark) :
    FrameStage.failed.Fits mark := by
  obtain rfl : mark = some .encoderFailed := h
  rfl

theorem FrameStage.Fits.seen {mark : Option Event} (h : FrameStage.faulted.Fits mark) :
    FrameStage.quiet.Fits mark := by
  obtain ⟨revision, rfl⟩ := h
  rfl

theorem RenderRely.present (h : RenderRely s s') {e : Event} (he : e ∈ presentEvents s.log) :
    e ∈ presentEvents s'.log := by
  obtain ⟨new, hlog, hnew⟩ := h.log
  have hall : ∀ e ∈ new, (!e.begins) = true := by
    intro e hmem
    have hby := hnew e hmem
    cases e <;> first | rfl | cases hby
  rw [presentEvents, hlog, List.takeWhile_append_of_pos hall]
  exact List.mem_append_right _ he

theorem RenderRely.sessionEpoch (h : RenderRely s s') {index : Nat} (hs : s.SessionEpoch index) :
    s'.SessionEpoch index := by
  intro p hp
  rw [h.enqueued] at hp
  exact (hs p hp).imp_left (Nat.lt_of_lt_of_le · h.epoch)

theorem RenderRely.ready (h : RenderRely s s') {session : EncoderSession}
    (hs : s.EncoderReady session) : s'.EncoderReady session where
  live := by rw [h.enc]; exact hs.live
  initialized := by rw [h.enc]; exact hs.initialized
  epoch := h.sessionEpoch hs.epoch

/-- `rest` steps record nothing and leave the encoder and the ROS branch alone -/
theorem RenderRest.same {l : Label} (hs : RenderRest l s s') : s'.log = s.log ∧ s'.enc = s.enc ∧
    s'.ros = s.ros ∧ s'.nat.awaitingNativeControl = s.nat.awaitingNativeControl ∧
    s'.nat.failing = s.nat.failing := by
  cases hs <;> exact ⟨rfl, rfl, rfl, rfl, rfl⟩

theorem Local.and {P P' : State → Prop} (h : Local cfg P) (h' : Local cfg P') :
    Local cfg fun s => P s ∧ P' s :=
  ⟨h.stable.and h'.stable, fun l s s' hs hP => ⟨h.rest l s s' hs hP.1, h'.rest l s s' hs hP.2⟩⟩

theorem Local.imp {P : State → Prop} (p : Prop) (h : Local cfg P) : Local cfg fun s => p → P s :=
  ⟨fun s s' hr hI hP hp => h.stable s s' hr hI (hP hp),
    fun l s s' hs hP hp => h.rest l s s' hs (hP hp)⟩

theorem Local.of_eq {τ : Type} {v : State → τ} (hv : ∀ s s', RenderRely s s' → v s' = v s)
    (hrest : ∀ l s s', RenderRest l s s' → v s' = v s) (P : τ → Prop) :
    Local cfg fun s => P (v s) := by
  refine ⟨.of_eq hv P, fun l s s' hs hP => ?_⟩
  show P (v s')
  rw [hrest l s s' hs]
  exact hP

theorem Local.mark (P : Option Event → Prop) : Local cfg fun s => P s.mark :=
  .of_eq (fun _ _ h => RenderRely.mark h)
    (fun _ _ _ h => by simp only [State.mark, State.renderLog, h.same.1]) P

theorem Local.enc (P : Encoder → Prop) : Local cfg fun s => P s.enc :=
  .of_eq (fun _ _ h => RenderRely.enc h) (fun _ _ _ h => h.same.2.1) P

theorem Local.awaiting (P : Option NativeControlCommand → Prop) :
    Local cfg fun s => P s.nat.awaitingNativeControl :=
  .of_eq (fun _ _ h => RenderRely.awaiting h) (fun _ _ _ h => h.same.2.2.2.1) P

theorem Local.present (e : Event) : Local cfg (e ∈ presentEvents ·.log) := by
  refine ⟨fun _ _ h _ he => RenderRely.present h he, fun l s s' hs hP => ?_⟩
  rw [hs.same.1]
  exact hP

theorem RenderRest.enqueued {l : Label} (hs : RenderRest l s s') : s'.enqueued = s.enqueued := by
  simp only [State.enqueued, hs.same.1]

theorem Local.epochEmpty : Local cfg State.EpochEmpty := by
  refine ⟨fun s s' h _ hs p hp => ?_, fun l s s' hs hP p hp => ?_⟩
  · rw [RenderRely.enqueued h] at hp
    exact Nat.lt_of_lt_of_le (hs p hp) (RenderRely.epoch h)
  · rw [hs.enqueued] at hp
    rw [hs.same.2.2.1]
    exact hP p hp

theorem Local.ready (session : EncoderSession) : Local cfg (·.EncoderReady session) := by
  refine ⟨fun _ _ h _ hs => RenderRely.ready h hs, fun l s s' hs hP => ⟨?_, ?_, fun p hp => ?_⟩⟩
  · rw [hs.same.2.1]; exact hP.live
  · rw [hs.same.2.1]; exact hP.initialized
  · rw [hs.enqueued] at hp
    rw [hs.same.2.2.1]
    exact hP.epoch p hp

theorem Local.drained : Local cfg State.Drained := by
  refine ⟨fun s s' h _ hs => ?_, fun l s s' hs hP => ?_⟩
  · obtain ⟨hqueue, hflight⟩ := RenderRely.drained h hs.queue hs.flight
    refine ⟨hqueue, hflight, ?_⟩
    rw [RenderRely.view h, RenderRely.enc h]
    exact hs.encoder
  · obtain ⟨hqueue, hflight, hencoder⟩ := hP
    cases hs with
    | clearRTP => exact ⟨rfl, hflight, hencoder⟩
    | view view hsequence hcheck =>
      refine ⟨hqueue, hflight, hencoder.imp_left fun h => ?_⟩
      exact hcheck.trans h
    | _ => exact ⟨hqueue, hflight, hencoder⟩

/-! ## a step inside a callback -/

variable {stage : FrameStage} {failing : Bool} {sending : Option PendingEncodedFrame}
  {unit : Option AccessUnit}

theorem Callback.keep (h : Callback stage failing sending unit s) {stage' : FrameStage}
    {failing' : Bool} (hstage : stage'.Fits s'.mark) (hfailing : s'.nat.failing = failing')
    (henc : s'.enc = s.enc) (hunit : s'.ros.enqueuing = s.ros.enqueuing)
    (hepoch : s'.ros.branch.epochIndex = s.ros.branch.epochIndex)
    (henqueued : s'.enqueued = s.enqueued)
    (hresources : s.enc.session ≠ none →
      s'.flags.encoderResourcesActive = s.flags.encoderResourcesActive) :
    Callback stage' failing' sending unit s' := by
  refine ⟨hstage, hfailing, by rw [henc]; exact h.sending, hunit.trans h.unit,
    fun session hlive => ?_, fun hlive => ?_⟩
  · rw [henc] at hlive
    have hready := h.ready session hlive
    refine ⟨by rw [henc]; exact hready.live, by rw [henc]; exact hready.initialized, fun p hp => ?_⟩
    rw [henqueued] at hp
    rw [hepoch]
    exact hready.epoch p hp
  · rw [henc] at hlive
    exact (hresources hlive).trans (h.resources hlive)

theorem Callback.withRos (h : Callback stage failing sending unit s) {ros : RosState}
    {unit' : Option AccessUnit} (hunit : ros.enqueuing = unit')
    (hepoch : s.ros.branch.epochIndex ≤ ros.branch.epochIndex) :
    Callback stage failing sending unit' { s with ros := ros } := by
  refine ⟨h.stage, h.failing, h.sending, hunit, fun session hlive => ?_, h.resources⟩
  have hready := h.ready session hlive
  exact ⟨hlive, hready.initialized,
    fun p hp => (hready.epoch p hp).imp_left (Nat.lt_of_lt_of_le · hepoch)⟩

theorem Callback.withEnc (h : Callback stage failing sending unit s) {enc : Encoder}
    {sending' : Option PendingEncodedFrame} (hsending : enc.sending = sending')
    (hsession : enc.session = s.enc.session)
    (hinitialized : enc.encoderEverInitialized = s.enc.encoderEverInitialized) :
    Callback stage failing sending' unit { s with enc := enc } := by
  refine ⟨h.stage, h.failing, hsending, h.unit, fun session hlive => ?_, fun hlive => ?_⟩
  · have hready := h.ready session (hsession.symm.trans hlive)
    exact ⟨hlive, hinitialized.trans hready.initialized, hready.epoch⟩
  · have hlive : enc.session ≠ none := hlive
    rw [hsession] at hlive
    exact h.resources hlive

theorem Callback.acknowledge (h : Callback stage failing sending unit s) (revision : Nat) :
    Callback stage failing sending unit (s.acknowledge revision) :=
  h.keep h.stage h.failing rfl rfl rfl rfl fun _ => rfl

theorem Callback.encoderFailed (h : Callback stage failing sending unit s) :
    Callback .broken failing sending unit s.encoderFailed :=
  h.keep rfl h.failing rfl rfl rfl rfl fun _ => rfl

theorem Callback.weaken (h : Callback stage failing sending unit s) {stage' : FrameStage}
    (hstage : stage.Fits s.mark → stage'.Fits s.mark) : Callback stage' failing sending unit s :=
  { h with stage := hstage h.stage }

theorem Local.callback (stage : FrameStage) (failing : Bool) (sending : Option PendingEncodedFrame)
    (unit : Option AccessUnit) : Local cfg (Callback stage failing sending unit) := by
  refine ⟨fun s s' h hI hs => ?_, fun l s s' hs hP => ?_⟩
  · refine ⟨(RenderRely.mark h).symm ▸ hs.stage, (RenderRely.failing h).trans hs.failing,
      ?_, (RenderRely.enqueuing h).trans hs.unit, fun session hlive => ?_, fun hlive => ?_⟩
    · rw [RenderRely.enc h]; exact hs.sending
    · rw [RenderRely.enc h] at hlive; exact RenderRely.ready h (hs.ready session hlive)
    · rw [RenderRely.enc h] at hlive
      exact (RenderRely.resources h).trans (hs.resources hlive)
  · obtain ⟨hlog, henc, hros, _, hfailing⟩ := hs.same
    have hmark : s'.mark = s.mark := by simp only [State.mark, State.renderLog, hlog]
    refine hP.keep (hmark.symm ▸ hP.stage) (hfailing.trans hP.failing) henc (by rw [hros])
      (by rw [hros]) hs.enqueued fun hlive => ?_
    · cases hs with
      | resources => exact (hP.resources hlive).symm
      | _ => rfl

theorem local_idle (stage : FrameStage) : Local cfg (Idle stage) := .callback stage false none none

end

/-! ## the rules -/

abbrev Restful {α : Type} (p : Thread α) : Prop := p.Within RenderRest

abbrev Reading {α : Type} (p : Thread α) : Prop := p.Within fun l s s' => l = .step ∧ s' = s

section
variable {cfg : PluginConfig} {α : Type} {P : State → Prop}

theorem render_step {Q : α → State → Prop} {l : Label} {f : State → State × α}
    (hP : (renderContract cfg).Stable P) (hQ : ∀ a, (renderContract cfg).Stable (Q a))
    (h : ∀ s, Books cfg s → P s → RenderStep cfg l s (f s).1 ∧ Q (f s).2 (f s).1) :
    (renderContract cfg).Triple P (.atomic l f) Q :=
  .atomic hP hQ fun s hI hPs _ =>
    ⟨hI.renderStep (h s hI hPs).1, (h s hI hPs).1, (h s hI hPs).2⟩

theorem render_atomic {Q : α → State → Prop} {l : Label} {f : State → State × α}
    (hP : Local cfg P) (hQ : ∀ a, Local cfg (Q a))
    (h : ∀ s, Books cfg s → P s → RenderStep cfg l s (f s).1 ∧ Q (f s).2 (f s).1) :
    (renderContract cfg).Triple P (.atomic l f) Q :=
  render_step hP.stable (fun a => (hQ a).stable) h

theorem render_read {Q : α → State → Prop} {f : State → α} (hP : (renderContract cfg).Stable P)
    (hQ : ∀ a, (renderContract cfg).Stable (Q a)) (h : ∀ s, Books cfg s → P s → Q (f s) s) :
    (renderContract cfg).Triple P (read f) Q :=
  render_step hP hQ fun s hI hPs => ⟨.rest .look, h s hI hPs⟩

theorem render_look {f : State → α} (hP : (renderContract cfg).Stable P) :
    (renderContract cfg).Triple P (read f) fun _ => P :=
  render_read hP (fun _ => hP) fun _ _ hPs => hPs

theorem render_rest {p : Thread α} (hp : Restful p) (hP : Local cfg P) :
    (renderContract cfg).Triple P p fun _ => P := by
  refine hp.triple (fun l s s' hs hI => ?_) (fun l s s' hs => ?_) hP.stable hP.rest
  · exact hI.renderStep (show RenderStep cfg l s s' from .rest hs)
  · exact .rest hs

theorem render_reading {p : Thread α} (hp : Reading p) (hP : (renderContract cfg).Stable P) :
    (renderContract cfg).Triple P p fun _ => P := by
  refine hp.triple (fun l s s' hs hI => ?_) (fun l s s' hs => ?_) hP fun l s s' hs hPs => ?_
  · rw [hs.2]; exact hI
  · rw [hs.1, hs.2]; exact .rest .look
  · rw [hs.2]; exact hPs

/-! ## programs of reads and `rest` steps -/

theorem reading_read {f : State → α} : Reading (read f) := .atomic fun _ => ⟨rfl, rfl⟩

theorem Reading.restful {p : Thread α} (h : Reading p) : Restful p :=
  h.mono fun l s s' hs => by rw [hs.1, hs.2]; exact .look

theorem restful_access {f : State → State × α} (h : ∀ s, RenderRest .step s (f s).1) :
    Restful (access f) := .atomic h

theorem snapshotNeedsRender_reading : Reading snapshotNeedsRender :=
  .bind reading_read fun _ => .ite (.ret _) reading_read

theorem wantsEncode_reading : Reading wantsEncode :=
  .bind reading_read fun _ => .ite (.ret _) reading_read

theorem wantsRender_reading (shouldEncode : Bool) : Reading (wantsRender shouldEncode) :=
  .ite (.ret _) snapshotNeedsRender_reading

theorem storeForceKeyframe_restful : Restful storeForceKeyframe :=
  restful_access fun _ => .forceKeyframe

theorem clearRTPQueue_restful : Restful clearRTPQueue := restful_access fun _ => .clearRTP

theorem setSensorActive_restful (active : Bool) : Restful (setSensorActive active) :=
  restful_access fun _ => .view _ rfl rfl

theorem storeSensorActive_restful : Restful storeSensorActive :=
  restful_access fun _ => .sensorActive _

theorem driveSensor_restful (shouldEncode : Bool) : Restful (driveSensor shouldEncode) := by
  refine .bind (wantsRender_reading _).restful fun _ => .ite (setSensorActive_restful _) ?_
  refine .bind reading_read.restful fun _ => .ite ?_ (setSensorActive_restful _)
  exact .bind (restful_access fun _ => .cleanup _) fun _ => setSensorActive_restful _

theorem releaseSensor_restful : Restful releaseSensor :=
  .bind reading_read.restful fun _ => .ite (.bind snapshotNeedsRender_reading.restful fun _ =>
    .ite (setSensorActive_restful _) (.ret _)) (.ret _)

end

end MediaCamera
