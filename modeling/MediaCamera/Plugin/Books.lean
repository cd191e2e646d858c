import MediaCamera.Plugin.Refinement

/-!
# What the threads keep in common

The facts that a thread may use about the state whatever the others do, kept by every effect:

* `ReplyBook`    every reply handle is open in one place, or answered, and then once;
* `NativeBook`   the two revision atomics tell of recorded events;
* `RosBook`      the published revision was published, and the frames of the present epoch are
                 counted;
* `SlotBook`     the source holds the reservation from its admission to its release, and without it
                 nobody works for a capture;
* `HaltBook`     while the stream is stopped, nothing is queued for it and no command restarts it but
                 a start.

`Books` collects them, with the invariants of the handoff and of the captures.
-/

namespace MediaCamera

open scoped List

/-! ## replies -/

structure ReplyBook (s : State) : Prop where
  once : ∀ handle, s.uses handle ≤ 1
  below : ∀ handle, s.ctl.nextReply ≤ handle → s.uses handle = 0

/-- a step that only drops or moves handles -/
theorem ReplyBook.drop {s s' : State} (h : ReplyBook s)
    (huses : ∀ handle, s'.uses handle ≤ s.uses handle)
    (hnext : s'.ctl.nextReply = s.ctl.nextReply) : ReplyBook s' where
  once handle := (huses handle).trans (h.once handle)
  below handle hle := by
    have := huses handle
    have := h.below handle (by omega)
    omega

/-- a step that puts a fresh handle into the book -/
theorem ReplyBook.add {s s' : State} (h : ReplyBook s) {handle : Nat} (hfresh : s.Fresh handle)
    (huses : ∀ handle', s'.uses handle' ≤ s.uses handle' + [handle].count handle')
    (hnext : s'.ctl.nextReply = s.ctl.nextReply) : ReplyBook s' where
  once handle' := by
    have h' := huses handle'
    by_cases e : handle = handle'
    · subst e
      have := hfresh.2
      simp at h'
      omega
    · have := h.once handle'
      simp [e] at h'
      omega
  below handle' hle := by
    have h' := huses handle'
    have := hfresh.1
    have e : handle ≠ handle' := by omega
    have := h.below handle' (by omega)
    simp [e] at h'
    omega

theorem ReplyBook.congr {s s' : State} (h : ReplyBook s) (hopen : s'.openReplies = s.openReplies)
    (hreplied : s'.replied = s.replied) (hnext : s'.ctl.nextReply = s.ctl.nextReply) :
    ReplyBook s' :=
  h.drop (fun handle => by simp only [State.uses, hopen, hreplied, le_refl]) hnext

theorem ReplyBook.request {s : State} (h : ReplyBook s) :
    ReplyBook { s with ctl.nextReply := s.ctl.nextReply + 1 } where
  once := h.once
  below handle hle := h.below handle (Nat.le_of_succ_le hle)

theorem ReplyBook.fresh {s : State} (h : ReplyBook s) :
    State.Fresh { s with ctl.nextReply := s.ctl.nextReply + 1 } s.ctl.nextReply :=
  ⟨Nat.lt_succ_self _, h.below _ le_rfl⟩

theorem Executor.watch_replies {watcher : ControlWatcher} {l l' : List (Option ControlWatcher)}
    (h : watch watcher l = some l') :
    l'.filterMap (·.map (·.reply)) ~ watcher.reply :: l.filterMap (·.map (·.reply)) := by
  induction l generalizing l' with
  | nil => simp [watch] at h
  | cons slot l ih =>
    cases slot with
    | none =>
      obtain rfl : some watcher :: l = l' := by simpa [watch] using h
      simp
    | some w =>
      obtain ⟨rest, hrest, rfl⟩ : ∃ rest, watch watcher l = some rest ∧ some w :: rest = l' := by
        simpa [watch] using h
      simpa using ((ih hrest).cons w.reply).trans (.swap _ _ _)

theorem watchers_end {watcher : ControlWatcher} {l : List (Option ControlWatcher)} {i : Nat}
    (h : l.getD i none = some watcher) :
    l.filterMap (·.map (·.reply)) ~ watcher.reply :: (l.set i none).filterMap (·.map (·.reply)) := by
  induction l generalizing i with
  | nil => simp at h
  | cons slot l ih =>
    cases i with
    | zero =>
      obtain rfl : slot = some watcher := by simpa using h
      simp
    | succ i =>
      have ih := ih (show l.getD i none = some watcher by simpa using h)
      cases slot with
      | none => simpa using ih
      | some w => simpa using (ih.cons w.reply).trans (.swap _ _ _)

theorem ReplyBook.executorStep {cfg : PluginConfig} {l : Label} {s s' : State} (h : ReplyBook s)
    (hs : ExecutorStep cfg l s s') : ReplyBook s' := by
  cases hs with
  | look | spare | reserve | openSnapshot | demandKeyframe | forceKeyframe | applyConfiguration
  | flushCapture | release | freeSlot => exact h.congr rfl rfl rfl
  | request => exact h.request
  | reply response hfresh =>
    refine h.add hfresh (fun handle => ?_) rfl
    simp [State.uses, State.replied, State.openReplies, Event.reply?, List.count_cons]
    omega
  | @watch _ watcher watchers hw hfresh =>
    refine h.add hfresh (fun handle => ?_) rfl
    have hcount := (Executor.watch_replies hw).count_eq handle
    simp [State.uses, State.replied, State.openReplies, List.count_cons] at hcount ⊢
    omega
  | openCapture id deadline hfresh =>
    refine h.add hfresh (fun handle => ?_) rfl
    simp [State.uses, State.replied, State.openReplies, List.count_cons]
    omega
  | admission hfresh hnone =>
    refine h.add hfresh (fun handle => ?_) rfl
    simp [State.uses, State.replied, State.openReplies, State.admitMutation, Event.reply?, hnone,
      List.count_cons]
    omega
  | failPending hpending =>
    refine h.drop (fun handle => ?_) rfl
    simp [State.uses, State.replied, State.openReplies, State.failPending, Executor.remember,
      Event.reply?, hpending, List.count_cons]
    omega
  | completePending time hpending =>
    refine h.drop (fun handle => ?_) rfl
    simp [State.uses, State.replied, State.openReplies, State.completePending, Executor.remember,
      Event.reply?, hpending, List.count_cons]
  | expirePending hpending =>
    refine h.drop (fun handle => ?_) rfl
    simp [State.uses, State.replied, State.openReplies, State.failPending, Executor.remember,
      Event.reply?, hpending, List.count_cons]
    omega
  | answerCapture response hcapture =>
    refine h.drop (fun handle => ?_) rfl
    simp [State.uses, State.replied, State.openReplies, State.answerCapture, Executor.remember,
      Event.reply?, hcapture, List.count_cons]
    omega
  | endWatcher hwatcher hanswer =>
    refine h.drop (fun handle => ?_) rfl
    have hcount := (watchers_end hwatcher).count_eq handle
    rcases hanswer with rfl | ⟨response, rfl, _⟩
    all_goals
      simp [State.uses, State.replied, State.openReplies, State.endWatcher, Event.reply?,
        List.count_cons] at hcount ⊢
      omega

theorem ExecutorRely.replied {s s' : State} (h : ExecutorRely s s') : s'.replied = s.replied := by
  obtain ⟨new, hlog, hnew⟩ := h.log
  have hnone : new.filterMap (·.reply?) = [] := by
    refine List.filterMap_eq_nil_iff.mpr fun e he => ?_
    have hby := hnew e he
    cases e <;> first | rfl | cases hby
  simp only [State.replied, hlog, List.filterMap_append, hnone, List.nil_append]

theorem ReplyBook.rely {s s' : State} (h : ReplyBook s) (hs : ExecutorRely s s') : ReplyBook s' :=
  h.congr (by simp only [State.openReplies, hs.ctl]) hs.replied (by rw [hs.ctl])

/-! ## revisions -/

structure NativeBook (s : State) : Prop where
  desired : 1 ≤ s.ctl.desiredRevision
  pending : ∀ pending, s.ctl.pendingControl = some pending → 2 ≤ pending.revision
  applied : s.nat.nativeAppliedRevision ≤ 1 ∨ .acknowledged s.nat.nativeAppliedRevision ∈ s.log
  failed : s.nat.nativeFailedRevision = 0 ∨ .nativeFailed s.nat.nativeFailedRevision ∈ s.log

section
variable {cfg : PluginConfig} {l : Label} {s s' : State}

theorem RenderRely.mem (h : RenderRely s s') {e : Event} (he : e ∈ s.log) : e ∈ s'.log := by
  obtain ⟨new, hlog, _⟩ := h.log
  rw [hlog]
  exact List.mem_append_right _ he

theorem ExecutorRely.mem (h : ExecutorRely s s') {e : Event} (he : e ∈ s.log) : e ∈ s'.log := by
  obtain ⟨new, hlog, _⟩ := h.log
  rw [hlog]
  exact List.mem_append_right _ he

theorem NativeBook.keep (h : NativeBook s) (hdesired : 1 ≤ s'.ctl.desiredRevision)
    (hpending : ∀ pending, s'.ctl.pendingControl = some pending → 2 ≤ pending.revision)
    (happlied : s'.nat.nativeAppliedRevision = s.nat.nativeAppliedRevision)
    (hfailed : s'.nat.nativeFailedRevision = s.nat.nativeFailedRevision)
    (hlog : ∀ {e}, e ∈ s.log → e ∈ s'.log) : NativeBook s' where
  desired := hdesired
  pending := hpending
  applied := by rw [happlied]; exact h.applied.imp_right hlog
  failed := by rw [hfailed]; exact h.failed.imp_right hlog

theorem NativeBook.executorStep (h : NativeBook s) (hs : ExecutorStep cfg l s s') :
    NativeBook s' := by
  have hlog : ∀ {e}, e ∈ s.log → e ∈ s'.log := hs.renderRely.mem
  have hfree : ∀ pending : PendingControl, none = some pending → 2 ≤ pending.revision :=
    fun _ hnone => by cases hnone
  cases hs with
  | admission =>
    refine h.keep (Nat.le_add_left 1 _) (fun pending hpending => ?_) rfl rfl hlog
    obtain rfl := Option.some.inj hpending
    exact Nat.succ_le_succ h.desired
  | failPending | completePending | expirePending => exact h.keep h.desired hfree rfl rfl hlog
  | _ => exact h.keep h.desired h.pending rfl rfl hlog

theorem NativeBook.renderStep (h : NativeBook s) (hs : RenderStep cfg l s s') : NativeBook s' := by
  have hlog : ∀ {e}, e ∈ s.log → e ∈ s'.log := hs.executorRely.mem
  cases hs with
  | rest hs => cases hs <;> exact h.keep h.desired h.pending rfl rfl hlog
  | applyConfiguration =>
    exact ⟨h.desired, h.pending, .inr (List.mem_cons_self), h.failed.imp_right hlog⟩
  | acknowledge =>
    exact ⟨h.desired, h.pending, .inr (List.mem_cons_self), h.failed.imp_right hlog⟩
  | failNative =>
    exact ⟨h.desired, h.pending, h.applied.imp_right hlog, .inr (List.mem_cons_self)⟩
  | _ => exact h.keep h.desired h.pending rfl rfl hlog

theorem NativeBook.otherStep (h : NativeBook s) (hs : OtherStep cfg l s s') : NativeBook s' := by
  cases hs with
  | pacer hs => cases hs <;> exact h.keep h.desired h.pending rfl rfl id
  | worker hs => cases hs <;> exact h.keep h.desired h.pending rfl rfl id
  | rosSide side => exact h.keep h.desired h.pending rfl rfl id
  | hostSide side =>
    obtain ⟨reserved, elsewhere, e⟩ := hostSide_eq side s
    rw [e]
    exact h.keep h.desired h.pending rfl rfl id

end

/-! ## the ROS branch -/

structure RosBook (cfg : RosConfig) (s : State) : Prop where
  published : s.ros.publishedCalibrationRevision = 0 ∨
    ∃ calibration ∈ s.ros.cameraInfos, calibration.revision = s.ros.publishedCalibrationRevision
  running : s.ros.branch.rosPublisherStopping = false
  enabled : s.ros.enqueuing ≠ none → cfg.rosPublishingEnabled = true
  disabled : cfg.rosPublishingEnabled = false → s.enqueued = []
  epochs : ∀ p ∈ s.enqueued, p.1.BeforeNext s.ros.branch

section
variable {cfg : PluginConfig} {l : Label} {s s' : State}

theorem RosBook.keep (h : RosBook cfg.ros s) (hros : s'.ros = s.ros)
    (henqueued : s'.enqueued = s.enqueued) : RosBook cfg.ros s' := by
  obtain ⟨published, running, enabled, disabled, epochs⟩ := h
  rw [← hros] at published running enabled epochs
  rw [← henqueued] at disabled epochs
  exact ⟨published, running, enabled, disabled, epochs⟩

theorem RosBook.published_step (h : RosBook cfg.ros s) (a : RosAction) :
    (rosStep cfg.ros s.ros a).publishedCalibrationRevision = 0 ∨
      ∃ calibration ∈ (rosStep cfg.ros s.ros a).cameraInfos,
        calibration.revision = (rosStep cfg.ros s.ros a).publishedCalibrationRevision := by
  have hpublishes : s.ros.Publishes (rosStep cfg.ros s.ros a) := rosStep_publishes a
  rcases hpublishes.published with ⟨hinfos, hpublished⟩ | ⟨calibration, _, hinfos, hpublished⟩
  · rw [hinfos, hpublished]
    exact h.published
  · rw [hinfos, hpublished]
    exact .inr ⟨calibration, List.mem_cons_self, rfl⟩

theorem RosBook.ofStep (h : RosBook cfg.ros s) (a : RosAction)
    (hros : s'.ros = rosStep cfg.ros s.ros a) (henqueued : s'.enqueued = s.enqueued)
    (hstop : a ≠ .stopPublisher) (hcalibration : ∀ calibration, a ≠ .applyCalibration calibration)
    (henabled : (rosStep cfg.ros s.ros a).enqueuing ≠ none → cfg.ros.rosPublishingEnabled = true) :
    RosBook cfg.ros s' := by
  have hmoves : s.ros.branch.Moves (rosStep cfg.ros s.ros a).branch :=
    rosStep_moves hstop hcalibration
  constructor
  · rw [hros]; exact h.published_step a
  · rw [hros]; exact hmoves.running h.running
  · rw [hros]; exact henabled
  · rw [henqueued]; exact h.disabled
  · rw [hros, henqueued]; exact fun p hp => (h.epochs p hp).mono hmoves.forward

theorem RenderRely.enqueued (h : RenderRely s s') : s'.enqueued = s.enqueued := by
  obtain ⟨new, hlog, hnew⟩ := h.log
  have hnone : new.filterMap (·.enqueued?) = [] := by
    refine List.filterMap_eq_nil_iff.mpr fun e he => ?_
    have hby := hnew e he
    cases e <;> first | rfl | cases hby
  simp only [State.enqueued, hlog, List.filterMap_append, hnone, List.nil_append]

theorem ExecutorStep.ros (hs : ExecutorStep cfg l s s') : s'.ros = s.ros := by cases hs <;> rfl

theorem RosBook.executorStep (h : RosBook cfg.ros s) (hs : ExecutorStep cfg l s s') :
    RosBook cfg.ros s' :=
  h.keep hs.ros hs.renderRely.enqueued

theorem RosBook.consume (h : RosBook cfg.ros s) (command : NativeControlCommand) :
    RosBook cfg.ros (s.consume cfg command) := by
  cases hcalibration : command.calibration with
  | none => exact h.keep (by simp only [State.consume, hcalibration]) rfl
  | some calibration =>
    have hros : (s.consume cfg command).ros = rosStep cfg.ros s.ros (.applyCalibration calibration) := by
      simp only [State.consume, hcalibration]
    constructor
    · rw [hros]; exact h.published_step _
    · rw [hros]; exact h.running
    · rw [hros]; exact h.enabled
    · exact h.disabled
    · rw [hros]; exact h.epochs

theorem RosBook.check (h : RosBook cfg.ros s) (unit : AccessUnit) :
    RosBook cfg.ros { s with ros := rosStep cfg.ros s.ros (.check unit) } := by
  refine h.ofStep (.check unit) rfl rfl (by simp) (by simp) ?_
  show (s.ros.check cfg.ros unit).enqueuing ≠ none → _
  unfold RosState.check
  split
  · rename_i hcheck
    intro _
    have haccepts := hcheck.2
    simp only [RosBranch.accepts, Bool.and_eq_true] at haccepts
    exact haccepts.1.1
  · exact h.enabled

theorem RosBook.enqueue (h : RosBook cfg.ros s) {unit : AccessUnit}
    (hunit : s.ros.enqueuing = some unit) : RosBook cfg.ros (s.enqueueROS cfg unit) := by
  have hstep : rosStep cfg.ros s.ros .enqueue =
      { s.ros with branch := (s.ros.branch.enqueueLocked cfg.ros unit).1, enqueuing := none } := by
    show s.ros.enqueue cfg.ros = _
    simp only [RosState.enqueue, hunit]
  have henabled : (rosStep cfg.ros s.ros .enqueue).enqueuing ≠ none →
      cfg.ros.rosPublishingEnabled = true := by
    rw [hstep]
    exact fun hne => absurd rfl hne
  cases hframe : s.ros.branch.enqueuedFrame cfg.ros unit with
  | none =>
    have hlog : (s.enqueueROS cfg unit).enqueued = s.enqueued := by
      simp only [State.enqueueROS, State.enqueued, hframe]
    exact h.ofStep .enqueue rfl hlog (by simp) (by simp) henabled
  | some frame =>
    obtain ⟨hstamp, hbranch⟩ := enqueuedFrame_some hframe
    have hlog : (s.enqueueROS cfg unit).enqueued =
        (frame, s.enc.session.elim 0 (·.index)) :: s.enqueued := by
      simp [State.enqueueROS, State.enqueued, hframe, Event.enqueued?]
    have hpush : (s.enqueueROS cfg unit).ros.branch =
        (s.ros.branch.examined.overflowed cfg.ros unit).pushFrame s.ros.branch.offered unit := by
      show (rosStep cfg.ros s.ros .enqueue).branch = _
      rw [hstep]
      exact hbranch
    have hmoves : s.ros.branch.Moves (rosStep cfg.ros s.ros .enqueue).branch :=
      rosStep_moves (by simp) (by simp)
    constructor
    · exact h.published_step _
    · exact hmoves.running h.running
    · exact henabled
    · intro hdisabled
      rw [h.enabled (by rw [hunit]; simp)] at hdisabled
      cases hdisabled
    · intro p hp
      rw [hlog] at hp
      rcases List.mem_cons.mp hp with rfl | hp
      · rw [hpush, hstamp]
        exact .inr ⟨rfl, Nat.lt_succ_self _⟩
      · exact (h.epochs p hp).mono hmoves.forward

theorem enqueueRTP_enqueued (s : State) (packets : List QueuedRTPPacket) (keyframe : Bool) :
    (s.enqueueRTP cfg packets keyframe).enqueued = s.enqueued := by
  simp only [State.enqueued, State.enqueueRTP]
  split <;> rfl

theorem destroyEncoder_enqueued (s : State) : s.destroyEncoder.enqueued = s.enqueued := by
  simp only [State.enqueued, State.destroyEncoder]
  cases s.enc.session <;> rfl

theorem RosBook.renderStep (h : RosBook cfg.ros s) (hs : RenderStep cfg l s s') :
    RosBook cfg.ros s' := by
  cases hs with
  | rest hs => cases hs <;> exact h.keep rfl rfl
  | applyConfiguration | applyCommand => exact (h.consume _).keep rfl rfl
  | beginROSEpoch cause => exact h.ofStep (.beginEpoch cause) rfl rfl (by simp) (by simp) h.enabled
  | describeStream width height fps gopLength =>
    exact h.ofStep (.describeStream width height fps gopLength) rfl rfl (by simp) (by simp) h.enabled
  | checkROS unit => exact h.check unit
  | enqueueROS _ hunit => exact h.enqueue hunit
  | enqueueRTP packets keyframe =>
    exact h.keep rfl (enqueueRTP_enqueued s packets keyframe)
  | destroyEncoder => exact h.keep rfl (destroyEncoder_enqueued s)
  | _ => exact h.keep rfl rfl

theorem RosBook.otherStep (h : RosBook cfg.ros s) (hs : OtherStep cfg l s s') :
    RosBook cfg.ros s' := by
  cases hs with
  | pacer hs => cases hs <;> exact h.keep rfl rfl
  | worker hs => cases hs <;> exact h.keep rfl rfl
  | hostSide side =>
    obtain ⟨reserved, elsewhere, e⟩ := hostSide_eq side s
    rw [e]
    exact h.keep rfl rfl
  | rosSide side =>
    obtain ⟨hstop, henqueue, hcalibration, hcheck⟩ := side.action_ne s.nat.desiredActive
    refine h.ofStep _ rfl rfl hstop hcalibration ?_
    rw [rosStep_enqueuing hcheck henqueue]
    exact h.enabled

end

/-! ## the reservation of the capture -/

structure SlotBook (s : State) : Prop where
  elsewhere : s.flags.reservedElsewhere = true → s.flags.captureReserved = true
  owned : s.flags.owned = (s.ctl.captureSlotHeld != s.ctl.captureRecording)
  reply : s.ctl.captureReply.isSome = true →
    s.ctl.captureSlotHeld = true ∧ s.ctl.captureRecording = false
  opened : ∀ handle, s.ctl.captureReply = some handle →
    ∃ capture, lastOpened s.snap.trail = some (handle, capture)
  free : s.flags.owned = false → s.snap.Free

section
variable {cfg : PluginConfig} {l : Label} {s s' : State}

theorem SlotBook.keep (h : SlotBook s)
    (helsewhere : s'.flags.reservedElsewhere = true → s'.flags.captureReserved = true)
    (howned : s'.flags.owned = s.flags.owned)
    (hheld : s'.ctl.captureSlotHeld = s.ctl.captureSlotHeld)
    (hrecording : s'.ctl.captureRecording = s.ctl.captureRecording)
    (hreply : s'.ctl.captureReply = s.ctl.captureReply)
    (hopened : lastOpened s'.snap.trail = lastOpened s.snap.trail)
    (hfree : s.snap.Free → s'.snap.Free) : SlotBook s' where
  elsewhere := helsewhere
  owned := by rw [howned, hheld, hrecording]; exact h.owned
  reply := by rw [hheld, hrecording, hreply]; exact h.reply
  opened := by rw [hreply, hopened]; exact h.opened
  free := by rw [howned]; exact fun hnot => hfree (h.free hnot)

theorem SlotBook.rely (h : SlotBook s) (hs : ExecutorRely s s')
    (helsewhere : s'.flags.reservedElsewhere = true → s'.flags.captureReserved = true) :
    SlotBook s' :=
  h.keep helsewhere hs.owned (by rw [hs.ctl]) (by rw [hs.ctl]) (by rw [hs.ctl]) hs.snap.opened
    hs.snap.free

theorem SlotBook.executorStep (h : SlotBook s) (hs : ExecutorStep cfg l s s') : SlotBook s' := by
  cases hs with
  | reserve hfree hsettled =>
    have hnot : s.flags.owned = false := by simp [Flags.owned, hfree]
    have helse : s.flags.reservedElsewhere = false := by
      cases he : s.flags.reservedElsewhere with
      | false => rfl
      | true => exact absurd (h.elsewhere he) (by simp [hfree])
    have hheld : s.ctl.captureSlotHeld = false := by
      have howned := h.owned
      rw [hnot, hsettled.recorded] at howned
      simpa using howned.symm
    refine ⟨fun _ => rfl, ?_, fun hsome => ?_, h.opened, fun hfalse => ?_⟩
    · simp [Flags.owned, helse, hheld]
    · have hsome : s.ctl.captureReply.isSome = true := hsome
      rw [← hsettled.held, hheld] at hsome
      cases hsome
    · simp [Flags.owned, helse] at hfalse
  | openSnapshot _ _ _ _ hrecording hheld hnone =>
    have howned : s.flags.owned = true := by rw [h.owned, hheld, hrecording]; rfl
    refine ⟨h.elsewhere, h.owned, h.reply, fun handle hsome => ?_, fun hfalse => ?_⟩
    · exact absurd (hnone.symm.trans hsome) (by simp)
    · rw [howned] at hfalse
      cases hfalse
  | openCapture _ _ _ hrecording hheld _ _ hopened =>
    have howned : s.flags.owned = true := by rw [h.owned, hheld, hrecording]; rfl
    refine ⟨h.elsewhere, howned, fun _ => ⟨rfl, rfl⟩, fun handle hsome => ?_, fun hfalse => ?_⟩
    · obtain rfl := Option.some.inj hsome
      exact hopened
    · rw [howned] at hfalse
      cases hfalse
  | flushCapture _ hreply =>
    obtain ⟨hheld, hrecording⟩ := h.reply (by rw [hreply]; rfl)
    have howned : s.flags.owned = true := by rw [h.owned, hheld, hrecording]; rfl
    refine ⟨h.elsewhere, h.owned, h.reply, fun handle hsome => ?_, fun hfalse => ?_⟩
    · show ∃ capture, lastOpened (s.snap.finish _ _ _ _).1.trail = some (handle, capture)
      rw [finish_trail]
      exact h.opened handle hsome
    · rw [howned] at hfalse
      cases hfalse
  | answerCapture _ hreply hfree =>
    exact ⟨h.elsewhere, h.owned, fun hsome => (by cases hsome), fun _ hsome => (by cases hsome),
      fun _ => hfree⟩
  | release hrecording hheld hnone hfree =>
    have howned : s.flags.owned = true := by rw [h.owned, hheld, hrecording]; rfl
    simp only [Flags.owned, Bool.and_eq_true, Bool.not_eq_true'] at howned
    refine ⟨fun helse => ?_, ?_, fun hsome => ?_, h.opened, fun _ => hfree⟩
    · exact absurd (howned.2.symm.trans helse) (by simp)
    · simp [Flags.owned, hheld]
    · have hsome : s.ctl.captureReply.isSome = true := hsome
      rw [hnone] at hsome
      cases hsome
  | freeSlot hrecording hheld hnone =>
    have hnot : s.flags.owned = false := by rw [h.owned, hheld, hrecording]; rfl
    refine ⟨h.elsewhere, hnot, fun hsome => ?_, h.opened, fun _ => h.free hnot⟩
    have hsome : s.ctl.captureReply.isSome = true := hsome
    rw [hnone] at hsome
    cases hsome
  | _ => exact h.keep h.elsewhere rfl rfl rfl rfl rfl id

theorem SlotBook.renderStep (h : SlotBook s) (hs : RenderStep cfg l s s') : SlotBook s' := by
  refine h.rely hs.executorRely ?_
  cases hs with
  | rest hs => cases hs <;> exact h.elsewhere
  | _ => exact h.elsewhere

theorem SlotBook.otherStep (h : SlotBook s) (hs : OtherStep cfg l s s') : SlotBook s' := by
  refine h.rely hs.executorRely ?_
  cases hs with
  | pacer hs => cases hs <;> exact h.elsewhere
  | worker hs => cases hs <;> exact h.elsewhere
  | rosSide side => exact h.elsewhere
  | hostSide side =>
    cases side with
    | reserve =>
      simp only [State.hostSide]
      split
      · exact h.elsewhere
      · exact fun _ => rfl
    | release =>
      simp only [State.hostSide]
      split
      · exact fun hfalse => by cases hfalse
      · exact h.elsewhere

end

/-! ## the stopped stream -/

structure HaltBook (s : State) : Prop where
  applied : s.Halted → s.nat.nativeAppliedActive = false ∨
    ∃ command, s.nat.awaitingNativeControl = some command ∧ command.kind = .stop
  started : ∀ command, s.nat.awaitingNativeControl = some command → command.kind = .start →
    s.lastDrive = some .start
  stopped : ∀ command, s.nat.awaitingNativeControl = some command → command.kind = .stop → s.Halted
  quiet : s.Halted → s.nat.desiredActive = false ∧ s.rtp.rtpQueue = []
  command : ∀ command, s.nat.nativeCommand = some command →
    (command.kind = .stop → command.active = false) ∧
      (s.Halted → command.kind = .start ∨ command.active = false)

section
variable {cfg : PluginConfig} {l : Label} {s s' : State}

theorem HaltBook.keep (h : HaltBook s) (hdrive : s'.lastDrive = s.lastDrive)
    (hawaiting : s'.nat.awaitingNativeControl = s.nat.awaitingNativeControl)
    (happlied : s'.nat.nativeAppliedActive = s.nat.nativeAppliedActive)
    (hdesired : s'.nat.desiredActive = s.nat.desiredActive)
    (hqueue : s.rtp.rtpQueue = [] → s'.rtp.rtpQueue = [])
    (hcommand : ∀ command, s'.nat.nativeCommand = some command →
      s.nat.nativeCommand = some command) : HaltBook s' where
  applied := by
    rw [State.Halted, hdrive, happlied, hawaiting]
    exact h.applied
  started := by
    rw [hdrive, hawaiting]
    exact h.started
  stopped := by
    rw [State.Halted, hdrive, hawaiting]
    exact h.stopped
  quiet hhalted := by
    rw [State.Halted, hdrive] at hhalted
    rw [hdesired]
    exact ⟨(h.quiet hhalted).1, hqueue (h.quiet hhalted).2⟩
  command command hsome := by
    rw [State.Halted, hdrive]
    exact h.command command (hcommand command hsome)

theorem HaltBook.admission (h : HaltBook s) {handle : Nat} {kind : ControlKind}
    {request : ControlRequest} {desired : Executor.Desired}
    (hhalted : kind = .requestKeyframe → ¬ s.Halted)
    (hdesired : desired.Follows cfg.ros.rosPublishingEnabled s.ctl.desiredConfig kind) :
    HaltBook (s.admitMutation handle kind request desired) := by
  refine ⟨h.applied, h.started, h.stopped, h.quiet, fun command hsome => ?_⟩
  obtain rfl := Option.some.inj hsome
  have hactive := hdesired.active
  refine ⟨fun hkind => ?_, fun hstop => ?_⟩
  · have hkind : kind = .stop := hkind
    subst hkind
    exact hactive
  · have hstop : s.Halted := hstop
    cases kind with
    | start => exact .inl rfl
    | stop => exact .inr hactive
    | config => exact .inr (h.quiet hstop).1
    | requestKeyframe => exact absurd hstop (hhalted rfl)

theorem HaltBook.executorStep (h : HaltBook s) (hs : ExecutorStep cfg l s s') : HaltBook s' := by
  cases hs with
  | admission _ _ _ hhalted hdesired =>
    obtain ⟨width, height, input, hdesired⟩ := hdesired
    exact h.admission hhalted (Executor.desiredMutation_follows hdesired)
  | reply | demandKeyframe | completePending =>
    exact h.keep (lastDrive_append [_] rfl (by simp [Event.drive?])) rfl rfl rfl id fun _ => id
  | failPending | answerCapture =>
    exact h.keep (lastDrive_append [_, _] rfl (by simp [Event.drive?])) rfl rfl rfl id fun _ => id
  | expirePending =>
    exact h.keep (lastDrive_append [_, _] rfl (by simp [Event.drive?])) rfl rfl rfl id
      fun _ hsome => by cases hsome
  | @endWatcher _ _ _ answer _ hanswer =>
    refine h.keep (lastDrive_append answer rfl ?_) rfl rfl rfl id fun _ => id
    rcases hanswer with rfl | ⟨response, rfl, _⟩
    · simp
    · simp [Event.drive?]
  | _ => exact h.keep (lastDrive_append [] rfl (by simp)) rfl rfl rfl id fun _ => id

theorem consume_lastDrive (cfg : PluginConfig) (s : State) (command : NativeControlCommand) :
    (s.consume cfg command).lastDrive =
      if command.kind = .start ∨ command.kind = .stop then some command.kind else s.lastDrive := by
  by_cases h : command.kind = .start ∨ command.kind = .stop
  · rw [if_pos h]
    simp only [State.lastDrive, State.consume, List.findSome?_cons, Event.drive?, if_pos h]
  · rw [if_neg h]
    simp only [State.lastDrive, State.consume, List.findSome?_cons, Event.drive?, if_neg h]

theorem consume_queue (cfg : PluginConfig) (s : State) (command : NativeControlCommand) (h : command.active = false) :
    (s.consume cfg command).rtp.rtpQueue = [] := by
  simp [State.consume, h, RtpQueue.clear]

theorem HaltBook.applyCommand (h : HaltBook s) {command : NativeControlCommand}
    (hcommand : s.nat.nativeCommand = some command)
    (hawaiting : s.nat.awaitingNativeControl = none) :
    HaltBook ((s.consume cfg command).setDemandActive.await command) := by
  have hdrive : ((s.consume cfg command).setDemandActive.await command).lastDrive =
      if command.kind = .start ∨ command.kind = .stop then some command.kind else s.lastDrive :=
    consume_lastDrive cfg s command
  obtain ⟨hstop, hhalted⟩ := h.command command hcommand
  have hcases : ((s.consume cfg command).setDemandActive.await command).Halted →
      command.active = false ∧ (command.kind = .stop ∨ s.Halted) := by
    intro hafter
    rw [State.Halted, hdrive] at hafter
    split at hafter
    · have hafter := Option.some.inj hafter
      exact ⟨hstop hafter, .inl hafter⟩
    · rename_i hnot
      exact ⟨(hhalted hafter).resolve_left fun hs => hnot (.inl hs), .inr hafter⟩
  refine ⟨fun hafter => ?_, fun c hc hs => ?_, fun c hc hs => ?_, fun hafter => ?_,
    fun _ hsome => by cases hsome⟩
  · rcases (hcases hafter).2 with hs | hbefore
    · exact .inr ⟨command, rfl, hs⟩
    · refine (h.applied hbefore).imp_right ?_
      rintro ⟨c, hc, _⟩
      rw [hawaiting] at hc
      cases hc
  · obtain rfl := Option.some.inj hc
    rw [hdrive, if_pos (.inl hs), hs]
  · obtain rfl := Option.some.inj hc
    rw [State.Halted, hdrive, if_pos (.inr hs), hs]
  · exact ⟨(hcases hafter).1, consume_queue cfg s command (hcases hafter).1⟩

theorem HaltBook.applyConfiguration (h : HaltBook s) {command : NativeControlCommand} (time : Int)
    (hcommand : s.nat.nativeCommand = some command) (hkind : command.kind = .config)
    (hawaiting : s.nat.awaitingNativeControl = none) :
    HaltBook ((s.consume cfg command).setDemandActive.completeConfiguration command time) := by
  have hdrive : ((s.consume cfg command).setDemandActive.completeConfiguration command
      time).lastDrive = s.lastDrive := by
    refine (lastDrive_append (s := s.consume cfg command) [.acknowledged command.revision] rfl
      (by simp [Event.drive?])).trans ?_
    rw [consume_lastDrive cfg, if_neg (by simp [hkind])]
  have hnone : ∀ c, s.nat.awaitingNativeControl ≠ some c := by simp [hawaiting]
  refine ⟨fun hafter => ?_, fun c hc => absurd hc (hnone c), fun c hc => absurd hc (hnone c),
    fun hafter => ?_, fun _ hsome => by cases hsome⟩
  · rw [State.Halted, hdrive] at hafter
    refine (h.applied hafter).imp_right ?_
    rintro ⟨c, hc, _⟩
    exact absurd hc (hnone c)
  · rw [State.Halted, hdrive] at hafter
    have hactive : command.active = false :=
      ((h.command command hcommand).2 hafter).resolve_left (by simp [hkind])
    exact ⟨hactive, consume_queue cfg s command hactive⟩

theorem HaltBook.acknowledge (h : HaltBook s) {command : NativeControlCommand}
    (hawaiting : s.nat.awaitingNativeControl = some command) (hstored : s.Stored command) :
    HaltBook (s.acknowledge command.revision) := by
  have hdrive : (s.acknowledge command.revision).lastDrive = s.lastDrive :=
    lastDrive_append [_] rfl (by simp [Event.drive?])
  refine ⟨fun hafter => ?_, fun _ hc => (by cases hc), fun _ hc => (by cases hc),
    fun hafter => ?_, fun c hc => ?_⟩
  · rw [State.Halted, hdrive] at hafter
    rcases h.applied hafter with hfalse | ⟨c, hc, hs⟩
    · exact .inl hfalse
    · obtain rfl := Option.some.inj (hawaiting.symm.trans hc)
      exact .inl (hstored.stop hs).1
  · rw [State.Halted, hdrive] at hafter
    exact h.quiet hafter
  · rw [State.Halted, hdrive]
    exact h.command c hc

theorem HaltBook.failNative (h : HaltBook s) {command : NativeControlCommand}
    (hawaiting : s.nat.awaitingNativeControl = some command)
    (hkind : command.kind = .start ∨ command.kind = .requestKeyframe) :
    HaltBook (s.failNative command.revision) := by
  have hdrive : (s.failNative command.revision).lastDrive = s.lastDrive :=
    lastDrive_append [_] rfl (by simp [Event.drive?])
  refine ⟨fun hafter => ?_, fun _ hc => (by cases hc), fun _ hc => (by cases hc),
    fun hafter => ?_, fun c hc => ?_⟩
  · rw [State.Halted, hdrive] at hafter
    refine (h.applied hafter).imp_right ?_
    rintro ⟨c, hc, hs⟩
    obtain rfl := Option.some.inj (hawaiting.symm.trans hc)
    rw [hs] at hkind
    rcases hkind with hk | hk <;> cases hk
  · rw [State.Halted, hdrive] at hafter
    exact h.quiet hafter
  · rw [State.Halted, hdrive]
    exact h.command c hc

theorem HaltBook.renderRest (h : HaltBook s) (hs : RenderRest l s s') : HaltBook s' := by
  cases hs with
  | @storeApplied _ command active hawaiting hkind =>
    refine ⟨fun hhalted => ?_, h.started, h.stopped, h.quiet, h.command⟩
    rcases hkind with ⟨hstart, _⟩ | ⟨_, rfl⟩
    · have hdrive := h.started command hawaiting hstart
      have hhalted : s.lastDrive = some .stop := hhalted
      rw [hdrive] at hhalted
      cases hhalted
    · exact .inl rfl
  | faultActive => exact ⟨fun _ => .inl rfl, h.started, h.stopped, h.quiet, h.command⟩
  | clearRTP => exact h.keep rfl rfl rfl rfl (fun _ => rfl) fun _ => id
  | _ => exact h.keep rfl rfl rfl rfl id fun _ => id

theorem HaltBook.renderStep (h : HaltBook s) (hI : HandoffInv s.handoff)
    (hs : RenderStep cfg l s s') : HaltBook s' := by
  cases hs with
  | rest hs => exact h.renderRest hs
  | applyConfiguration time hcommand hkind =>
    obtain ⟨_, _, _, _, hawaiting, _⟩ := hI.queued hcommand
    exact h.applyConfiguration time hcommand hkind hawaiting
  | applyCommand hcommand =>
    obtain ⟨_, _, _, _, hawaiting, _⟩ := hI.queued hcommand
    exact h.applyCommand hcommand hawaiting
  | acknowledge hawaiting hstored => exact h.acknowledge hawaiting hstored
  | failNative hawaiting hkind => exact h.failNative hawaiting hkind
  | deactivate =>
    exact ⟨h.applied, h.started, h.stopped, fun hhalted => ⟨rfl, (h.quiet hhalted).2⟩, h.command⟩
  | transitionFailed | failKeyframe | beginRender | encoderFailed =>
    exact h.keep (lastDrive_append [_] rfl (by simp [Event.drive?])) rfl rfl rfl id fun _ => id
  | faultState =>
    exact h.keep (lastDrive_append [_] rfl (by simp [Event.drive?])) rfl rfl rfl id fun _ => id
  | destroyEncoder =>
    exact h.keep (lastDrive_append _ rfl (by simp [Event.drive?])) rfl rfl rfl id fun _ => id
  | @enqueueROS _ unit =>
    refine h.keep ?_ rfl rfl rfl id fun _ => id
    cases hframe : s.ros.branch.enqueuedFrame cfg.ros unit with
    | none => exact lastDrive_append [] (by simp [State.enqueueROS, hframe]) (by simp)
    | some frame =>
      exact lastDrive_append [.enqueued frame (s.enc.session.elim 0 (·.index))]
        (by simp [State.enqueueROS, hframe]) (by simp [Event.drive?])
  | enqueueRTP packets keyframe hactive =>
    have hrunning : ¬ s.Halted := fun hhalted =>
      absurd ((h.quiet hhalted).1.symm.trans hactive) (by simp)
    have hdrive : (s.enqueueRTP cfg packets keyframe).lastDrive = s.lastDrive := by
      cases hrefused : RtpQueue.refusal cfg.pacingBitrate s.rtp packets keyframe with
      | none => exact lastDrive_append [] (by simp [State.enqueueRTP, hrefused]) (by simp)
      | some cause =>
        exact lastDrive_append [.refused] (by simp [State.enqueueRTP, hrefused])
          (by simp [Event.drive?])
    refine ⟨fun hafter => ?_, ?_, ?_, fun hafter => ?_, ?_⟩
    · exact absurd (hdrive.symm.trans hafter) hrunning
    · rw [hdrive]
      exact h.started
    · rw [State.Halted, hdrive]
      exact h.stopped
    · exact absurd (hdrive.symm.trans hafter) hrunning
    · rw [State.Halted, hdrive]
      exact h.command
  | _ => exact h.keep rfl rfl rfl rfl id fun _ => id

theorem HaltBook.otherStep (h : HaltBook s) (hs : OtherStep cfg l s s') : HaltBook s' := by
  cases hs with
  | pacer hs =>
    cases hs with
    | pop hpop =>
      refine h.keep rfl rfl rfl rfl (fun hqueue => ?_) fun _ => id
      rw [RtpQueue.pop, hqueue] at hpop
      cases hpop
    | _ => exact h.keep rfl rfl rfl rfl id fun _ => id
  | worker hs => cases hs <;> exact h.keep rfl rfl rfl rfl id fun _ => id
  | rosSide side => exact h.keep rfl rfl rfl rfl id fun _ => id
  | hostSide side =>
    obtain ⟨reserved, elsewhere, e⟩ := hostSide_eq side s
    rw [e]
    exact h.keep rfl rfl rfl rfl id fun _ => id

end

/-! ## the captures -/

section
variable {cfg : PluginConfig} {l : Label} {s s' : State}

theorem ExecutorStep.captures (hs : ExecutorStep cfg l s s')
    (h : CaptureInv s.view.renderFrameSequence s.snap) :
    CaptureInv s'.view.renderFrameSequence s'.snap := by
  cases hs with
  | openSnapshot handle id includeRGB _ _ _ _ hfree =>
    exact h.executorStep (.admission handle id includeRGB hfree)
  | flushCapture late => exact h.executorStep (.finish _ _ _ late)
  | _ => exact h

theorem RenderStep.captures (hs : RenderStep cfg l s s')
    (h : CaptureInv s.view.renderFrameSequence s.snap) :
    CaptureInv s'.view.renderFrameSequence s'.snap := by
  cases hs with
  | rest hs =>
    cases hs with
    | capture hs => exact h.renderStep hs
    | view view hsequence =>
      show CaptureInv view.renderFrameSequence s.snap
      rw [hsequence]
      exact h
    | _ => exact h
  | beginRender view => exact h.callback view s.nat.jpegQuality
  | _ => exact h

theorem OtherStep.captures (hs : OtherStep cfg l s s')
    (h : CaptureInv s.view.renderFrameSequence s.snap) :
    CaptureInv s'.view.renderFrameSequence s'.snap := by
  cases hs with
  | pacer hs => cases hs <;> exact h
  | worker hs =>
    cases hs with
    | look => exact h
    | capture hs => exact h.workerStep hs
  | rosSide side => exact h
  | hostSide side =>
    obtain ⟨reserved, elsewhere, e⟩ := hostSide_eq side s
    rw [e]
    exact h

end

/-! ## the books -/

structure Books (cfg : PluginConfig) (s : State) : Prop where
  reply : ReplyBook s
  native : NativeBook s
  ros : RosBook cfg.ros s
  first : s.enc.encoderEverInitialized = false → s.enqueued = []
  slot : SlotBook s
  halt : HaltBook s
  handoff : HandoffInv s.handoff
  captures : CaptureInv s.view.renderFrameSequence s.snap

section
variable {cfg : PluginConfig} {l : Label} {s s' : State}

theorem Books.load (cfg : PluginConfig) (input : LoadInput) : Books cfg (.load cfg input) where
  reply := ⟨fun _ => Nat.zero_le 1, fun _ _ => rfl⟩
  native := ⟨le_rfl, fun _ h => (by cases h), .inl le_rfl, .inl rfl⟩
  ros := ⟨.inl rfl, rfl, fun h => absurd rfl h, fun _ => rfl, fun _ h => (by cases h)⟩
  first _ := rfl
  slot := ⟨fun h => (by cases h), rfl, fun h => (by cases h), fun _ h => (by cases h),
    fun _ => ⟨rfl, rfl, rfl, rfl, rfl, rfl⟩⟩
  halt := ⟨fun h => (by cases h), fun _ h => (by cases h), fun _ h => (by cases h),
    fun h => (by cases h), fun _ h => (by cases h)⟩
  handoff := .load cfg input
  captures := .load

theorem Books.executorStep (h : Books cfg s) (hs : ExecutorStep cfg l s s') : Books cfg s' where
  reply := h.reply.executorStep hs
  native := h.native.executorStep hs
  ros := h.ros.executorStep hs
  first := by
    rw [hs.renderRely.enc, hs.renderRely.enqueued]
    exact h.first
  slot := h.slot.executorStep hs
  halt := h.halt.executorStep hs
  handoff := h.handoff.refines hs.handoff
  captures := hs.captures h.captures

theorem Books.renderStep (h : Books cfg s) (hs : RenderStep cfg l s s') : Books cfg s' where
  reply := h.reply.rely hs.executorRely
  native := h.native.renderStep hs
  ros := h.ros.renderStep hs
  first := by
    cases hs with
    | rest hs => cases hs <;> exact h.first
    | initialized => exact fun hfalse => by cases hfalse
    | enqueueROS _ _ hready =>
      exact fun hfalse => absurd (hready.initialized.symm.trans hfalse) (by simp)
    | observeSourceTime time =>
      show (s.enc.observe time).encoderEverInitialized = false → _
      unfold Encoder.observe
      split <;> exact h.first
    | enqueueRTP packets keyframe =>
      rw [enqueueRTP_enqueued]
      exact h.first
    | destroyEncoder =>
      rw [destroyEncoder_enqueued]
      exact h.first
    | _ => exact h.first
  slot := h.slot.renderStep hs
  halt := h.halt.renderStep h.handoff hs
  handoff := h.handoff.refines hs.handoff
  captures := hs.captures h.captures

theorem Books.otherStep (h : Books cfg s) (hs : OtherStep cfg l s s') : Books cfg s' where
  reply := h.reply.rely hs.executorRely
  native := h.native.otherStep hs
  ros := h.ros.otherStep hs
  first := by
    rw [hs.renderRely.enc, hs.renderRely.enqueued]
    exact h.first
  slot := h.slot.otherStep hs
  halt := h.halt.otherStep hs
  handoff := h.handoff.refines hs.handoff
  captures := hs.captures h.captures

end

end MediaCamera
