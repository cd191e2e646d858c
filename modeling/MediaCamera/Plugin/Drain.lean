import MediaCamera.Plugin.Verified

/-!
# A completed stop means that the live branch has drained

* `AcknowledgesStop`    the action that acknowledges a stop;
* `State.Quiet`         the stream is stopped and the pacer is between two access units; this holds
                        until a start is consumed;
* `PacerIdle`           the pacer has popped nothing that it has not finished;
* `Untouching`          the steps of `CompleteNativeStopIfDrained` leave the ROS branch, the encoder
                        and the captures alone;
* `WhileConsumed`       they leave the sensor alone while ROS data has consumers;
* `stop_drained`        all of it for every acknowledged stop.
-/

namespace MediaCamera

/-! ## starts -/

def Event.starts : Event → Bool
  | .consumed command _ => command.kind == .start
  | _ => false

def State.starts (s : State) : Nat := s.log.countP (·.starts)

section
variable {cfg : PluginConfig} {l : Label} {s s' : State}

theorem starts_le {new : List Event} (hlog : s'.log = new ++ s.log) : s.starts ≤ s'.starts := by
  simp only [State.starts, hlog, List.countP_append]
  omega

/-- a stopped stream stays stopped until a start is consumed -/
theorem halted_or_start {new : List Event} (hlog : s'.log = new ++ s.log) (h : s.Halted) :
    s'.Halted ∨ s.starts < s'.starts := by
  have hdrive : s'.lastDrive = (new.findSome? (·.drive?)).or s.lastDrive := by
    simp only [State.lastDrive, hlog, List.findSome?_append]
  cases hfind : new.findSome? (·.drive?) with
  | none =>
    rw [hfind, Option.none_or] at hdrive
    exact .inl (hdrive.trans h)
  | some kind =>
    rw [hfind, Option.some_or] at hdrive
    obtain ⟨e, hmem, he⟩ := List.exists_of_findSome?_eq_some hfind
    obtain ⟨command, demand, rfl⟩ : ∃ command demand, e = .consumed command demand := by
      cases e with
      | consumed command demand => exact ⟨command, demand, rfl⟩
      | _ => cases he
    simp only [Event.drive?, Option.ite_none_right_eq_some, Option.some.injEq] at he
    obtain ⟨hkind, rfl⟩ := he
    rcases hkind with hstart | hstop
    · refine .inr ?_
      have hpos : 0 < new.countP (·.starts) :=
        List.countP_pos_iff.mpr ⟨_, hmem, by simp [Event.starts, hstart]⟩
      simp only [State.starts, hlog, List.countP_append]
      omega
    · exact .inl (hdrive.trans (congrArg some hstop))

/-! ## the quiet stream -/

/-- the stream is stopped and no access unit is in flight -/
structure State.Quiet (s : State) : Prop where
  halted : s.Halted
  flight : s.flags.rtpInFlight = false

theorem State.Quiet.queue (h : s.Quiet) (hI : Books cfg s) : s.rtp.rtpQueue = [] :=
  (hI.halt.quiet h.halted).2

/-- only the pacer sends -/
theorem ThreadStep.sent {t : ThreadName} (hs : ThreadStep cfg t l s s') (ht : t ≠ .pacer) :
    s'.sent = s.sent := by
  cases t with
  | executor =>
    have hs : ExecutorStep cfg l s s' := hs
    cases hs <;> rfl
  | render =>
    have hs : RenderStep cfg l s s' := hs
    cases hs with
    | rest hr => cases hr <;> rfl
    | _ => rfl
  | pacer => exact absurd rfl ht
  | jpegWorker =>
    have hs : WorkerStep cfg l s s' := hs
    cases hs <;> rfl
  | rosSide =>
    obtain ⟨_, side, rfl⟩ := hs
    rfl
  | hostSide =>
    obtain ⟨_, side, rfl⟩ := hs
    obtain ⟨reserved, elsewhere, e⟩ := hostSide_eq side s
    rw [e]

theorem PacerStep.waits (hs : PacerStep l s s') (hqueue : s.rtp.rtpQueue = [])
    (hflight : s.flags.rtpInFlight = false) : s' = s ∧ l = .popRTP := by
  cases hs with
  | wait => exact ⟨rfl, rfl⟩
  | pop hpop =>
    rw [RtpQueue.pop, hqueue] at hpop
    cases hpop
  | look h | send _ h | finish h =>
    rw [hflight] at h
    cases h

theorem PacerStep.pops (hs : PacerStep l s s') (hflight : s.flags.rtpInFlight = false) :
    l = .popRTP := by
  cases hs with
  | wait | pop => rfl
  | look h | send _ h | finish h =>
    rw [hflight] at h
    cases h

/-- one step of a quiet stream: it stays quiet and sends nothing, or a start is consumed -/
theorem State.Quiet.step (h : s.Quiet) (hI : Books cfg s) {t : ThreadName}
    (hs : ThreadStep cfg t l s s') : s'.Quiet ∧ s'.sent = s.sent ∨ s.starts < s'.starts := by
  obtain ⟨new, hlog⟩ := hs.log
  rcases halted_or_start hlog h.halted with hhalted | hstart
  · refine .inl ?_
    by_cases ht : t = .pacer
    · subst ht
      obtain ⟨rfl, _⟩ := PacerStep.waits hs (h.queue hI) h.flight
      exact ⟨h, rfl⟩
    · exact ⟨⟨hhalted, (hs.pacerRely ht).trans h.flight⟩, hs.sent ht⟩
  · exact .inr hstart

theorem State.Quiet.not_enqueueRTP (h : s.Quiet) (hI : Books cfg s)
    {packets : List QueuedRTPPacket} {keyframe : Bool} :
    ¬ RenderStep cfg (.enqueueRTP packets keyframe) s s' := by
  intro hs
  cases hs with
  | rest hr =>
    cases hr with
    | capture hc => cases hc
  | enqueueRTP _ _ hactive =>
    rw [(hI.halt.quiet h.halted).1] at hactive
    cases hactive

end

theorem starts_run {cfg : PluginConfig} {s : PluginState} (h : (pluginMachine cfg).Reachable s)
    (as : List PluginAction) :
    s.shared.starts ≤ ((pluginMachine cfg).run s as).shared.starts := by
  obtain ⟨new, hlog⟩ := log_run h as
  exact starts_le hlog

/-! ## the pacer -/

/-- the pacer has popped nothing that it has not finished -/
def PacerIdle (s : PluginState) : Prop := ∀ l ∈ (s.thread .pacer).next, l = .popRTP

/-- the flag that `CompleteNativeStopIfDrained` reads tells of the pacer -/
theorem pacer_idle {cfg : PluginConfig} {s : PluginState} (h : (pluginMachine cfg).Reachable s)
    (hflight : s.shared.flags.rtpInFlight = false) : PacerIdle s := by
  intro l hl
  have hs : PacerStep l s.shared ((pluginMachine cfg).step s (.step .pacer)).shared :=
    plugin_next h hl
  exact hs.pops hflight

/-! ## the acknowledgment -/

def AcknowledgesStop (cfg : PluginConfig) (s : PluginState) (a : PluginAction) : Prop :=
  ∃ command, s.shared.nat.awaitingNativeControl = some command ∧ command.kind = .stop ∧
    ((pluginMachine cfg).step s a).shared.log = .acknowledged command.revision :: s.shared.log

/-- a stop is acknowledged on a drained branch only -/
theorem ThreadStep.acknowledges {cfg : PluginConfig} {t : ThreadName} {l : Label} {s s' : State}
    {command : NativeControlCommand} (hs : ThreadStep cfg t l s s')
    (hawaiting : s.nat.awaitingNativeControl = some command) (hkind : command.kind = .stop)
    (hlog : s'.log = .acknowledged command.revision :: s.log) :
    s.Drained ∧ s' = s.acknowledge command.revision := by
  have hother : ∀ e, s.log ≠ e :: s.log := fun e he => by
    have := congrArg List.length he
    simp at this
  by_cases ht : t = .render
  · subst ht
    have hs : RenderStep cfg l s s' := hs
    cases hs with
    | acknowledge h _ hdrained =>
      obtain rfl := Option.some.inj (hawaiting.symm.trans h)
      exact ⟨hdrained hkind, rfl⟩
    | rest hr => cases hr <;> exact absurd hlog (hother _)
    | applyConfiguration => exact absurd (List.cons.inj hlog).2.symm (hother _)
    | applyCommand | transitionFailed | failKeyframe | failNative | encoderFailed | faultState
    | beginRender =>
      cases (List.cons.inj hlog).1
    | destroyEncoder =>
      rw [destroyEncoder_log] at hlog
      cases hsession : s.enc.session with
      | none => exact absurd hlog (by simp [hsession])
      | some session => simp [hsession] at hlog
    | @enqueueROS _ unit =>
      cases hframe : s.ros.branch.enqueuedFrame cfg.ros unit with
      | none =>
        rw [show (s.enqueueROS cfg unit).log = s.log by simp [State.enqueueROS, hframe]] at hlog
        exact absurd hlog (hother _)
      | some frame =>
        rw [State.enqueueROS, hframe] at hlog
        cases (List.cons.inj hlog).1
    | @enqueueRTP _ packets keyframe =>
      simp only [State.enqueueRTP] at hlog
      split at hlog
      · cases (List.cons.inj hlog).1
      · exact absurd hlog (hother _)
    | _ => exact absurd hlog (hother _)
  · obtain ⟨new, hnew, hby⟩ := (hs.renderRely ht).log
    rw [hnew] at hlog
    have hnew : new ++ s.log = [.acknowledged command.revision] ++ s.log := hlog
    obtain rfl := List.append_cancel_right hnew
    exact absurd (hby _ (List.mem_singleton_self _)) (by simp [Event.byExecutor])

/-- what the completion of a stop leaves alone -/
structure Untouching (s s' : State) : Prop where
  ros : s'.ros = s.ros
  enc : s'.enc = s.enc
  snap : s'.snap = s.snap
  cap : s'.cap = s.cap
  ctl : s'.ctl = s.ctl
  rtp : s'.rtp = s.rtp
  desired : s'.nat.desiredActive = s.nat.desiredActive
  keyframe : s'.flags.forceKeyframe = s.flags.forceKeyframe

theorem Untouching.refl (s : State) : Untouching s s := ⟨rfl, rfl, rfl, rfl, rfl, rfl, rfl, rfl⟩

/-- nothing is enqueued and nothing is sent from `s` to `s'` -/
structure StaysDrained (s s' : PluginState) : Prop where
  queue : s'.shared.rtp.rtpQueue = []
  pacer : PacerIdle s'
  sent : s'.shared.sent = s.shared.sent
  enqueues : ∀ (packets : List QueuedRTPPacket) (keyframe : Bool),
    (s'.thread .render).next ≠ some (.enqueueRTP packets keyframe)

section
variable {cfg : PluginConfig}

/-- a step of the completion that leaves the sensor alone too -/
def Leaves (s s' : State) : Prop :=
  Untouching s s' ∧ s'.view.sensorActive = s.view.sensorActive

theorem read_leaves {α : Type} (f : State → α) : (read f).Within fun _ s s' => Leaves s s' :=
  .atomic fun s => ⟨.refl s, rfl⟩

theorem write_leaves {f : State → State} (h : ∀ s, Leaves s (f s)) :
    (write f).Within fun _ s s' => Leaves s s' := .atomic h

theorem drained_leaves : drained.Within fun _ s s' => Leaves s s' := by
  refine .bind (read_leaves _) fun _ => .ite (.ret _) (.bind (.atomic fun s => ?_) fun _ => ?_)
  · exact ⟨⟨rfl, rfl, rfl, rfl, rfl, rfl, rfl, rfl⟩, rfl⟩
  · exact .ite (.ret _) (read_leaves _)

theorem snapshotNeedsRender_leaves : snapshotNeedsRender.Within fun _ s s' => Leaves s s' :=
  .bind (read_leaves _) fun _ => .ite (.ret _) (read_leaves _)

theorem completeNativeControl_leaves (command : NativeControlCommand) (time : Int) :
    (completeNativeControl command time).Within fun _ s s' => Leaves s s' := by
  have hstore : ∀ (active : Bool) (state : LifecycleState) {p : Thread Unit},
      p.Within (fun _ s s' => Leaves s s') → Prog.Within (fun _ s s' => Leaves s s') (do
        storeNativeAppliedActive active
        storeNativeLifecycleState state
        p) := by
    intro active state p hp
    refine .bind (write_leaves fun s => ?_) fun _ => .bind (write_leaves fun s => ?_) fun _ => hp
    · exact ⟨⟨rfl, rfl, rfl, rfl, rfl, rfl, rfl, rfl⟩, rfl⟩
    · exact ⟨⟨rfl, rfl, rfl, rfl, rfl, rfl, rfl, rfl⟩, rfl⟩
  have hlast : Prog.Within (fun _ s s' => Leaves s s') (do
      storeNativeAppliedTime time
      write (·.acknowledge command.revision)) := by
    refine .bind (write_leaves fun s => ?_) fun _ => write_leaves fun s => ?_
    · exact ⟨⟨rfl, rfl, rfl, rfl, rfl, rfl, rfl, rfl⟩, rfl⟩
    · exact ⟨⟨rfl, rfl, rfl, rfl, rfl, rfl, rfl, rfl⟩, rfl⟩
  have hstop := Prog.Within.ite (c := command.kind = .stop) (hstore false .idle hlast) hlast
  exact .ite (hstore true .active hstop) hstop

theorem storeSensorActive_leaves : storeSensorActive.Within fun _ s s' => Leaves s s' :=
  write_leaves fun _ => ⟨⟨rfl, rfl, rfl, rfl, rfl, rfl, rfl, rfl⟩, rfl⟩

theorem completeNativeStopIfDrained_untouching (time : Int) :
    (completeNativeStopIfDrained time).Within fun _ s s' => Untouching s s' := by
  have hleaves : ∀ {α : Type} {p : Thread α}, p.Within (fun _ s s' => Leaves s s') →
      p.Within fun _ s s' => Untouching s s' := fun hp => hp.mono fun _ _ _ h => h.1
  have hskip : (pure () : Thread Unit).Within fun _ s s' => Untouching s s' := .ret ()
  have hrelease : releaseSensor.Within fun _ s s' => Untouching s s' := by
    refine .bind (hleaves (read_leaves _)) fun _ => .ite ?_ hskip
    refine .bind (hleaves snapshotNeedsRender_leaves) fun _ => .ite (.atomic fun s => ?_) hskip
    exact ⟨rfl, rfl, rfl, rfl, rfl, rfl, rfl, rfl⟩
  refine .bind (hleaves (read_leaves _)) fun awaiting => ?_
  cases awaiting with
  | none => exact hskip
  | some command =>
    refine .ite (.bind (hleaves drained_leaves) fun _ => .ite (.bind hrelease fun _ => ?_) hskip)
      hskip
    exact .bind (hleaves storeSensorActive_leaves) fun _ =>
      hleaves (completeNativeControl_leaves command time)

theorem State.Quiet.staysDrained {s s' : PluginState} (h : (pluginMachine cfg).Reachable s')
    (hquiet : s'.shared.Quiet) (hsent : s'.shared.sent = s.shared.sent) : StaysDrained s s' where
  queue := hquiet.queue (plugin_books h)
  pacer := pacer_idle h hquiet.flight
  sent := hsent
  enqueues _ _ hl := hquiet.not_enqueueRTP (plugin_books h) (plugin_next h hl)

/-- until a start is consumed, a quiet stream stays quiet -/
theorem State.Quiet.run {s : PluginState} (h : (pluginMachine cfg).Reachable s)
    (hquiet : s.shared.Quiet) (as : List PluginAction) :
    s.shared.starts < ((pluginMachine cfg).run s as).shared.starts ∨
      ((pluginMachine cfg).run s as).shared.Quiet ∧
        ((pluginMachine cfg).run s as).shared.sent = s.shared.sent := by
  induction as generalizing s with
  | nil => exact .inr ⟨hquiet, rfl⟩
  | cons a as ih =>
    rw [Machine.run_cons]
    have hle := starts_run (h.next a) as
    rcases plugin_step h a with hsame | ⟨t, l, rfl, _, hs⟩
    · rw [← hsame]
      exact ih (h.next a) (hsame ▸ hquiet)
    · rcases hquiet.step (plugin_books h) hs with ⟨hquiet', hsent⟩ | hstart
      · obtain ⟨new, hlog⟩ := hs.log
        rw [← hsent]
        exact (ih (h.next _) hquiet').imp_left (starts_le hlog).trans_lt
      · exact .inl (hstart.trans_le hle)

/-- while ROS data has consumers, and the others do not change that, the sensor keeps rendering -/
def WhileConsumed : Contract (fun _ : State => True) (fun _ : Label => fun _ : State => True) where
  rely s s' := s.ros.branch.rosConsumersActive = true → s'.ros.branch.rosConsumersActive = true
  guar _ s s' := s'.view.sensorActive = s.view.sensorActive
  rely_refl _ := id
  rely_trans h h' := h' ∘ h

theorem completeNativeStopIfDrained_consumed (time : Int) :
    WhileConsumed.Triple (·.ros.branch.rosConsumersActive = true)
      (completeNativeStopIfDrained time) fun _ _ => True := by
  let Consumed (s : State) : Prop := s.ros.branch.rosConsumersActive = true
  have hstable : WhileConsumed.Stable Consumed := fun _ _ hr _ h => hr h
  have hleaves : ∀ {α : Type} {p : Thread α}, p.Within (fun _ s s' => Leaves s s') →
      WhileConsumed.Triple Consumed p fun _ => Consumed := fun hp =>
    hp.triple (fun _ _ _ _ _ => trivial) (fun _ _ _ h => h.2) hstable fun _ s s' h hs => by
      show s'.ros.branch.rosConsumersActive = true
      rw [h.1.ros]
      exact hs
  -- the sensor is disabled without consumers only
  have hrelease : WhileConsumed.Triple Consumed releaseSensor fun _ => Consumed := by
    refine .bind (Q := fun consumers s => consumers = true ∧ Consumed s)
      (.atomic hstable (fun _ => .and (.const _) hstable) fun s _ hs _ =>
        ⟨trivial, rfl, hs, hs⟩) fun consumers => ?_
    refine .ite (fun hnot s hs => ?_) fun _ => .ret (.and (.const _) hstable) fun _ _ h => h.2
    simp [hs.1] at hnot
  refine .bind (hleaves (read_leaves _)) fun awaiting => ?_
  cases awaiting with
  | none => exact .skip
  | some command =>
    refine .ite (fun _ => .bind (hleaves drained_leaves) fun _ => ?_) fun _ => .skip
    refine .ite (fun _ => .bind hrelease fun _ => ?_) fun _ => .skip
    exact .bind (hleaves storeSensorActive_leaves) fun _ =>
      (hleaves (completeNativeControl_leaves command time)).post fun _ _ _ => trivial

/-- **A stop drains the live branch.** -/
theorem stop_drained {s : PluginState} {a : PluginAction} (h : (pluginMachine cfg).Reachable s)
    (hack : AcknowledgesStop cfg s a) :
    (s.shared.enc.session = none ∨ s.shared.view.consumersAtCheck = true) ∧
      (∀ as, ((pluginMachine cfg).run ((pluginMachine cfg).step s a) as).shared.starts =
          s.shared.starts →
        StaysDrained s ((pluginMachine cfg).run ((pluginMachine cfg).step s a) as)) ∧
      ∀ time, (completeNativeStopIfDrained time).Within (fun _ s s' => Untouching s s') ∧
        WhileConsumed.Triple (·.ros.branch.rosConsumersActive = true)
          (completeNativeStopIfDrained time) fun _ _ => True := by
  obtain ⟨command, hawaiting, hkind, hlog⟩ := hack
  have hbooks : Books cfg s.shared := plugin_books h
  obtain ⟨hdrained, hafter⟩ : s.shared.Drained ∧
      ((pluginMachine cfg).step s a).shared = s.shared.acknowledge command.revision := by
    rcases plugin_step h a with hsame | ⟨t, l, _, _, hs⟩
    · rw [hsame] at hlog
      have := congrArg List.length hlog
      simp at this
    · exact hs.acknowledges hawaiting hkind hlog
  have hquiet : (s.shared.acknowledge command.revision).Quiet := by
    refine ⟨?_, hdrained.flight⟩
    exact (lastDrive_append [_] rfl (by simp [Event.drive?])).trans
      (hbooks.halt.stopped command hawaiting hkind)
  have hstarts : (s.shared.acknowledge command.revision).starts = s.shared.starts := by
    simp [State.starts, State.acknowledge, Event.starts]
  refine ⟨hdrained.encoder.symm, fun as hsame => ?_, fun time =>
    ⟨completeNativeStopIfDrained_untouching time, completeNativeStopIfDrained_consumed time⟩⟩
  rw [← hafter] at hquiet hstarts
  rcases hquiet.run (h.next a) as with hstart | ⟨hquiet', hsent⟩
  · omega
  · refine hquiet'.staysDrained ((h.next a).run as) (hsent.trans ?_)
    rw [hafter]
    rfl

end

/-- a stream runs and is stopped, and its encoder is released; the acknowledgment is the next
step -/
def stopRun : List PluginAction :=
  startRun ++ runCall .executor (mutationCall "stop" "b") 8 ++
    runCall .render (postRenderCall 3) 20 ++ runCall .render (frameCall 3 .needMoreInput) 20 ++
    runCall .render (postRenderCall 4) 13

theorem stop_drained_stopRun :
    let s := (pluginMachine .sample).run .sample stopRun
    let s' := (pluginMachine .sample).step s (.step .render)
    s'.shared.log.head? = some (.acknowledged 3) ∧ StaysDrained s s' := by
  have hreach : (pluginMachine .sample).Reachable ((pluginMachine .sample).run .sample stopRun) :=
    Machine.Reachable.run (PluginState.sample_reachable _) stopRun
  have hhead : ((pluginMachine .sample).step ((pluginMachine .sample).run .sample stopRun)
      (.step .render)).shared.log.head? = some (.acknowledged 3) := by decide +kernel
  have hstarts : ((pluginMachine .sample).step ((pluginMachine .sample).run .sample stopRun)
      (.step .render)).shared.starts =
        ((pluginMachine .sample).run .sample stopRun).shared.starts := by decide +kernel
  have hack : AcknowledgesStop .sample ((pluginMachine .sample).run .sample stopRun)
      (.step .render) := by
    refine ⟨⟨3, false, 90, false, none, .stop⟩, ?_, rfl, ?_⟩ <;> decide +kernel
  generalize (pluginMachine .sample).run .sample stopRun = s at hreach hhead hstarts hack
  exact ⟨hhead, (stop_drained hreach hack).2.1 [] hstarts⟩

end MediaCamera
